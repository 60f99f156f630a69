import DomainGen.Ddef.Parser
import DomainGen.Host.Disk
import DomainGen.Host.Process
import DomainGen.Link.Resolve
import DomainGen.Model.Yaml

/-!
# Loading models

From files to linked documents.  A model is linked with all other model files
below a root, when there is one; files there that cannot be read as models are
left out.
-/

namespace DomainGen

/-- The extensions of model files. -/
def modelExtensions : List String := [".ddef", ".yaml", ".yml"]

/-- Whether a path is that of a model file, by its extension. -/
def isModelFile (path : String) : Bool :=
  Text.lowerCase (Path.extension path) ∈ modelExtensions

/-- A file that is not a model. -/
def unsupportedModel (path : String) : Failure :=
  .hint ("expected one of: " ++ Text.join ", " modelExtensions)
    (.mark .unsupportedInput (.message ("unsupported model file " ++ path)))

/-- The model in the contents of a file, in the format that its extension
tells. -/
def parseContents (path : String) (bytes : Bytes) : Except Diagnostic Definitions :=
  if Text.lowerCase (Path.extension path) = ".ddef" then
    (Ddef.parse (Text.ofBytes bytes)).mapError (·.diagnostic)
  else Definitions.ofYaml bytes

variable {m : Type → Type} [Monad m] [Disk m] [Process m] [Journal m]

/-- Read a model file.  Nothing is linked. -/
def parseFile (path : String) : ExceptT Failure m Document := do
  if !isModelFile path then throw (unsupportedModel path)
  let bytes ← (Disk.readFile path).adapt (.context ("failed to read model file " ++ path))
  match parseContents path bytes with
  | .ok defs => return { path, definitions := some defs }
  | .error diagnostic => throw (.ofDiagnostic (diagnostic.inFile path))

/-- A model that was linked together with others. -/
structure LoadedModel where
  document : Document
  siblings : List Document := []
  deriving Repr, Inhabited

namespace LoadedModel

/-- All documents, the loaded one first. -/
def documents (model : LoadedModel) : List Document := model.document :: model.siblings

/-- The types of all documents. -/
def scope (model : LoadedModel) : Scope := Scope.ofDocuments model.documents

/-- The declarations of the loaded document. -/
def definitions (model : LoadedModel) : Definitions := model.document.definitions.getD {}

/-- Link the documents and check the first. -/
def linked (model : LoadedModel) : LoadedModel :=
  match linkAll model.documents with
  | [] => model
  | document :: siblings => { document := document.check, siblings }

end LoadedModel

/-- The model files below a root, apart from the file at `path`, as far as the root can be
scanned. -/
def otherModelFiles (path root : String) : ExceptT Failure m Listing := do
  let working ← (Process.workingDirectory : m String)
  let listing ← Disk.filesBelow root
  return { listing with
    files := listing.files.filter fun file =>
      isModelFile file && Path.absolute working file != Path.absolute working path }

/-- Read the model files that can be read; the others are noted in the log. -/
def parseAll : List String → m (List Document)
  | [] => return []
  | file :: rest => do
      match ← (parseFile file).run with
      | .ok document => return document :: (← parseAll rest)
      | .error failure =>
          note .warn "" "Skipping model file" [("file", .text file), ("error", .text failure.text)]
          parseAll rest

/-- The documents below a root, apart from the one at `path`.  Where the scan of the root ends
early, the files up to there have been read. -/
def siblingDocuments (path root : String) : ExceptT Failure m (List Document) := do
  if root = "" then return []
  let scanning : Failure → Failure := .context ("failed to scan model root " ++ root)
  let listing ← (otherModelFiles path root).adapt scanning
  let documents ← (parseAll listing.files : m (List Document))
  match listing.failure with
  | none => return documents
  | some failure => throw (scanning failure)

/-- Note what was found out about a model. -/
def noteFindings (model : LoadedModel) : m Unit := do
  for diagnostic in model.document.diagnostics do
    note .debug "" "Diagnostic"
      [("file", .text diagnostic.file), ("line", .int diagnostic.line),
        ("severity", .text diagnostic.severity.word), ("message", .text diagnostic.message)]
  note .debug "" "Loaded model"
    [("source", .text model.document.path), ("count", .int model.definitions.types.length),
      ("documents", .int model.documents.length),
      ("diagnostics", .int model.document.diagnostics.length)]

/-- Load a model and link it with the other models below a root, when there is
one. -/
def load (path root : String) : ExceptT Failure m LoadedModel := do
  let document ← parseFile path
  let siblings ← siblingDocuments path root
  let model := LoadedModel.linked { document, siblings }
  (noteFindings model : m Unit)
  return model

end DomainGen
