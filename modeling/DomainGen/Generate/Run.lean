import DomainGen.Generate.Target
import DomainGen.Model.Load

/-!
# Generation runs

Writing generator output below a destination, and comparing freshly generated
output with what stands at a destination already.
-/

namespace DomainGen

variable {m : Type → Type} [Monad m] [Disk m] [Process m] [Journal m]

/-- Write one piece of output below a destination. -/
def writeArtifact (destination : String) (artifact : Artifact) : ExceptT Failure m Unit := do
  let path := Path.under destination artifact.path
  match artifact with
  | .directory _ =>
      (Disk.makeDirectories path.toList).adapt (.context ("failed to create directory " ++ path))
  | .file name content =>
      (Disk.writeFile path content.toUTF8.toList).adapt (.context ("failed to write " ++ path))
      (note .debug "typegen" "Wrote artifact"
        [("artifact", .text name), ("path", .text path),
          ("bytes", .int (Text.byteLength content))] : m Unit)

/-- Write pieces of output in order.  Before each of them the run can be
`cancelled`; the first that cannot be written ends the run. -/
def writeEach (cancelled : m Bool) (destination : String) :
    List Artifact → ExceptT Failure m Unit
  | [] => return ()
  | artifact :: rest => do
      if ← (cancelled : m Bool) then
        throw (.context "generation cancelled" (.sentinel .canceled))
      writeArtifact destination artifact
      writeEach cancelled destination rest

/-- Create the destination and write the output below it. -/
def writeArtifacts (cancelled : m Bool) (destination : String) (artifacts : List Artifact) :
    ExceptT Failure m Unit := do
  (Disk.makeDirectories destination.toList).adapt
    (.context ("failed to create output directory " ++ destination))
  writeEach cancelled destination artifacts

/-- What a generation run wrote. -/
structure RunResult where
  /-- What was generated. -/
  label : String
  /-- Where it was written. -/
  path : String
  /-- The files, relative to the destination. -/
  files : List String
  deriving Repr, DecidableEq, Inhabited

/-- Generate a loaded model and write the output.  Without a source in the
options, the file that was loaded counts. -/
def runGeneration (cancelled : m Bool) (target : Target) (model : LoadedModel)
    (options : GenerateOptions) : ExceptT Failure m RunResult := do
  let start ← (Process.milliseconds : m Nat)
  let options := if options.source = "" then { options with source := model.document.path }
    else options
  let destination := options.resolvedDestination
  let analysis := analyze model.scope 0 model.definitions
  (note .debug "typegen" "Analyzed model"
    [("implementing_types", .int analysis.unionsOf.length),
      ("aliased_unions", .int analysis.aliasesOf.length)] : m Unit)
  let artifacts := target.generate model.scope 0 analysis model.definitions options
  writeArtifacts cancelled destination artifacts
  let result : RunResult := {
    label := target.label
    path := Path.under destination (target.root options)
    files := artifacts.filterMap (·.filePath?) }
  let finish ← (Process.milliseconds : m Nat)
  (note .debug "typegen" "Generation complete"
    [("target", .text target.language), ("path", .text result.path),
      ("count", .int result.files.length), ("duration_ms", .int (finish - start : Nat))] : m Unit)
  return result

end DomainGen
