import DomainGen.Text.Path

/-!
# Generator output

What a generator produces: directories and files in the order in which they
are to be made, by paths relative to the destination.
-/

namespace DomainGen

/-- One piece of generator output. -/
inductive Artifact where
  | directory (path : String)
  | file (path content : String)
  deriving Repr, DecidableEq, Inhabited

namespace Artifact

/-- Where the piece goes, relative to the destination. -/
def path : Artifact → String
  | directory path => path
  | file path _ => path

/-- The path of a file. -/
def filePath? : Artifact → Option String
  | directory _ => none
  | file path _ => some path

end Artifact

/-- What a generation run is asked for. -/
structure GenerateOptions where
  /-- The model file; its name names the output. -/
  source : String := ""
  /-- The output directory; when empty, one next to the source. -/
  destination : String := ""
  /-- A dotted package around every package of the model. -/
  rootPackage : String := ""
  deriving Repr, DecidableEq, Inhabited

/-- The file name of a model without its extension. -/
def outputName (source : String) : String :=
  let base := Path.base source
  let extension := Path.extension base
  String.ofList (base.toList.take (base.length - extension.length))

/-- The directory `generated` next to the model. -/
def defaultDestination (source : String) : String :=
  Path.under (Path.dir source) "generated"

/-- The output directory: the one asked for, else the default. -/
def GenerateOptions.resolvedDestination (options : GenerateOptions) : String :=
  if options.destination = "" then defaultDestination options.source else options.destination

end DomainGen
