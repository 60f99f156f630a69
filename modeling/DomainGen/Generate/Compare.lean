import DomainGen.Host.Disk
import DomainGen.Text.Path

/-!
# Comparing output

Whether every file below one directory stands, with the same contents, at the
same place below another.  Files that stand only below the other do not count.
-/

namespace DomainGen

variable {m : Type → Type} [Monad m] [Disk m]

/-- The path that leads from a directory to a file below it. -/
def relativePath (directory file : String) : String :=
  let above := Path.parts directory
  let names := Path.parts file
  if above.isPrefixOf names then Path.ofParts false (names.drop above.length) else file

/-- Whether two files have different contents. -/
def filesDiffer (first second : String) : ExceptT Failure m Bool := do
  let one ← (Disk.readFile first).adapt (.context ("failed to read " ++ first))
  let other ← (Disk.readFile second).adapt (.context ("failed to read " ++ second))
  return one != other

/-- What there is to say about a generated file, if anything. -/
def difference? (generated existing file : String) : m (Option String) := do
  let name := relativePath generated file
  match ← (filesDiffer file (Path.under existing name)).run with
  | .ok false => return none
  | .ok true => return some name
  | .error failure =>
      if failure.isMissingFile then return some (name ++ " (missing)")
      else return some (name ++ " (error: " ++ failure.text ++ ")")

/-- What there is to say about a list of generated files. -/
def differencesOf (generated existing : String) : List String → m (List String)
  | [] => return []
  | file :: rest => do
      let found ← difference? generated existing file
      let more ← differencesOf generated existing rest
      return found.toList ++ more

/-- The differences of the files below `generated` from those below `existing`,
sorted.  There is none when the output is up to date. -/
def compareDirectories (generated existing : String) : ExceptT Failure m (List String) := do
  let _ ← (Disk.status generated).adapt (.context ("failed to read generated output " ++ generated))
  let files ← (Disk.walk generated).adapt
    (.context ("failed to compare " ++ generated ++ " with " ++ existing))
  let differences ← (differencesOf generated existing files : m (List String))
  return differences.mergeSort fun first second => first ≤ second

end DomainGen
