import DomainGen.Text.Segments

/-!
# Slash-separated paths

Lexical operations on paths.  None of them looks at a file system: `clean`
gives the shortest spelling of a path, and every other operation that builds a
path returns a clean one.
-/

namespace DomainGen.Path

open DomainGen.Text

/-- Whether a path starts at the root. -/
def isAbsolute (path : String) : Bool :=
  match path.toList with
  | '/' :: _ => true
  | _ => false

/-- Take one segment onto the segments kept so far, which are held in reverse
order.  A parent segment undoes the segment before it; at the root there is no
parent. -/
def step (rooted : Bool) (kept : List String) (segment : String) : List String :=
  if segment = "" || segment = "." then kept
  else if segment = ".." then
    match kept with
    | [] => if rooted then [] else [".."]
    | last :: before => if last = ".." then ".." :: last :: before else before
  else segment :: kept

/-- The segments that are left of a path once empty, current and parent
segments are worked out. -/
def parts (path : String) : List String :=
  ((segments '/' path).foldl (step (isAbsolute path)) []).reverse

/-- Spell a path by its segments. -/
def ofParts (rooted : Bool) (names : List String) : String :=
  if rooted then "/" ++ join "/" names
  else if names.isEmpty then "." else join "/" names

/-- The shortest path that names the same place. -/
def clean (path : String) : String := ofParts (isAbsolute path) (parts path)

/-- Join path elements, leaving out empty ones at the front; nothing at all
joins to the empty path. -/
def joinAll (elements : List String) : String :=
  match elements.dropWhile (· = "") with
  | [] => ""
  | rest => clean (join "/" rest)

/-- A path below a directory. -/
def under (directory path : String) : String := joinAll [directory, path]

/-- Everything up to and including the last slash, cleaned. -/
def dir (path : String) : String :=
  clean (String.ofList (path.toList.reverse.dropWhile (· ≠ '/')).reverse)

/-- The last element of a path without the slashes that follow it. -/
def base (path : String) : String :=
  if path = "" then "."
  else
    let trimmed := path.toList.reverse.dropWhile (· = '/')
    if trimmed.isEmpty then "/"
    else String.ofList (trimmed.takeWhile (· ≠ '/')).reverse

/-- The extension: the last dot of the last element and what follows it. -/
def extension (path : String) : String :=
  let tail := path.toList.reverse.takeWhile (· ≠ '/')
  if tail.contains '.' then
    String.ofList ('.' :: (tail.takeWhile (· ≠ '.')).reverse)
  else ""

/-- The path seen from the working directory. -/
def absolute (working path : String) : String :=
  if isAbsolute path then clean path else under working path

end DomainGen.Path
