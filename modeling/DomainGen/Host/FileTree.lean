import DomainGen.Host.Disk
import DomainGen.Text.Utf8

/-!
# File trees

A file system held in memory: the files and directories below the root, each
by the names on its way, in the lexical order of these names.  A path is
followed name by name from where it starts; what stands on the way has to be a
directory.

There are files and directories only, no links.  Nobody lacks a permission and
no device fails, so an operation is refused only for what stands on the way of
its path or for the length of that.  Every operation is done as a whole or, if
it is refused, not at all.
-/

namespace DomainGen

/-- A file or a directory. -/
inductive Node where
  | file (content : Bytes)
  | directory
  deriving Repr, DecidableEq, Inhabited

/-- What a node is. -/
def Node.kind : Node → EntryKind
  | file _ => .file
  | directory => .directory

/-- Everything below the root, in lexical order: files and directories, without links and
without permissions. -/
structure FileTree where
  entries : List (List String × Node) := []
  deriving Repr, DecidableEq, Inhabited

namespace FileTree

/-- Put a node into a list of entries, in place of the one with the same names. -/
def place (names : List String) (node : Node) :
    List (List String × Node) → List (List String × Node)
  | [] => [(names, node)]
  | entry :: rest =>
      if entry.1 = names then (names, node) :: rest
      else if names < entry.1 then (names, node) :: entry :: rest
      else entry :: place names node rest

/-- What stands at the end of a way.  The root is a directory. -/
def find? (tree : FileTree) (names : List String) : Option Node :=
  if names = [] then some .directory
  else (tree.entries.find? (·.1 == names)).map (·.2)

theorem find?_place (names other : List String) (node : Node)
    (entries : List (List String × Node)) :
    (place names node entries).find? (·.1 == other) =
      if names = other then some (names, node) else entries.find? (·.1 == other) := by
  fun_induction place names node entries with
  | case1 => by_cases same : names = other <;> simp [same]
  | case2 entry rest found => by_cases same : names = other <;> simp [found, same]
  | case3 entry rest found before => by_cases same : names = other <;> simp [same]
  | case4 entry rest found before ih =>
      simp only [List.find?_cons, ih]
      by_cases same : names = other
      · have passed : (entry.1 == other) = false := by simpa [same] using found
        simp [same, passed]
      · simp [same]

/-- Put a node at the end of a way. -/
def put (tree : FileTree) (names : List String) (node : Node) : FileTree :=
  ⟨place names node tree.entries⟩

/-- A node that was put somewhere stands there, and nowhere else. -/
theorem find?_put (tree : FileTree) {names : List String} (proper : names ≠ []) (node : Node)
    (other : List String) :
    (tree.put names node).find? other = if names = other then some node else tree.find? other := by
  by_cases same : names = other
  · simp [find?, put, find?_place, same ▸ proper, same]
  · simp [find?, put, find?_place, same]

/-- Take away a node and everything below it. -/
def erase (tree : FileTree) (names : List String) : FileTree :=
  ⟨tree.entries.filter fun entry => !names.isPrefixOf entry.1⟩

/-- What was taken away is gone, with everything below it, and all else stays. -/
theorem find?_erase (tree : FileTree) (names : List String) {other : List String}
    (proper : other ≠ []) :
    (tree.erase names).find? other =
      if names.isPrefixOf other then none else tree.find? other := by
  simp only [find?, erase, if_neg proper, List.find?_filter]
  by_cases covered : names.isPrefixOf other
  · simp only [if_pos covered, Option.map_eq_none_iff, List.find?_eq_none]
    intro entry _
    by_cases same : entry.1 = other <;> simp [same, covered]
  · rw [if_neg covered]
    congr 2
    funext entry
    by_cases same : entry.1 = other <;> simp [same, covered]

/-- Everything at or below a way. -/
def below (tree : FileTree) (names : List String) : List (List String × Node) :=
  tree.entries.filter fun entry => names.isPrefixOf entry.1

/-- Everything below a way, without what stands at its end. -/
def inside (tree : FileTree) (names : List String) : List (List String × Node) :=
  (tree.below names).filter (·.1 ≠ names)

/-- Where a path leads. -/
structure Place where
  /-- The names on the way from the root. -/
  names : List String
  /-- Whether the path is spelled as that of a directory. -/
  slash : Bool
  deriving Repr, DecidableEq, Inhabited

/-- The most bytes that a name can have. -/
def nameLimit : Nat := 255

/-- The number of bytes that a path has to stay below. -/
def pathLimit : Nat := 4096

/-- Follow the names of a path from a directory.  The last name need not be
taken. -/
def descend (tree : FileTree) (here : List String) : List String → Except Refusal Place
  | [] => .ok ⟨here, false⟩
  | name :: rest =>
      if name = "" || name = "." then descend tree here rest
      else if name = ".." then descend tree here.dropLast rest
      else if nameLimit < Text.byteLength name then .error .nameTooLong
      else if rest.all (· = "") then .ok ⟨here ++ [name], !rest.isEmpty⟩
      else match tree.find? (here ++ [name]) with
        | none => .error .missing
        | some (.file _) => .error .notDirectory
        | some .directory => descend tree (here ++ [name]) rest

/-- Follow a path that starts in a working directory, unless it starts at the
root. -/
def locate (tree : FileTree) (working path : String) : Except Refusal Place :=
  if path = "" then .error .missing
  else if path.toList.contains (Char.ofNat 0) then .error .invalid
  else if pathLimit ≤ Text.byteLength path then .error .nameTooLong
  else descend tree (if Path.isAbsolute path then [] else Path.parts working)
    (Text.segments '/' path)

/-- What stands at a path. -/
def node (tree : FileTree) (working path : String) : Except Refusal Node := do
  let place ← tree.locate working path
  match tree.find? place.names with
  | none => .error .missing
  | some (.file content) => if place.slash then .error .notDirectory else return .file content
  | some .directory => return .directory

/-- The contents of a file. -/
def read (tree : FileTree) (working path : String) : Except Refusal Bytes := do
  match ← tree.node working path with
  | .file content => return content
  | .directory => .error .isDirectory

/-- Give a file its contents. -/
def write (tree : FileTree) (working path : String) (content : Bytes) :
    Except Refusal FileTree := do
  let place ← tree.locate working path
  if place.slash || tree.find? place.names = some .directory then .error .isDirectory
  else return tree.put place.names (.file content)

/-- Create one directory. -/
def makeDirectory (tree : FileTree) (working path : String) : Except Refusal FileTree := do
  let place ← tree.locate working path
  match tree.find? place.names with
  | some _ => .error .alreadyExists
  | none => return tree.put place.names .directory

/-- What a listing tells of a path.  A directory whose path is too long cannot be opened. -/
def entry (path : String) (kind : EntryKind) : Entry where
  path := path
  kind := kind
  closed := if kind = .directory ∧ pathLimit ≤ Text.byteLength path then some .nameTooLong else none

/-- What stands at or below a path, spelled with the path in front, each directory before what
it holds. -/
def entriesBelow (tree : FileTree) (working path : String) : Except Refusal (List Entry) := do
  match ← tree.node working path with
  | .file _ => return [entry path .file]
  | .directory =>
      let place ← tree.locate working path
      return entry path .directory :: (tree.inside place.names).map fun inner =>
        entry (Path.under path (Text.join "/" (inner.1.drop place.names.length))) inner.2.kind

/-- Remove a file or an empty directory. -/
def remove (tree : FileTree) (working path : String) : Except Refusal FileTree := do
  let node ← tree.node working path
  let place ← tree.locate working path
  match node with
  | .file _ => return tree.erase place.names
  | .directory =>
      if (tree.below place.names).length ≤ 1 then return tree.erase place.names
      else .error .notEmpty

/-- Everything below one way, moved below another. -/
def moved (tree : FileTree) (source target : List String) : FileTree :=
  (tree.below source).foldl
    (fun tree (names, node) => tree.put (target ++ names.drop source.length) node)
    (tree.erase source)

/-- Give a file or directory another path.  A directory is never replaced, and
replaces no file. -/
def rename (tree : FileTree) (working source target : String) : Except Refusal FileTree := do
  let node ← tree.node working source
  let origin ← tree.locate working source
  let place ← tree.locate working target
  if origin.names = place.names then return tree
  match tree.find? place.names, node with
  | some .directory, _ => .error .alreadyExists
  | some (.file _), .directory => .error .notDirectory
  | _, _ => return (tree.erase place.names).moved origin.names place.names

/-- Remove whatever stands at or below a path. -/
def removeAll (tree : FileTree) (working path : String) : FileTree :=
  match tree.locate working path with
  | .ok place => tree.erase place.names
  | .error _ => tree

end FileTree

end DomainGen
