import DomainGen.Failure.Basic
import DomainGen.Text.Path

/-!
# File operations

What a program asks of a file system.  The operations are those of a class, so
that the same program runs against a real disk and against a file tree held in
memory.  An operation that is refused says why; the functions here turn a
refusal into a failure that names the operation and the path.
-/

namespace DomainGen

/-- The contents of a file. -/
abbrev Bytes := List UInt8

/-- What can stand at a path. -/
inductive EntryKind where
  | file | directory
  deriving Repr, DecidableEq, Inhabited

/-- What a listing tells of one path. -/
structure Entry where
  path : String
  kind : EntryKind
  /-- Why the directory cannot be opened, if it cannot. -/
  closed : Option Refusal := none
  deriving Repr, DecidableEq, Inhabited

/-- A file system. -/
class Disk (m : Type → Type) where
  /-- What a path leads to. -/
  kind : String → m (Except Refusal EntryKind)
  /-- What stands at a path itself.  A link is no directory, wherever it leads. -/
  look : String → m (Except Refusal EntryKind)
  /-- The contents of a file. -/
  read : String → m (Except Refusal Bytes)
  /-- Give a file its contents, creating it when it is missing. -/
  write : String → Bytes → m (Except Refusal Unit)
  /-- Create one directory. -/
  makeDirectory : String → m (Except Refusal Unit)
  /-- What stands at or below a path, in lexical order, each directory before what it holds.
  The paths are spelled out even if they are too long to be followed. -/
  entries : String → m (Except Refusal (List Entry))
  /-- Remove a file or an empty directory. -/
  remove : String → m (Except Refusal Unit)
  /-- Give a file or directory another path. -/
  rename : String → String → m (Except Refusal Unit)
  /-- Create a directory of its own for this run. -/
  makeTemporary : m (Except Refusal String)
  /-- Remove whatever stands at or below a path. -/
  removeAll : String → m Unit

/-- Open a directory to see what it holds. -/
def Entry.opened (entry : Entry) : Except Failure Unit :=
  match entry.closed with
  | none => .ok ()
  | some refusal => .error (.system "open" [entry.path] refusal)

/-- What a scan has found. -/
structure Listing where
  files : List String := []
  /-- Why the scan ended before everything was seen, if it did. -/
  failure : Option Failure := none
  deriving Repr, DecidableEq, Inhabited

/-- The files among some entries, up to the first directory that cannot be opened. -/
def Listing.ofEntries : List Entry → Listing
  | [] => {}
  | entry :: rest =>
      match entry.kind with
      | .file => { ofEntries rest with files := entry.path :: (ofEntries rest).files }
      | .directory =>
          match entry.opened with
          | .ok _ => ofEntries rest
          | .error failure => { failure }

namespace Disk

variable {m : Type → Type} [Monad m] [Disk m]

/-- Run an operation; a refusal becomes a failure. -/
def attempt {α : Type} (operation : String) (paths : List String)
    (action : m (Except Refusal α)) : ExceptT Failure m α :=
  ExceptT.mk do
    match ← action with
    | .ok value => return .ok value
    | .error refusal => return .error (.system operation paths refusal)

/-- The failure of reading a file.  A directory can be opened but not read. -/
def readFailure (path : String) (refusal : Refusal) : Failure :=
  .system (if refusal = .isDirectory || refusal.isLate then "read" else "open") [path] refusal

/-- The failure of writing a file. -/
def writeFailure (path : String) (refusal : Refusal) : Failure :=
  .system (if refusal.isLate then "write" else "open") [path] refusal

/-- The contents of a file. -/
def readFile (path : String) : ExceptT Failure m Bytes :=
  ExceptT.mk do
    match ← Disk.read path with
    | .ok bytes => return .ok bytes
    | .error refusal => return .error (readFailure path refusal)

/-- Give a file its contents. -/
def writeFile (path : String) (bytes : Bytes) : ExceptT Failure m Unit :=
  ExceptT.mk do
    match ← Disk.write path bytes with
    | .ok _ => return .ok ()
    | .error refusal => return .error (writeFailure path refusal)

/-- What a path leads to. -/
def status (path : String) : ExceptT Failure m EntryKind :=
  attempt "stat" [path] (Disk.kind path)

/-- The files at or below a path, as far as a scan comes. -/
def filesBelow (path : String) : ExceptT Failure m Listing := do
  let entries ← attempt "lstat" [path] (Disk.entries path)
  return .ofEntries entries

/-- The files among some entries.  Every path is looked at, and every directory is opened. -/
def filesAmong : List Entry → ExceptT Failure m (List String)
  | [] => return []
  | entry :: rest => do
      match ← attempt "lstat" [entry.path] (Disk.look entry.path) with
      | .file => return entry.path :: (← filesAmong rest)
      | .directory =>
          ExceptT.mk (pure entry.opened)
          filesAmong rest

/-- The files at or below a path.  Unlike `filesBelow` this looks at everything on the way,
and fails where that is refused. -/
def walk (path : String) : ExceptT Failure m (List String) := do
  let entries ← attempt "lstat" [path] (Disk.entries path)
  filesAmong entries

/-- Whether anything stands at a path. -/
def occupied (path : String) : m Bool := do
  match ← Disk.kind path with
  | .ok _ => return true
  | .error _ => return false

/-- Whether a path is known to be free, as opposed to out of reach. -/
def isFree (path : String) : m Bool := do
  match ← Disk.kind path with
  | .error .missing => return true
  | _ => return false

/-- The directory that the last name of a path stands in, as spelled there.
There is none when the path is a single name, or the root. -/
def spelledParent? (path : List Char) : Option (List Char) :=
  match (path.reverse.dropWhile (· = '/')).dropWhile (· ≠ '/') with
  | _ :: c :: rest => some (c :: rest).reverse
  | _ => none

theorem length_spelledParent? {path parent : List Char}
    (found : spelledParent? path = some parent) :
    parent.length < path.length := by
  have first := (List.dropWhile_sublist (· = '/') (l := path.reverse)).length_le
  have second := (List.dropWhile_sublist (· ≠ '/')
    (l := path.reverse.dropWhile (· = '/'))).length_le
  unfold spelledParent? at found
  split at found
  next equal =>
    rw [equal] at second
    cases found
    simp only [List.length_reverse, List.length_cons] at *
    omega
  next => cases found

/-- Create a directory and those it stands in, as far as they are missing. -/
def makeDirectories (path : List Char) : ExceptT Failure m Unit :=
  ExceptT.mk do
    let name := String.ofList path
    match ← Disk.kind name with
    | .ok .directory => return .ok ()
    | .ok .file => return .error (.system "mkdir" [name] .notDirectory)
    | .error _ =>
        let above ← match _found : spelledParent? path with
          | none => pure (Except.ok ())
          | some parent => (makeDirectories parent).run
        match above with
        | .error failure => return .error failure
        | .ok _ =>
            match ← Disk.makeDirectory name with
            | .ok _ => return .ok ()
            | .error refusal =>
                match ← Disk.kind name with
                | .ok .directory => return .ok ()
                | _ => return .error (.system "mkdir" [name] refusal)
  termination_by path.length
  decreasing_by exact length_spelledParent? _found

end Disk

end DomainGen
