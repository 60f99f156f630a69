import DomainGen.Config.Audit
import DomainGen.Config.Decode
import DomainGen.Config.Text
import DomainGen.Host.Disk
import DomainGen.Host.Process

/-!
# Configuration files

Where configuration is found, how it is loaded, and how a file to start from is
written.

A process loads its configuration once and keeps it.  What is kept is a value
that every load takes and gives back: the configuration, the merged files it
was read from, and the names of these files.
-/

namespace DomainGen.Config

open Toml (Table)

variable {m : Type → Type} [Monad m]

/-- The name of a configuration file. -/
def fileName : String := "ddgen.toml"

/-- What a process keeps of its configuration. -/
structure Cache where
  config : Option Config := none
  /-- The settings of the merged files. -/
  files : Option Table := none
  /-- The files that were merged, the weakest first. -/
  loaded : List String := []
  deriving Repr, Inhabited

section Search

variable [Disk m] [Process m]

/-- The configuration file of the user.  Without a home there is none. -/
def userPath : m String := do
  match ← Process.environmentValue "HOME" with
  | none => return ""
  | some "" => return ""
  | some home => return Path.joinAll [home, ".ddgen", fileName]

/-- A directory and the directories it is in, up to one that is in itself. -/
def ancestry : (fuel : Nat) → String → List String
  | 0, directory => [directory]
  | fuel + 1, directory =>
      let parent := Path.dir directory
      if parent = directory then [directory] else directory :: ancestry fuel parent

/-- All directories that a directory is in, itself first.  Going up makes a path
shorter, but for the first step, which may spell it out. -/
def upwards (directory : String) : List String := ancestry (directory.length + 2) directory

/-- The first configuration file in a list of directories. -/
def firstFile : List String → m String
  | [] => return ""
  | directory :: rest => do
      let path := Path.under directory fileName
      match ← Disk.kind path with
      | .ok .file => return path
      | _ => firstFile rest

/-- The nearest configuration file at or above a directory, or nothing. -/
def findProject (directory : String) : m String := firstFile (upwards directory)

end Search

section Load

variable [Disk m] [Process m]

/-- The settings in a file. -/
def readSettings (path : String) : ExceptT Failure m Table := do
  let bytes ← (Disk.readFile path : ExceptT Failure m Bytes)
  match Toml.parse (Text.ofBytes bytes) with
  | .ok table => return loweredEntries [] table
  | .error message => throw (.external ("While parsing config: toml: " ++ message))

/-- Merge files in order, and tell which ones were merged.  Files that do not
exist are passed over; the first that cannot be read ends the merge. -/
def mergeFiles (merged : Table) (loaded : List String) :
    List String → m (Except Failure Table × List String)
  | [] => return (.ok merged, loaded)
  | path :: rest => do
      match ← Disk.kind path with
      | .error _ => mergeFiles merged loaded rest
      | .ok _ =>
          match ← (readSettings path).run with
          | .error failure =>
              return (.error (.context ("failed to read config file " ++ path) failure), loaded)
          | .ok table => mergeFiles (merge merged (settled table)) (loaded ++ [path]) rest

/-- The configuration files of a run: that of the user and that of the project,
unless it is the same. -/
def candidates : m (List String) := do
  let user ← userPath
  let project ← findProject (← Process.workingDirectory)
  return (if user = "" then [] else [user]) ++
    (if project = "" || project = user then [] else [project])

/-- The merged files, read unless that was done before. -/
def ensureFiles (cache : Cache) : m (Except Failure Table × Cache) := do
  match cache.files with
  | some table => return (.ok table, cache)
  | none =>
      let paths ← candidates
      let (result, loaded) ← mergeFiles [] [] paths
      return (result, { cache with files := result.toOption, loaded })

/-- The variables among some names that are set and not empty. -/
def setVariables : List String → m (List (String × String))
  | [] => return []
  | name :: rest => do
      let found ← Process.environmentValue name
      let more ← setVariables rest
      match found with
      | none => return more
      | some "" => return more
      | some text => return (name, text) :: more

/-- All settings of a run, as a tree. -/
def currentSettings (files : Table) : m Table := do
  let assigned ← setVariables (variableNames files)
  return settings assigned files

/-- All settings, from files that are read unless that was done before. -/
def loadSettings (cache : Cache) : m (Except Failure Table × Cache) := do
  let (result, cache) ← ensureFiles cache
  match result with
  | .error failure => return (.error failure, cache)
  | .ok files => return (.ok (← currentSettings files), cache)

/-- The configuration of the process: the one it keeps, or a new one which it then
keeps. -/
def load (cache : Cache) : m (Except Failure Config × Cache) := do
  match cache.config with
  | some config => return (.ok config, cache)
  | none =>
      let (result, cache) ← loadSettings cache
      match result.bind decode with
      | .error failure => return (.error failure, cache)
      | .ok config => return (.ok config, { cache with config := some config })

/-- The configuration in one file.  Variables do not matter to it. -/
def loadFile (path : String) : ExceptT Failure m Config := do
  let files ← (readSettings path).adapt (.context ("failed to read config file " ++ path))
  match decode (settings [] files) with
  | .ok config => return config
  | .error failure => throw (.context ("failed to load " ++ path) failure)

/-- The keys in a file that mean nothing, sorted. -/
def unknownKeys (path : String) : ExceptT Failure m (List String) := do
  let bytes ← (Disk.readFile path).adapt (.context ("failed to parse config file " ++ path))
  match unknownKeysOf (Text.ofBytes bytes) with
  | .ok keys => return keys
  | .error complaint =>
      throw (.context ("failed to parse config file " ++ path) (.external complaint.text))

end Load

section Write

variable [Disk m] [Journal m]

/-- A backup of a file. -/
def backupPath (path : String) (number : Nat) : String := path ++ ".back" ++ toString number

/-- Move a backup on, if there is one. -/
def shiftBackup (path : String) (number : Nat) : ExceptT Failure m Unit := do
  let source := backupPath path number
  let target := backupPath path (number + 1)
  if ← (Disk.occupied source : m Bool) then
    (Disk.attempt "rename" [source, target] (Disk.rename source target)).adapt
      (.context ("failed to rotate .back" ++ toString number ++ " to .back" ++
        toString (number + 1)))

/-- Remove the oldest backup.  That it cannot be removed is only noted. -/
def dropBackup (path : String) : m Unit := do
  let oldest := backupPath path 3
  match ← Disk.remove oldest with
  | .ok _ | .error .missing => return ()
  | .error refusal =>
      note .warn "" "Failed to delete old backup"
        [("path", .text oldest), ("error", .text (Failure.system "remove" [oldest] refusal).text)]

/-- Keep a file as its first backup, after moving the earlier ones on. -/
def rotate (path : String) : ExceptT Failure m Unit := do
  if ← (Disk.isFree path : m Bool) then return ()
  (dropBackup path : m Unit)
  shiftBackup path 2
  shiftBackup path 1
  let bytes ← (Disk.readFile path).adapt (.context "failed to read config for backup")
  (Disk.writeFile (backupPath path 1) bytes).adapt (.context "failed to create .back1")

/-- Write a configuration file to start from.  An existing file is kept as a
backup if it may be overwritten, and otherwise left alone. -/
def writeDefault (path : String) (overwrite : Bool) : ExceptT Failure m Unit := do
  if (← (Disk.occupied path : m Bool)) && !overwrite then
    throw (.hint "pass --force to overwrite it (the old file is kept as .back1)"
      (.message ("config file " ++ path ++ " already exists")))
  (Disk.makeDirectories (Path.dir path).toList).adapt
    (.context ("failed to create directory for " ++ path))
  (rotate path).adapt (.context "failed to create backup")
  (Disk.writeFile path defaultFile.toUTF8.toList).adapt
    (.context ("failed to write config file " ++ path))

end Write

end DomainGen.Config
