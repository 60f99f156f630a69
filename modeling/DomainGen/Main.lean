import DomainGen.Cli.Program
import DomainGen.Log.Sink
import Std.Time.DateTime.Timestamp

/-!
# The command line

The program on a real machine: its files, environment, clock and streams.
Everything that is decided is decided elsewhere.
-/

namespace DomainGen.Main

/-- A run on a real machine, with its log once that is open. -/
abbrev App := StateT (Option LogSink) IO

private def refusalOf (error : IO.Error) : Refusal :=
  match error with
  | .noFileOrDirectory .. => .missing
  | .alreadyExists .. => .alreadyExists
  | .inappropriateType .. => .notDirectory
  | .permissionDenied .. => .denied
  | .resourceExhausted .. => .noSpace
  | .hardwareFault .. => .broken
  | .resourceBusy .. => .notEmpty
  | .unsatisfiedConstraints .. => .notEmpty
  | _ => .invalid

private def attempted {α : Type} (action : IO α) : App (Except Refusal α) := do
  match ← (action.toBaseIO : BaseIO (Except IO.Error α)) with
  | .ok value => return .ok value
  | .error error => return .error (refusalOf error)

private def kindOf (path : String) : IO EntryKind := do
  let found ← ((← IO.currentDir) / path).metadata
  return if found.type == .dir then .directory else .file

private def lookAt (path : String) : IO EntryKind := do
  let found ← ((← IO.currentDir) / path).symlinkMetadata
  return if found.type == .dir then .directory else .file

/-- What stands at or below a path, directories before what they hold.  What cannot be looked
at is not entered. -/
private partial def entriesOf (path : String) : IO (List Entry) := do
  match ← ((lookAt path).toBaseIO : BaseIO (Except IO.Error EntryKind)) with
  | .ok .directory =>
      let opened := ((← IO.currentDir) / path).readDir
      match ← (opened.toBaseIO : BaseIO (Except IO.Error (Array IO.FS.DirEntry))) with
      | .ok entries =>
          let names := (entries.toList.map (·.fileName)).mergeSort fun one other => one ≤ other
          let inside ← names.mapM fun name => entriesOf (Path.under path name)
          return { path, kind := .directory } :: inside.flatten
      | .error error => return [{ path, kind := .directory, closed := some (refusalOf error) }]
  | _ => return [{ path, kind := .file }]

instance : Disk App where
  kind path := attempted (kindOf path)
  look path := attempted (lookAt path)
  read path := do
    match ← attempted (kindOf path) with
    | .ok .directory => return .error .isDirectory
    | _ => attempted do return (← IO.FS.readBinFile path).toList
  write path bytes := do
    match ← attempted (kindOf path) with
    | .ok .directory => return .error .isDirectory
    | _ => attempted (IO.FS.writeBinFile path bytes.toByteArray)
  makeDirectory path := attempted (IO.FS.createDir path)
  entries path := attempted do
    let _ ← lookAt path
    entriesOf path
  remove path := attempted do
    match ← kindOf path with
    | .directory => IO.FS.removeDir path
    | .file => IO.FS.removeFile path
  rename source target := do
    match ← attempted (kindOf target) with
    | .ok .directory => return .error .alreadyExists
    | _ => attempted (IO.FS.rename source target)
  makeTemporary := attempted do return (← IO.FS.createTempDir).toString
  removeAll path := do
    let _ ← attempted (IO.FS.removeDirAll path)

instance : Process App where
  workingDirectory := do return (← IO.currentDir).toString
  environmentValue name := IO.getEnv name
  milliseconds := IO.monoMsNow

instance : Console App where
  print text := do
    let stream ← IO.getStdout
    stream.putStr text
    stream.flush
  printError text := do (← IO.getStderr).putStr text

private def secondsNow : IO Int := do
  return (← Std.Time.Timestamp.now).toSecondsSinceUnixEpoch.val

instance : Journal App where
  start json least := set (some { json, least } : Option LogSink)
  log entry := do
    match ← get with
    | none => return ()
    | some sink =>
        let (text, sink) := sink.append (← secondsNow) entry
        set (some sink)
        Console.printError text

/-- When a file was changed last, in nanoseconds. -/
private def stamp (file : String) : IO (Option Int) := do
  let found := ((← IO.currentDir) / file).metadata
  match ← (found.toBaseIO : BaseIO (Except IO.Error IO.FS.Metadata)) with
  | .ok found => return some (found.modified.sec * 1000000000 + found.modified.nsec.toNat)
  | .error _ => return none

/-- When each file was changed last. -/
private def stamps (files : List String) : IO (List (String × Option Int)) :=
  files.mapM fun (file : String) => do return (file, ← stamp file)

/-- Look at the watched files again and again. -/
private partial def watchFiles (session : Cli.WatchSession)
    (known : List (String × Option Int)) : App Unit := do
  IO.sleep (UInt32.ofNat (session.watcher.debounce / 1000000).toNat)
  let current ← stamps session.watcher.files
  let changed := current.filter fun stamp => stamp.2.isSome && !known.contains stamp
  let session ← changed.foldlM
    (fun session stamp => session.handle (.change { path := stamp.1, kinds := [.write] })) session
  let session ← session.handle .tick
  watchFiles session current

/-- What is known about this build. -/
def build : BuildInfo := BuildInfo.withDefaults { toolchain := "lean4", platform := "native" }

/-- Run the program until it is over. -/
def program (line : List String) : App UInt32 := do
  match ← Cli.run build line with
  | .finished status => return UInt32.ofNat status
  | .watching session =>
      watchFiles session (← stamps session.watcher.files)
      return 0

end DomainGen.Main

/-- Generate code from a domain model. -/
def main (line : List String) : IO UInt32 := do
  let (status, _) ← (DomainGen.Main.program line).run none
  return status
