import DomainGen.Model.Load

/-!
# Watching model files

A watcher decides which changes of files matter and when to act on them.  It
watches directories, so that a file which is replaced as a whole is noticed
too.  A burst of changes leads to one action: a change that matters arms the
watcher, and the tick at the end of the burst makes it act and disarms it.
-/

namespace DomainGen

/-- What happened to a file. -/
inductive ChangeKind where
  | create | write | remove | rename | chmod
  deriving Repr, DecidableEq, Inhabited

/-- The name of a kind of change. -/
def ChangeKind.name : ChangeKind → String
  | create => "CREATE"
  | write => "WRITE"
  | remove => "REMOVE"
  | rename => "RENAME"
  | chmod => "CHMOD"

/-- A change of a file.  Several things can have happened at once. -/
structure FileChange where
  path : String
  kinds : List ChangeKind
  deriving Repr, DecidableEq, Inhabited

/-- The files that are watched, by absolute path, and how long a burst of changes
lasts at most after its last change. -/
structure Watcher where
  files : List String
  /-- In nanoseconds. -/
  debounce : Int
  deriving Repr, DecidableEq, Inhabited

/-- How long to wait for further changes when nothing else is asked for. -/
def defaultDebounce : Int := 300000000

section

variable {m : Type → Type} [Monad m] [Disk m] [Process m] [Journal m]

/-- Find the directory of each file; the first that is missing ends the search. -/
def checkDirectories : List String → ExceptT Failure m Unit
  | [] => return ()
  | file :: rest => do
      let directory := Path.dir file
      match ← (Disk.kind directory : m (Except Refusal EntryKind)) with
      | .ok _ => checkDirectories rest
      | .error refusal =>
          throw (.context ("failed to watch " ++ directory) (.system "" [] refusal))

/-- Watch files.  A time to wait that is not positive means the default. -/
def Watcher.create (files : List String) (debounce : Int) : ExceptT Failure m Watcher := do
  if files.isEmpty then throw (.message "no files to watch")
  let working ← (Process.workingDirectory : m String)
  let absolute := files.map (Path.absolute working)
  checkDirectories absolute
  return { files := absolute, debounce := if debounce ≤ 0 then defaultDebounce else debounce }

/-- The model file and the other model files below a root, when there is one. -/
def watchedFiles (source root : String) : ExceptT Failure m (List String) := do
  if root = "" then return [source]
  let scanning : Failure → Failure := .context ("failed to scan " ++ root)
  let listing ← (otherModelFiles source root).adapt scanning
  match listing.failure with
  | none => return source :: listing.files
  | some failure => throw (scanning failure)

end

namespace Watcher

/-- Whether a change matters: a watched file was created, written or renamed. -/
def relevant (watcher : Watcher) (working : String) (change : FileChange) : Bool :=
  change.kinds.any (fun kind => kind == .write || kind == .create || kind == .rename) &&
    Path.absolute working change.path ∈ watcher.files

/-- What a watcher can meet. -/
inductive Signal where
  | change (change : FileChange)
  | tick
  /-- Watching the files has failed for once. -/
  | trouble (reason : String)
  | stop
  deriving Repr, DecidableEq, Inhabited

/-- Where a watcher stands. -/
structure State where
  /-- Whether there is something to act on at the next tick. -/
  armed : Bool := false
  /-- Whether watching has ended. -/
  stopped : Bool := false
  deriving Repr, DecidableEq, Inhabited

/-- Take up one signal, and tell whether to act on the changes so far. -/
def step (watcher : Watcher) (working : String) (state : State) (signal : Signal) :
    State × Bool :=
  if state.stopped then (state, false)
  else match signal with
    | .change change =>
        ({ state with armed := state.armed || watcher.relevant working change }, false)
    | .tick => ({ state with armed := false }, state.armed)
    | .trouble _ => (state, false)
    | .stop => ({ state with stopped := true }, false)

/-- Take up signals in order, and count the actions. -/
def steps (watcher : Watcher) (working : String) (state : State) (signals : List Signal) :
    State × Nat :=
  signals.foldl
    (fun (state, actions) signal =>
      let (state, acts) := watcher.step working state signal
      (state, if acts then actions + 1 else actions))
    (state, 0)

section

variable {m : Type → Type} [Monad m] [Process m] [Journal m]

/-- Note a signal in the log. -/
def noteSignal (watcher : Watcher) (working : String) : Signal → m Unit
  | .change change =>
      if watcher.relevant working change then
        note .debug "watch" "Detected change"
          [("file", .text change.path),
            ("op", .text (Text.join "|" (change.kinds.map ChangeKind.name)))]
      else pure ()
  | .trouble reason => note .warn "watch" "Watcher error" [("error", .text reason)]
  | .tick | .stop => pure ()

/-- Take up one signal, and act when it is time to.  That acting fails is only
noted. -/
def attend (watcher : Watcher) (act : m (Option Failure)) (state : State) (signal : Signal) :
    m State := do
  if state.stopped then return state
  let working ← Process.workingDirectory
  watcher.noteSignal working signal
  let (next, acts) := watcher.step working state signal
  if acts then
    match ← act with
    | none => pure ()
    | some failure => note .error "watch" "Regeneration failed" [("error", .text failure.text)]
  return next

end

end Watcher

end DomainGen
