import DomainGen.Host.Machine
import DomainGen.Proofs.Outcome

/-!
# Questions that change nothing

What a host answers when it is asked about its files is its view of them.  Nothing is assumed
about a view: links, missing permissions and devices that fail are answers like any others.
A computation that only asks leaves the host as it was, and what it yields is determined by
the view (`Viewed.run_walk`).  Writing to the log makes no difference to the view either
(`Logged.view_eq`).
-/

namespace DomainGen

/-- What can be found out about files without changing them. -/
structure View where
  working : String
  kind : String → Except Refusal EntryKind
  look : String → Except Refusal EntryKind
  read : String → Except Refusal Bytes
  entries : String → Except Refusal (List Entry)

/-- A host that answers questions about its files by a view of them.  To be asked does not
change the host, and to log something does not change the view. -/
class Viewed (σ : Type) [Disk (StateM σ)] [Process (StateM σ)] [Journal (StateM σ)] where
  view : σ → View
  working (state : σ) :
    (Process.workingDirectory : StateM σ String) state = ((view state).working, state)
  kind (path : String) (state : σ) :
    (Disk.kind path : StateM σ _) state = ((view state).kind path, state)
  look (path : String) (state : σ) :
    (Disk.look path : StateM σ _) state = ((view state).look path, state)
  read (path : String) (state : σ) :
    (Disk.read path : StateM σ _) state = ((view state).read path, state)
  entries (path : String) (state : σ) :
    (Disk.entries path : StateM σ _) state = ((view state).entries path, state)
  log (entry : LogEntry) (state : σ) :
    view ((Journal.log entry : StateM σ Unit) state).2 = view state

/-- What is seen of a file tree from a working directory. -/
def FileTree.view (tree : FileTree) (working : String) : View where
  working := working
  kind path := (tree.node working path).map (·.kind)
  look path := (tree.node working path).map (·.kind)
  read := tree.read working
  entries := tree.entriesBelow working

theorem FileTree.look_view {tree : FileTree} {working path : String} {node : Node}
    (stands : tree.node working path = .ok node) :
    (tree.view working).look path = .ok node.kind :=
  congrArg (Except.map Node.kind) stands

instance : Viewed Machine where
  view machine := machine.tree.view machine.working
  working _ := rfl
  kind _ _ := rfl
  look _ _ := rfl
  read _ _ := rfl
  entries _ _ := rfl
  log entry machine := by
    simp only [Journal.log]
    cases machine.log with
    | none => rfl
    | some sink => rfl

/-! ## A host that only shows

Every view is that of some host: of one that lets nobody change anything. -/

instance : Disk (StateM View) where
  kind path := fun view => (view.kind path, view)
  look path := fun view => (view.look path, view)
  read path := fun view => (view.read path, view)
  write _ _ := pure (.error .denied)
  makeDirectory _ := pure (.error .denied)
  entries path := fun view => (view.entries path, view)
  remove _ := pure (.error .denied)
  rename _ _ := pure (.error .denied)
  makeTemporary := pure (.error .denied)
  removeAll _ := pure ()

instance : Process (StateM View) where
  workingDirectory := fun view => (view.working, view)
  environmentValue _ := pure none
  milliseconds := pure 0

instance : Journal (StateM View) where
  start _ _ := pure ()
  log _ := pure ()

instance : Viewed View where
  view := id
  working _ := rfl
  kind _ _ := rfl
  look _ _ := rfl
  read _ _ := rfl
  entries _ _ := rfl
  log _ _ := rfl

/-! ## Scans -/

namespace Listing

/-- A scan comes to its end if every directory on the way can be opened. -/
theorem failure_ofEntries_eq_none_iff {entries : List Entry} :
    (ofEntries entries).failure = none ↔
      ∀ entry ∈ entries, entry.kind = .directory → entry.closed = none := by
  induction entries with
  | nil => simp [ofEntries]
  | cons entry rest ih =>
      rw [List.forall_mem_cons, ← ih, ofEntries]
      cases entry.kind with
      | file => simp
      | directory =>
          cases closed : entry.closed with
          | none => simp [Entry.opened, closed]
          | some refusal => simp [Entry.opened, closed]

/-- A scan that comes to its end has found all files. -/
theorem files_ofEntries {entries : List Entry}
    (opened : ∀ entry ∈ entries, entry.kind = .directory → entry.closed = none) :
    (ofEntries entries).files = (entries.filter (·.kind = .file)).map (·.path) := by
  induction entries with
  | nil => rfl
  | cons entry rest ih =>
      obtain ⟨first, later⟩ := List.forall_mem_cons.mp opened
      rw [ofEntries]
      cases kind : entry.kind with
      | file => simp [kind, ih later]
      | directory => simp [kind, Entry.opened, first kind, ih later]

end Listing

namespace View

variable (view : View)

/-- A scan from a path on comes to its end: something stands there, and every directory at or
below it can be opened. -/
def Scannable (root : String) : Prop :=
  ∃ entries, view.entries root = .ok entries ∧
    ∀ entry ∈ entries, entry.kind = .directory → entry.closed = none

/-- The files at or below a path, if a scan comes to its end. -/
def scan? (root : String) : Option (List String) :=
  (view.entries root).toOption.bind fun entries =>
    if (Listing.ofEntries entries).failure = none then some (Listing.ofEntries entries).files
    else none

variable {view}

theorem scan?_eq_some_iff {root : String} {files : List String} :
    view.scan? root = some files ↔
      ∃ entries, view.entries root = .ok entries ∧
        (∀ entry ∈ entries, entry.kind = .directory → entry.closed = none) ∧
        (entries.filter (·.kind = .file)).map (·.path) = files := by
  unfold scan?
  cases view.entries root with
  | error refusal => simp [Except.toOption]
  | ok entries =>
      simp only [Except.toOption, Option.bind_some, Option.ite_none_right_eq_some,
        Listing.failure_ofEntries_eq_none_iff, Except.ok.injEq, exists_eq_left', Option.some.injEq]
      refine and_congr_right fun opened => ?_
      rw [Listing.files_ofEntries opened]

theorem isSome_scan?_iff {root : String} : (view.scan? root).isSome ↔ view.Scannable root := by
  rw [Option.isSome_iff_exists]
  constructor
  · rintro ⟨files, scanned⟩
    obtain ⟨entries, listed, opened, -⟩ := scan?_eq_some_iff.mp scanned
    exact ⟨entries, listed, opened⟩
  · rintro ⟨entries, listed, opened⟩
    exact ⟨_, scan?_eq_some_iff.mpr ⟨entries, listed, opened, rfl⟩⟩

end View

/-! ## Walks -/

namespace View

variable (view : View)

/-- A walk can go on behind an entry: its path can be looked at and, if it is that of a
directory, opened. -/
def Passes (entry : Entry) : Prop :=
  view.look entry.path = .ok .file ∨ view.look entry.path = .ok .directory ∧ entry.closed = none

/-- A walk from a path on comes to its end. -/
def Walkable (path : String) : Prop :=
  ∃ entries, view.entries path = .ok entries ∧ ∀ entry ∈ entries, view.Passes entry

/-- Whether a path can be looked at and is not that of a directory. -/
def isFile (path : String) : Bool := (view.look path).toOption = some .file

/-- The files among some entries, as a walk comes to them. -/
def filesAmong : List Entry → Except Failure (List String)
  | [] => .ok []
  | entry :: rest =>
      ((view.look entry.path).mapError (.system "lstat" [entry.path])).bind fun
        | .file => (filesAmong rest).map (entry.path :: ·)
        | .directory => entry.opened.bind fun _ => filesAmong rest

/-- The files at or below a path, as a walk comes to them. -/
def walk (path : String) : Except Failure (List String) :=
  ((view.entries path).mapError (.system "lstat" [path])).bind view.filesAmong

variable {view}

theorem filesAmong_eq_ok_iff {entries : List Entry} {files : List String} :
    view.filesAmong entries = .ok files ↔
      (∀ entry ∈ entries, view.Passes entry) ∧
        (entries.filter (view.isFile ·.path)).map (·.path) = files := by
  induction entries generalizing files with
  | nil => simp [filesAmong]
  | cons entry rest ih =>
      rw [List.forall_mem_cons, filesAmong, Passes]
      cases seen : view.look entry.path with
      | error refusal => simp [Except.bind]
      | ok kind =>
          simp only [mapError_ok, Except.bind]
          cases kind with
          | file =>
              rw [List.filter_cons_of_pos (by simp [isFile, seen, Except.toOption]), List.map_cons]
              constructor
              · intro walked
                obtain ⟨others, more, rfl⟩ := exists_of_map_eq_ok walked
                obtain ⟨passed, rfl⟩ := ih.mp more
                exact ⟨⟨.inl rfl, passed⟩, rfl⟩
              · rintro ⟨⟨-, passed⟩, rfl⟩
                rw [ih.mpr ⟨passed, rfl⟩]
                rfl
          | directory =>
              rw [List.filter_cons_of_neg (by simp [isFile, seen, Except.toOption]), Entry.opened]
              cases entry.closed with
              | none => simp [ih]
              | some refusal => simp

theorem walk_eq_ok_iff {path : String} {files : List String} :
    view.walk path = .ok files ↔
      ∃ entries, view.entries path = .ok entries ∧ (∀ entry ∈ entries, view.Passes entry) ∧
        (entries.filter (view.isFile ·.path)).map (·.path) = files := by
  unfold walk
  cases view.entries path with
  | error refusal => simp [Except.bind]
  | ok entries =>
      simp only [mapError_ok, Except.bind, filesAmong_eq_ok_iff, Except.ok.injEq, exists_eq_left']

theorem exists_walk_iff {path : String} :
    (∃ files, view.walk path = .ok files) ↔ view.Walkable path := by
  simp only [walk_eq_ok_iff]
  constructor
  · rintro ⟨files, entries, listed, passed, -⟩
    exact ⟨entries, listed, passed⟩
  · rintro ⟨entries, listed, passed⟩
    exact ⟨_, entries, listed, passed, rfl⟩

end View

/-! ## Running -/

variable {σ : Type}

theorem run_attempt_stateM {α : Type} [Disk (StateM σ)] (operation : String)
    (paths : List String) (action : StateM σ (Except Refusal α)) (state : σ) :
    (Disk.attempt operation paths action).run state =
      ((action state).1.mapError (.system operation paths), (action state).2) := by
  unfold Disk.attempt
  simp only [ExceptT.run, ExceptT.mk, bind, StateT.bind]
  cases action state with
  | mk outcome after =>
      cases outcome with
      | ok value => rfl
      | error refusal => rfl

/-- A computation that cannot fail. -/
theorem run_lift_stateM {α : Type} (action : StateM σ α) (state : σ) :
    (liftM action : ExceptT Failure (StateM σ) α).run state =
      (.ok (action state).1, (action state).2) := rfl

theorem run_adapt_stateM {α : Type} (change : Failure → Failure)
    (action : ExceptT Failure (StateM σ) α) (state : σ) :
    (action.adapt change).run state =
      ((action.run state).1.mapError change, (action.run state).2) := rfl

variable [Disk (StateM σ)] [Process (StateM σ)] [Journal (StateM σ)]

/-- One state of a host comes from another by writing to the log. -/
inductive Logged (first : σ) : σ → Prop where
  | refl : Logged first first
  | log (entry : LogEntry) {second : σ} (earlier : Logged first second) :
      Logged first ((Journal.log entry : StateM σ Unit) second).2

namespace Logged

variable {first second third : σ}

omit [Disk (StateM σ)] [Process (StateM σ)] in
theorem trans (one : Logged first second) (two : Logged second third) : Logged first third := by
  induction two with
  | refl => exact one
  | log entry _ ih => exact .log entry ih

omit [Disk (StateM σ)] [Process (StateM σ)] in
theorem note (logged : Logged first second) (level : LogLevel) (logger message : String)
    (fields : List (String × LogValue)) :
    Logged first ((note level logger message fields : StateM σ Unit) second).2 :=
  .log _ logged

variable [Viewed σ]

theorem view_eq (logged : Logged first second) : Viewed.view second = Viewed.view first := by
  induction logged with
  | refl => rfl
  | log entry _ ih => rw [Viewed.log, ih]

end Logged

namespace Viewed

variable [Viewed σ] (path : String) (state : σ)

theorem run_readFile :
    (Disk.readFile path : ExceptT Failure (StateM σ) Bytes).run state =
      (((view state).read path).mapError (Disk.readFailure path), state) := by
  unfold Disk.readFile
  simp only [ExceptT.run, ExceptT.mk, bind, StateT.bind, read]
  cases (view state).read path with
  | ok bytes => rfl
  | error refusal => rfl

theorem run_status :
    (Disk.status path : ExceptT Failure (StateM σ) EntryKind).run state =
      (((view state).kind path).mapError (.system "stat" [path]), state) := by
  rw [Disk.status, run_attempt_stateM, kind]

theorem run_filesBelow :
    (Disk.filesBelow path : ExceptT Failure (StateM σ) Listing).run state =
      ((((view state).entries path).mapError (.system "lstat" [path])).map .ofEntries, state) := by
  rw [Disk.filesBelow, run_bind_stateM, run_attempt_stateM, entries]
  cases (view state).entries path with
  | ok entries => rfl
  | error refusal => rfl

theorem run_filesAmong (entries : List Entry) :
    (Disk.filesAmong entries : ExceptT Failure (StateM σ) (List String)).run state =
      ((view state).filesAmong entries, state) := by
  induction entries with
  | nil => rfl
  | cons entry rest ih =>
      rw [Disk.filesAmong, run_bind_stateM, run_attempt_stateM, look, View.filesAmong]
      cases (view state).look entry.path with
      | error refusal => rfl
      | ok kind =>
          cases kind with
          | file =>
              simp only [mapError_ok, Except.bind]
              rw [run_bind_stateM, ih]
              cases (view state).filesAmong rest with
              | ok files => rfl
              | error failure => rfl
          | directory =>
              simp only [mapError_ok, Except.bind]
              rw [run_bind_stateM]
              cases opened : entry.opened with
              | ok value => exact ih
              | error failure => rfl

/-- What a walk yields is determined by the view. -/
theorem run_walk :
    (Disk.walk path : ExceptT Failure (StateM σ) (List String)).run state =
      ((view state).walk path, state) := by
  rw [Disk.walk, run_bind_stateM, run_attempt_stateM, entries, View.walk]
  cases (view state).entries path with
  | error refusal => rfl
  | ok entries => exact run_filesAmong state entries

end Viewed

end DomainGen
