import DomainGen.Proofs.Host.Directories

/-!
# Machines that fail

A disk can fail any operation for reasons of its own, and a run can be cancelled at any
time.  A trial is a machine for which it is laid down in advance what will fail and
what the run will be told when it asks.  An operation that fails changes nothing, with one
exception: writing a file takes several steps, so it can break off behind the first of them
and leave a file that holds only the beginning of its contents.  An operation that does not
fail does what it does on the machine.

Whatever fails, creating directories adds directories and nothing else
(`makeDirectories_grows`).
-/

namespace DomainGen

/-- How a file operation fails. -/
inductive Trial.Fault where
  /-- It is refused before anything was done. -/
  | refused (refusal : Refusal)
  /-- If it writes a file, the file is created or emptied, and filled up to a length only. -/
  | brokenOff (length : Nat) (refusal : Refusal)
  deriving Repr, DecidableEq, Inhabited

/-- What is said about a failed operation. -/
def Trial.Fault.refusal : Trial.Fault → Refusal
  | refused refusal | brokenOff _ refusal => refusal

/-- A machine on which operations can fail and runs can be cancelled. -/
structure Trial where
  machine : Machine
  /-- How each of the next file operations fails, if it does. -/
  faults : List (Option Trial.Fault) := []
  /-- What the run is told each time that it asks whether it is cancelled. -/
  cancellations : List Bool := []
  deriving Repr, DecidableEq, Inhabited

namespace Trial

variable {α : Type}

/-- Do something on the machine. -/
def act (action : StateM Machine α) : StateM Trial α := fun trial =>
  ((action trial.machine).1, { trial with machine := (action trial.machine).2 })

/-- Do something on the machine unless it fails. -/
def attempt (action : StateM Machine (Except Refusal α)) :
    StateM Trial (Except Refusal α) := fun trial =>
  match trial.faults with
  | some fault :: rest => (.error fault.refusal, { trial with faults := rest })
  | _ => act action { trial with faults := trial.faults.tail }

/-- Write a file on the machine.  Where that breaks off, the file may be refused already when
it is opened. -/
def attemptWrite (path : String) (bytes : Bytes) : StateM Trial (Except Refusal Unit) :=
  fun trial =>
    match trial.faults with
    | some (.brokenOff length refusal) :: rest =>
        let begun := act (Disk.write path (bytes.take length)) { trial with faults := rest }
        (begun.1.bind fun _ => .error refusal, begun.2)
    | _ => attempt (Disk.write path bytes) trial

/-- Ask whether the run is cancelled. -/
def isCancelled : StateM Trial Bool := fun trial =>
  (trial.cancellations.headD false, { trial with cancellations := trial.cancellations.tail })

end Trial

instance : Disk (StateM Trial) where
  kind path := Trial.attempt (Disk.kind path)
  look path := Trial.attempt (Disk.look path)
  read path := Trial.attempt (Disk.read path)
  write := Trial.attemptWrite
  makeDirectory path := Trial.attempt (Disk.makeDirectory path)
  entries path := Trial.attempt (Disk.entries path)
  remove path := Trial.attempt (Disk.remove path)
  rename source target := Trial.attempt (Disk.rename source target)
  makeTemporary := Trial.attempt Disk.makeTemporary
  removeAll path := Trial.act (Disk.removeAll path)

instance : Journal (StateM Trial) where
  start json least := Trial.act (Journal.start json least)
  log entry := Trial.act (Journal.log entry)

namespace Trial

/-- The result of a computation in a trial, and the trial afterwards. -/
def run {α : Type} (action : ExceptT Failure (StateM Trial) α) (trial : Trial) :
    Except Failure α × Trial :=
  action.run trial

theorem run_bind {α β : Type} (action : ExceptT Failure (StateM Trial) α)
    (next : α → ExceptT Failure (StateM Trial) β) (trial : Trial) :
    run (action >>= next) trial =
      match run action trial with
      | (.ok value, after) => run (next value) after
      | (.error failure, after) => (.error failure, after) := by
  unfold run
  rw [run_bind_stateM]
  rcases action.run trial with ⟨_ | _, _⟩
  · rfl
  · rfl

theorem run_adapt {α : Type} (change : Failure → Failure)
    (action : ExceptT Failure (StateM Trial) α) (trial : Trial) :
    run (action.adapt change) trial =
      ((run action trial).1.mapError change, (run action trial).2) := rfl

/-! ## Operations -/

/-- One trial follows another: the machine may have other files and another log, and some of
the faults lie behind. -/
structure Follows (before after : Trial) : Prop where
  leaves : Machine.Leaves before.machine after.machine.tree before.machine.output after.machine
  cancellations : after.cancellations = before.cancellations
  faults : after.faults <:+ before.faults

namespace Follows

variable {first second third : Trial}

theorem refl (trial : Trial) : Follows trial trial := ⟨.refl trial.machine, rfl, List.suffix_rfl⟩

theorem trans (one : Follows first second) (two : Follows second third) : Follows first third := by
  refine ⟨?_, two.cancellations.trans one.cancellations, two.faults.trans one.faults⟩
  have later := two.leaves
  rw [one.leaves.output] at later
  exact one.leaves.trans later

end Follows

section Attempt

variable {α : Type} (action : StateM Machine (Except Refusal α)) (trial : Trial)

/-- An operation fails and changes nothing, or it is done. -/
theorem attempt_cases :
    ∃ faults, faults <:+ trial.faults ∧
      ((∃ refusal, attempt action trial = (.error refusal, { trial with faults })) ∨
        attempt action trial = ((action trial.machine).1,
          { trial with machine := (action trial.machine).2, faults })) := by
  unfold attempt
  split
  · next fault rest faults =>
    exact ⟨rest, faults ▸ List.suffix_cons _ _, .inl ⟨fault.refusal, rfl⟩⟩
  · exact ⟨_, List.tail_suffix _, .inr rfl⟩

end Attempt

/-- A question changes nothing. -/
theorem attempt_ask {α : Type} {question : FileTree → String → Except Refusal α}
    {trial after : Trial} {answer : Except Refusal α}
    (asked : attempt (Machine.ask question) trial = (answer, after)) :
    after.machine = trial.machine ∧ Follows trial after ∧
      ∀ value, answer = .ok value →
        question trial.machine.tree trial.machine.working = .ok value := by
  obtain ⟨rest, later, ⟨refusal, refused⟩ | done⟩ := attempt_cases (Machine.ask question) trial
  · rw [refused] at asked
    cases asked
    exact ⟨rfl, ⟨.refl _, rfl, later⟩, by simp⟩
  · rw [done] at asked
    cases asked
    exact ⟨rfl, ⟨.refl _, rfl, later⟩, fun _ answered => answered⟩

/-- A change is made, or the files stay as they are. -/
theorem attempt_change {action : FileTree → String → Except Refusal FileTree}
    {trial after : Trial} {outcome : Except Refusal Unit}
    (attempted : attempt (Machine.change action) trial = (outcome, after)) :
    Follows trial after ∧
      (outcome = .ok () →
        action trial.machine.tree trial.machine.working = .ok after.machine.tree) ∧
      ∀ refusal, outcome = .error refusal → after.machine = trial.machine := by
  obtain ⟨rest, later, ⟨refusal, refused⟩ | done⟩ := attempt_cases (Machine.change action) trial
  · rw [refused] at attempted
    cases attempted
    exact ⟨⟨.refl _, rfl, later⟩, by simp, fun _ _ => rfl⟩
  · rw [done, Machine.change] at attempted
    cases acted : action trial.machine.tree trial.machine.working with
    | ok tree =>
        rw [acted] at attempted
        cases attempted
        exact ⟨⟨.ofTree _ _, rfl, later⟩, fun _ => rfl, by simp⟩
    | error refusal =>
        rw [acted] at attempted
        cases attempted
        exact ⟨⟨.refl _, rfl, later⟩, by simp, fun _ _ => rfl⟩

/-- A file is written, or the files stay as they are, or it is written in part. -/
theorem attemptWrite_cases {path : String} {bytes : Bytes} {trial after : Trial}
    {outcome : Except Refusal Unit} (attempted : attemptWrite path bytes trial = (outcome, after)) :
    Follows trial after ∧
      (outcome = .ok () →
        trial.machine.tree.write trial.machine.working path bytes = .ok after.machine.tree) ∧
      ∀ refusal, outcome = .error refusal → after.machine = trial.machine ∨
        ∃ length, some (.brokenOff length refusal) ∈ trial.faults ∧
          trial.machine.tree.write trial.machine.working path (bytes.take length) =
            .ok after.machine.tree := by
  unfold attemptWrite at attempted
  split at attempted
  · next length refusal rest faults =>
    have later : rest <:+ trial.faults := faults ▸ List.suffix_cons _ _
    simp only [act, Disk.write, Machine.change] at attempted
    cases opened : trial.machine.tree.write trial.machine.working path (bytes.take length) with
    | error opening =>
        rw [opened] at attempted
        cases attempted
        exact ⟨⟨.refl _, rfl, later⟩, by rintro ⟨⟩, fun _ _ => .inl rfl⟩
    | ok tree =>
        rw [opened] at attempted
        cases attempted
        refine ⟨⟨.ofTree _ _, rfl, later⟩, by rintro ⟨⟩, ?_⟩
        rintro _ ⟨⟩
        exact .inr ⟨length, by rw [faults]; exact List.mem_cons_self, opened⟩
  · obtain ⟨follows, done, undone⟩ := attempt_change attempted
    exact ⟨follows, done, fun refusal failed => .inl (undone refusal failed)⟩

/-- A note in the log changes no files. -/
theorem run_note (level : LogLevel) (logger message : String)
    (fields : List (String × LogValue)) (trial : Trial) :
    ∃ after, run (liftM (note level logger message fields : StateM Trial Unit)) trial =
        (.ok (), after) ∧
      after.machine.tree = trial.machine.tree ∧ Follows trial after ∧
        after.faults = trial.faults := by
  have left := Machine.leaves_note level logger message fields trial.machine
  refine ⟨_, rfl, left.tree, ⟨?_, rfl, List.suffix_rfl⟩, rfl⟩
  have whole := left
  rw [← left.tree] at whole
  exact whole

/-! ## Creating directories -/

/-- Directories may have been added, and nothing else was changed. -/
structure Grows (before after : Trial) : Prop extends Follows before after where
  grown : before.machine.tree.Grown after.machine.tree

namespace Grows

variable {first second third : Trial}

theorem trans (one : Grows first second) (two : Grows second third) : Grows first third :=
  ⟨one.toFollows.trans two.toFollows, one.grown.trans two.grown⟩

theorem sound (grows : Grows first second) (sound : first.machine.Sound) :
    second.machine.Sound :=
  sound.of_directories grows.grown.wellFormed (fun _ found => grows.grown.kept _ _ found)
    grows.leaves

/-- A path that leads to a directory still does. -/
theorem node (grows : Grows first second) {path : String}
    (found : first.machine.tree.node first.machine.working path = .ok .directory) :
    second.machine.tree.node second.machine.working path = .ok .directory := by
  rw [FileTree.node_eq_directory_iff] at found ⊢
  obtain ⟨place, located, found⟩ := found
  rw [grows.leaves.working]
  exact ⟨place, FileTree.locate_mono (fun _ found => grows.grown.kept _ _ found) located,
    grows.grown.kept _ _ found⟩

end Grows

section Make

variable {trial after : Trial} (sound : trial.machine.Sound)
include sound

theorem Follows.grows (follows : Follows trial after) (same : after.machine = trial.machine) :
    Grows trial after :=
  ⟨follows, by rw [same]; exact .refl sound.tree⟩

theorem kind_grows {path : String} {answer : Except Refusal EntryKind}
    (asked : (Disk.kind path : StateM Trial _) trial = (answer, after)) :
    Grows trial after ∧
      (answer = .ok .directory →
        after.machine.tree.node after.machine.working path = .ok .directory) := by
  obtain ⟨same, follows, answered⟩ := attempt_ask asked
  refine ⟨follows.grows sound same, fun directory => ?_⟩
  obtain ⟨node, found, kind⟩ := exists_of_map_eq_ok (answered _ directory)
  rw [same]
  cases node with
  | directory => exact found
  | file bytes => cases kind

theorem makeDirectory_grows {path : String} {outcome : Except Refusal Unit}
    (attempted : (Disk.makeDirectory path : StateM Trial _) trial = (outcome, after)) :
    Grows trial after ∧
      (outcome = .ok () →
        after.machine.tree.node after.machine.working path = .ok .directory) := by
  obtain ⟨follows, done, undone⟩ := attempt_change attempted
  cases outcome with
  | error refusal => exact ⟨follows.grows sound (undone _ rfl), by simp⟩
  | ok value =>
      obtain ⟨grown, ends⟩ := sound.node_of_makeDirectory (done rfl)
      refine ⟨⟨follows, grown⟩, fun _ => ?_⟩
      rwa [follows.leaves.working]

/-- Create the last directory of a path, where those above it are there. -/
def lastDirectory (name : String) : StateM Trial (Except Failure Unit) := do
  match ← (Disk.makeDirectory name : StateM Trial (Except Refusal Unit)) with
  | .ok _ => return .ok ()
  | .error refusal =>
      match ← Disk.kind name with
      | .ok .directory => return .ok ()
      | _ => return .error (.system "mkdir" [name] refusal)

theorem lastDirectory_grows {name : String} {outcome : Except Failure Unit}
    (ran : lastDirectory name trial = (outcome, after)) :
    Grows trial after ∧
      (outcome = .ok () →
        after.machine.tree.node after.machine.working name = .ok .directory) := by
  simp only [lastDirectory, bind, StateT.bind, pure] at ran
  rcases attempted : (Disk.makeDirectory name : StateM Trial _) trial with ⟨made, between⟩
  rw [attempted] at ran
  obtain ⟨first, ends⟩ := makeDirectory_grows sound attempted
  cases made with
  | ok value =>
      cases ran
      exact ⟨first, fun _ => ends rfl⟩
  | error refusal =>
      simp only [StateT.bind] at ran
      rcases asked : (Disk.kind name : StateM Trial _) between with ⟨answer, last⟩
      rw [asked] at ran
      obtain ⟨second, there⟩ := kind_grows (first.sound sound) asked
      rcases answer with refusal | _ | _
      · cases ran
        exact ⟨first.trans second, by simp⟩
      · cases ran
        exact ⟨first.trans second, by simp⟩
      · cases ran
        exact ⟨first.trans second, fun _ => there rfl⟩

/-- Whatever fails, creating directories adds directories and nothing else.  If it does
not fail, the path leads to a directory. -/
theorem makeDirectories_grows {path : List Char} {outcome : Except Failure Unit}
    (ran : run (Disk.makeDirectories path) trial = (outcome, after)) :
    Grows trial after ∧
      (outcome = .ok () → after.machine.tree.node after.machine.working (String.ofList path) =
        .ok .directory) := by
  -- The induction follows the recursion to the spelled parent.
  induction bound : path.length using Nat.strongRecOn generalizing trial path outcome after with
  | ind bound ih =>
      rw [Disk.makeDirectories] at ran
      simp only [run, ExceptT.run, ExceptT.mk, bind, StateT.bind, pure] at ran
      rcases asked : (Disk.kind (String.ofList path) : StateM Trial _) trial with ⟨answer, between⟩
      rw [asked] at ran
      obtain ⟨first, there⟩ := kind_grows sound asked
      rcases answer with refusal | _ | _
      · revert ran
        cases spelled : Disk.spelledParent? path with
        | none =>
            intro ran
            have ran : lastDirectory (String.ofList path) between = (outcome, after) := ran
            obtain ⟨second, ends⟩ := lastDirectory_grows (first.sound sound) ran
            exact ⟨first.trans second, ends⟩
        | some parent =>
            intro ran
            simp only [StateT.bind] at ran
            rcases above : run (Disk.makeDirectories parent) between with ⟨made, middle⟩
            unfold run at above
            rw [ExceptT.run] at above
            rw [above] at ran
            obtain ⟨second, -⟩ := ih parent.length (bound ▸ Disk.length_spelledParent? spelled)
              (first.sound sound) above rfl
            have grows := first.trans second
            cases made with
            | error failure =>
                cases ran
                exact ⟨grows, by simp⟩
            | ok value =>
                have ran : lastDirectory (String.ofList path) middle = (outcome, after) := ran
                obtain ⟨third, ends⟩ := lastDirectory_grows (grows.sound sound) ran
                exact ⟨grows.trans third, ends⟩
      · cases ran
        exact ⟨first, by simp⟩
      · cases ran
        exact ⟨first, fun _ => there rfl⟩

end Make

end Trial

end DomainGen
