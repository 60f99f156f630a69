import DomainGen.Proofs.Host.Views

/-!
# Running on a machine in memory

What a computation yields when it runs on a machine, and what it leaves behind.
A run of two computations in sequence is the run of the second on what the first
left; a failure of the first ends it (`run_bind`).

Of the machine that a computation leaves, only the files and the output matter to
what follows: `Leaves` says what these are and that the rest, apart from the log,
is as before.
-/

namespace DomainGen

namespace Machine

variable {α β : Type}

/-- The result of a computation on a machine, and the machine afterwards. -/
def run (action : ExceptT Failure (StateM Machine) α) (machine : Machine) :
    Except Failure α × Machine :=
  action.run machine

section Run

variable {action : ExceptT Failure (StateM Machine) α}
  {next : α → ExceptT Failure (StateM Machine) β} {machine after : Machine}

@[simp] theorem run_pure (value : α) (machine : Machine) :
    run (pure value) machine = (.ok value, machine) := rfl

@[simp] theorem run_throw (failure : Failure) (machine : Machine) :
    run (throw failure : ExceptT Failure (StateM Machine) α) machine = (.error failure, machine) :=
  rfl

/-- A computation whose outcome is known. -/
theorem run_mk_pure (outcome : Except Failure α) (machine : Machine) :
    run (ExceptT.mk (pure outcome)) machine = (outcome, machine) := rfl

/-- A computation that cannot fail. -/
@[simp] theorem run_lift (action : StateM Machine α) (machine : Machine) :
    run (liftM action) machine = (.ok (action machine).1, (action machine).2) := rfl

theorem stateM_pure (value : α) (machine : Machine) :
    (pure value : StateM Machine α) machine = (value, machine) := rfl

theorem stateM_bind (action : StateM Machine α) (next : α → StateM Machine β)
    (machine : Machine) :
    (action >>= next) machine = next (action machine).1 (action machine).2 := rfl

theorem run_bind (action : ExceptT Failure (StateM Machine) α)
    (next : α → ExceptT Failure (StateM Machine) β) (machine : Machine) :
    run (action >>= next) machine =
      match run action machine with
      | (.ok value, after) => run (next value) after
      | (.error failure, after) => (.error failure, after) := by
  unfold run
  rw [run_bind_stateM]
  rcases action.run machine with ⟨_ | _, _⟩
  · rfl
  · rfl

theorem run_bind_ok {value : α} (ran : run action machine = (.ok value, after)) :
    run (action >>= next) machine = run (next value) after := by
  rw [run_bind, ran]

theorem run_bind_error {failure : Failure} (ran : run action machine = (.error failure, after)) :
    run (action >>= next) machine = (.error failure, after) := by
  rw [run_bind, ran]

/-- A sequence that succeeds has succeeded in each of its parts. -/
theorem exists_of_run_bind_eq_ok {value : β}
    (ran : run (action >>= next) machine = (.ok value, after)) :
    ∃ middle between, run action machine = (.ok middle, between) ∧
      run (next middle) between = (.ok value, after) := by
  rw [run_bind] at ran
  split at ran
  · next middle between first => exact ⟨middle, between, first, ran⟩
  · cases ran

@[simp] theorem run_adapt (change : Failure → Failure)
    (action : ExceptT Failure (StateM Machine) α) (machine : Machine) :
    run (action.adapt change) machine =
      ((run action machine).1.mapError change, (run action machine).2) := rfl

theorem run_adapt_ok {change : Failure → Failure} {value : α}
    (ran : run action machine = (.ok value, after)) :
    run (action.adapt change) machine = (.ok value, after) := by
  rw [run_adapt, ran]
  rfl

theorem run_of_adapt_eq_ok {change : Failure → Failure} {value : α}
    (ran : run (action.adapt change) machine = (.ok value, after)) :
    run action machine = (.ok value, after) := by
  rw [run_adapt] at ran
  generalize run action machine = outcome at ran ⊢
  rcases outcome with ⟨result, final⟩
  cases result with
  | ok found => exact ran
  | error failure => cases ran

end Run

/-! ## What a run leaves -/

/-- A machine after a run: these are its files and its output.  Something may have been
logged, and nothing else has changed. -/
structure Leaves (before : Machine) (tree : FileTree) (output : String) (after : Machine) :
    Prop where
  tree : after.tree = tree
  output : after.output = output
  working : after.working = before.working
  environment : after.environment = before.environment
  temporary : after.temporary = before.temporary

namespace Leaves

theorem ofTree (machine : Machine) (tree : FileTree) :
    Leaves machine tree machine.output { machine with tree } :=
  ⟨rfl, rfl, rfl, rfl, rfl⟩

theorem refl (machine : Machine) : Leaves machine machine.tree machine.output machine :=
  ⟨rfl, rfl, rfl, rfl, rfl⟩

theorem trans {first second third : Machine} {tree other : FileTree} {output text : String}
    (one : Leaves first tree output second) (two : Leaves second other text third) :
    Leaves first other text third :=
  ⟨two.tree, two.output, two.working.trans one.working,
    two.environment.trans one.environment, two.temporary.trans one.temporary⟩

end Leaves

theorem leaves_log (entry : LogEntry) (machine : Machine) :
    Leaves machine machine.tree machine.output
      ((Journal.log entry : StateM Machine Unit) machine).2 := by
  simp only [Journal.log]
  cases machine.log with
  | none => exact .refl machine
  | some sink => exact ⟨rfl, rfl, rfl, rfl, rfl⟩

theorem leaves_note (level : LogLevel) (logger message : String)
    (fields : List (String × LogValue)) (machine : Machine) :
    Leaves machine machine.tree machine.output
      ((note level logger message fields : StateM Machine Unit) machine).2 :=
  leaves_log _ machine

theorem Leaves.noted {before between : Machine} {tree : FileTree} {output : String}
    (left : Leaves before tree output between) (level : LogLevel) (logger message : String)
    (fields : List (String × LogValue)) :
    Leaves before tree output
      ((note level logger message fields : StateM Machine Unit) between).2 := by
  have noted := leaves_note level logger message fields between
  rw [left.tree, left.output] at noted
  exact left.trans noted

/-- Writing to the log leaves the files and the output as they are. -/
theorem leaves_of_logged {machine after : Machine} (logged : Logged machine after) :
    Leaves machine machine.tree machine.output after := by
  induction logged with
  | refl => exact .refl machine
  | @log entry between _ left =>
      have noted := leaves_log entry between
      rw [left.tree, left.output] at noted
      exact left.trans noted

/-- Without a log, writing to it makes no difference. -/
theorem eq_of_logged {machine after : Machine} (silent : machine.log = none)
    (logged : Logged machine after) : after = machine := by
  induction logged with
  | refl => rfl
  | log entry _ same =>
      subst same
      simp [Journal.log, silent]

theorem leaves_of_run_note {level : LogLevel} {logger message : String}
    {fields : List (String × LogValue)} {machine after : Machine}
    {outcome : Except Failure Unit}
    (ran : run (liftM (note level logger message fields : StateM Machine Unit)) machine =
      (outcome, after)) : Leaves machine machine.tree machine.output after := by
  rw [run_lift] at ran
  rw [← (Prod.mk.inj ran).2]
  exact leaves_note level logger message fields machine

/-- What every step of a loop preserves holds after the loop. -/
theorem forIn_preserves (holds : Machine → Prop) (items : List α) (act : α → StateM Machine Unit)
    (step : ∀ item machine, holds machine → holds (act item machine).2) {machine : Machine}
    (start : holds machine) :
    holds ((forIn items PUnit.unit fun item _ => do
      act item
      pure (ForInStep.yield PUnit.unit) : StateM Machine PUnit) machine).2 := by
  induction items generalizing machine with
  | nil => exact start
  | cons item items ih =>
      rw [List.forIn_cons]
      exact ih (step item machine start)

/-! ## File operations -/

theorem run_attempt (operation : String) (paths : List String)
    (action : StateM Machine (Except Refusal α)) (machine : Machine) :
    run (Disk.attempt operation paths action) machine =
      ((action machine).1.mapError (.system operation paths), (action machine).2) :=
  run_attempt_stateM operation paths action machine

@[simp] theorem run_readFile (path : String) (machine : Machine) :
    run (Disk.readFile path) machine =
      ((machine.tree.read machine.working path).mapError (Disk.readFailure path), machine) :=
  Viewed.run_readFile path machine

@[simp] theorem run_status (path : String) (machine : Machine) :
    run (Disk.status path) machine =
      (((machine.tree.node machine.working path).map (·.kind)).mapError (.system "stat" [path]),
        machine) :=
  Viewed.run_status path machine

theorem run_writeFile (path : String) (bytes : Bytes) (machine : Machine) :
    run (Disk.writeFile path bytes) machine =
      match machine.tree.write machine.working path bytes with
      | .ok tree => (.ok (), { machine with tree })
      | .error refusal => (.error (Disk.writeFailure path refusal), machine) := by
  unfold Disk.writeFile run
  simp only [ExceptT.run, ExceptT.mk, bind, StateT.bind, Disk.write, change]
  cases machine.tree.write machine.working path bytes with
  | ok tree => rfl
  | error refusal => rfl

end Machine

end DomainGen
