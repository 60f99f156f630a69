import DomainGen.Host.Machine
import DomainGen.Watch
import Mathlib.Data.List.Induction

/-!
# What a watcher acts on

A watcher receives signals in some order, each on whatever machine there is at that time, and
acts now and then; acting can fail.  What it goes through is kept as a history, the latest
occurrence first.  The watcher is armed exactly if something that matters was received since it
acted last, it acts exactly at the ticks that find it armed, and it never acts again once it was
stopped (`Follows`).  How acting ends and whether watching fails for once make no difference to
what it does next (`receiveAll_follows`).
-/

namespace DomainGen.Watcher

/-! ## Histories -/

/-- Something that a watcher goes through. -/
inductive Occurrence where
  /-- A signal was received, in a working directory. -/
  | received (signal : Signal) (working : String)
  /-- The watcher acted, and failed or not. -/
  | acted (outcome : Option Failure)
  deriving Repr, DecidableEq

namespace Occurrence

/-- What was received. -/
def received? : Occurrence → Option (String × Signal)
  | received signal working => some (working, signal)
  | acted _ => none

/-- An occurrence without how acting ended. -/
def bare : Occurrence → Occurrence
  | received signal working => received signal working
  | acted _ => acted none

end Occurrence

/-- A watched file was written, created or renamed, and possibly more happened to it. -/
def Matters (watcher : Watcher) (working : String) (change : FileChange) : Prop :=
  (.write ∈ change.kinds ∨ .create ∈ change.kinds ∨ .rename ∈ change.kinds) ∧
    Path.absolute working change.path ∈ watcher.files

theorem relevant_iff {watcher : Watcher} {working : String} {change : FileChange} :
    watcher.relevant working change ↔ watcher.Matters working change := by
  have kinds : change.kinds.any (fun kind => kind == .write || kind == .create || kind == .rename) ↔
      (.write ∈ change.kinds ∨ .create ∈ change.kinds ∨ .rename ∈ change.kinds) := by
    simp only [List.any_eq_true, Bool.or_eq_true, beq_iff_eq]
    constructor
    · rintro ⟨kind, listed, (rfl | rfl) | rfl⟩
      · exact .inl listed
      · exact .inr (.inl listed)
      · exact .inr (.inr listed)
    · rintro (listed | listed | listed)
      · exact ⟨_, listed, .inl (.inl rfl)⟩
      · exact ⟨_, listed, .inl (.inr rfl)⟩
      · exact ⟨_, listed, .inr rfl⟩
  rw [relevant, Bool.and_eq_true, kinds, decide_eq_true_eq, Matters]

/-- Something that matters was received since the watcher acted last, or since the start. -/
def Pending (watcher : Watcher) (history : List Occurrence) : Prop :=
  ∃ later change working earlier,
    history = later ++ .received (.change change) working :: earlier ∧
      watcher.Matters working change ∧ ∀ outcome, .acted outcome ∉ later

/-- Watching has not ended. -/
def Running (history : List Occurrence) : Prop := ∀ working, .received .stop working ∉ history

/-- A watcher went through a history, the latest occurrence first, and got to a state. -/
structure Follows (watcher : Watcher) (history : List Occurrence) (state : State) : Prop where
  armed : Running history → (state.armed ↔ watcher.Pending history)
  stopped : state.stopped = false ↔ Running history
  /-- Acting follows a tick that finds something pending. -/
  acted : ∀ later outcome earlier, history = later ++ .acted outcome :: earlier →
    ∃ working before, earlier = .received .tick working :: before ∧ watcher.Pending before ∧
      Running before
  /-- A tick that finds something pending is followed by acting at once. -/
  answered : ∀ later working earlier, history = later ++ .received .tick working :: earlier →
    watcher.Pending earlier → Running earlier → ∃ rest outcome, later = rest ++ [.acted outcome]

/-! ### One more occurrence -/

section Cons

variable {watcher : Watcher} {history : List Occurrence} {working : String}

theorem not_pending_nil : ¬ watcher.Pending [] := by
  rintro ⟨later, change, working, earlier, split, -⟩
  exact List.append_ne_nil_of_right_ne_nil _ (List.cons_ne_nil _ _) split.symm

theorem not_pending_acted (outcome : Option Failure) :
    ¬ watcher.Pending (.acted outcome :: history) := by
  rintro ⟨later, change, working, earlier, split, -, quiet⟩
  cases later with
  | nil => cases split
  | cons first later =>
      cases split
      exact quiet outcome List.mem_cons_self

theorem pending_received_iff {signal : Signal} :
    watcher.Pending (.received signal working :: history) ↔
      (∃ change, signal = .change change ∧ watcher.Matters working change) ∨
        watcher.Pending history := by
  constructor
  · rintro ⟨later, change, place, earlier, split, matters, quiet⟩
    cases later with
    | nil =>
        cases split
        exact .inl ⟨change, rfl, matters⟩
    | cons first later =>
        cases split
        refine .inr ⟨later, change, place, earlier, rfl, matters, fun outcome member => ?_⟩
        exact quiet outcome (List.mem_cons_of_mem _ member)
  · rintro (⟨change, rfl, matters⟩ | ⟨later, change, place, earlier, rfl, matters, quiet⟩)
    · exact ⟨[], change, working, history, rfl, matters, fun _ => List.not_mem_nil⟩
    · refine ⟨.received signal working :: later, change, place, earlier, rfl, matters, ?_⟩
      intro outcome member
      rcases List.mem_cons.mp member with same | member
      · cases same
      · exact quiet outcome member

theorem running_received_iff {signal : Signal} :
    Running (.received signal working :: history) ↔ signal ≠ .stop ∧ Running history := by
  constructor
  · intro running
    refine ⟨?_, fun place member => running place (List.mem_cons_of_mem _ member)⟩
    rintro rfl
    exact running working List.mem_cons_self
  · rintro ⟨further, running⟩ place member
    rcases List.mem_cons.mp member with same | member
    · cases same
      exact further rfl
    · exact running place member

theorem running_acted_iff {outcome : Option Failure} :
    Running (.acted outcome :: history) ↔ Running history := by
  simp [Running]

end Cons

/-! ## Receiving signals -/

/-- A computation on a machine that keeps a history. -/
def Recorded (α : Type) : Type := StateT (List Occurrence) (StateM Machine) α

namespace Recorded

instance : Monad Recorded := inferInstanceAs (Monad (StateT (List Occurrence) (StateM Machine)))

/-- What a computation yields, with the history and the machine that it leaves. -/
def run {α : Type} (action : Recorded α) (history : List Occurrence) (machine : Machine) :
    (α × List Occurrence) × Machine :=
  action history machine

/-- A computation that is not put on record. -/
def silently {α : Type} (action : StateM Machine α) : Recorded α := StateT.lift action

/-- Put an occurrence on record. -/
def enter (occurrence : Occurrence) : Recorded Unit := fun history machine =>
  (((), occurrence :: history), machine)

/-- Put on record that the watcher acts, and how that ends. -/
def acting (act : StateM Machine (Option Failure)) : Recorded (Option Failure) := do
  let outcome ← silently act
  enter (.acted outcome)
  return outcome

instance : Process Recorded where
  workingDirectory := silently Process.workingDirectory
  environmentValue name := silently (Process.environmentValue name)
  milliseconds := silently Process.milliseconds

instance : Journal Recorded where
  start json least := silently (Journal.start json least)
  log entry := silently (Journal.log entry)

section Run

variable {α β : Type} (history : List Occurrence) (machine : Machine)

@[simp] theorem run_pure (value : α) :
    run (pure value) history machine = ((value, history), machine) := rfl

@[simp] theorem run_bind (action : Recorded α) (next : α → Recorded β) :
    run (action >>= next) history machine =
      run (next (run action history machine).1.1) (run action history machine).1.2
        (run action history machine).2 := rfl

@[simp] theorem run_enter (occurrence : Occurrence) :
    run (enter occurrence) history machine = (((), occurrence :: history), machine) := rfl

@[simp] theorem run_workingDirectory :
    run Process.workingDirectory history machine = ((machine.working, history), machine) := rfl

@[simp] theorem run_acting (act : StateM Machine (Option Failure)) :
    run (acting act) history machine =
      (((act machine).1, .acted (act machine).1 :: history), (act machine).2) := rfl

end Run

end Recorded

/-- Receive a signal and attend to it; both are put on record. -/
def receive (watcher : Watcher) (act : StateM Machine (Option Failure)) (state : State)
    (signal : Signal) : Recorded State := do
  Recorded.enter (.received signal (← Process.workingDirectory))
  watcher.attend (Recorded.acting act) state signal

/-- Receive signals in order, each on the machine that there is then. -/
def receiveAll (watcher : Watcher) (act : StateM Machine (Option Failure))
    (inputs : List (Machine × Signal)) : State × List Occurrence :=
  inputs.foldl (fun (state, history) (machine, signal) =>
    ((watcher.receive act state signal).run history machine).1) ({}, [])

section Receive

variable {watcher : Watcher} {act : StateM Machine (Option Failure)}

/-- The log is not part of the history. -/
theorem exists_run_noteSignal (working : String) (signal : Signal) (history : List Occurrence)
    (machine : Machine) :
    ∃ after, Recorded.run (watcher.noteSignal working signal) history machine =
      (((), history), after) := by
  cases signal with
  | change change =>
      rw [noteSignal]
      split
      · exact ⟨_, rfl⟩
      · exact ⟨_, rfl⟩
  | tick => exact ⟨_, rfl⟩
  | trouble reason => exact ⟨_, rfl⟩
  | stop => exact ⟨_, rfl⟩

/-- To receive a signal is to make a step, to keep the signal and, when the step tells to act,
to act once after it. -/
theorem exists_run_receive (state : State) (signal : Signal) (history : List Occurrence)
    (machine : Machine) :
    ∃ outcome, ((watcher.receive act state signal).run history machine).1 =
      ((watcher.step machine.working state signal).1,
        (if (watcher.step machine.working state signal).2 then [.acted outcome] else []) ++
          .received signal machine.working :: history) := by
  simp only [receive, attend, Recorded.run_bind, Recorded.run_workingDirectory,
    Recorded.run_enter]
  by_cases ended : state.stopped
  · rw [if_pos ended, step.eq_def, if_pos ended]
    exact ⟨none, rfl⟩
  · obtain ⟨after, noted⟩ := watcher.exists_run_noteSignal machine.working signal
      (.received signal machine.working :: history) machine
    rw [if_neg ended]
    simp only [Recorded.run_bind, Recorded.run_workingDirectory, noted]
    refine ⟨(act after).1, ?_⟩
    by_cases acts : (watcher.step machine.working state signal).2
    · simp only [acts, if_true, Recorded.run_bind, Recorded.run_acting]
      split
      · rfl
      · rfl
    · simp only [acts, Bool.false_eq_true, if_false]
      rfl

end Receive

/-! ## What holds after every signal -/

section Step

variable {watcher : Watcher} {history : List Occurrence} {state : State} {signal : Signal}
  {working : String}

theorem follows_nil : watcher.Follows [] {} where
  armed _ := iff_of_false Bool.false_ne_true not_pending_nil
  stopped := iff_of_true rfl fun _ => List.not_mem_nil
  acted _ _ _ split := absurd split.symm (List.append_ne_nil_of_right_ne_nil _ (by simp))
  answered _ _ _ split := absurd split.symm (List.append_ne_nil_of_right_ne_nil _ (by simp))

section Follows

variable (follows : watcher.Follows history state)
include follows

theorem Follows.acted_received {later earlier : List Occurrence} {outcome : Option Failure}
    (split : .received signal working :: history = later ++ .acted outcome :: earlier) :
    ∃ working before, earlier = .received .tick working :: before ∧ watcher.Pending before ∧
      Running before := by
  cases later with
  | nil => cases split
  | cons first later =>
      cases split
      exact follows.acted later outcome earlier rfl

/-- A signal that is followed by nothing is no tick that finds something pending. -/
theorem Follows.answered_received
    (idle : signal = .tick → watcher.Pending history → ¬ Running history)
    {later earlier : List Occurrence} {place : String}
    (split : .received signal working :: history = later ++ .received .tick place :: earlier)
    (pending : watcher.Pending earlier) (running : Running earlier) :
    ∃ rest outcome, later = rest ++ [.acted outcome] := by
  cases later with
  | nil =>
      cases split
      exact absurd running (idle rfl pending)
  | cons first later =>
      cases split
      obtain ⟨rest, outcome, rfl⟩ := follows.answered later place earlier rfl pending running
      exact ⟨_ :: rest, outcome, rfl⟩

/-- Once it was stopped, a watcher goes on receiving nothing. -/
theorem Follows.receive_stopped (ended : state.stopped) :
    watcher.Follows (.received signal working :: history) state := by
  have rested : ¬ Running history := by
    rw [← follows.stopped, ended]
    simp
  have still : ¬ Running (.received signal working :: history) :=
    fun running => rested (running_received_iff.mp running).2
  exact {
    armed := fun running => absurd running still
    stopped := iff_of_false (by simp [ended]) still
    acted := fun _ _ _ split => follows.acted_received split
    answered := fun _ _ _ split => follows.answered_received (fun _ _ => rested) split }

/-- A signal after which the watcher does not act. -/
theorem Follows.receive_idle {next : State}
    (idle : signal = .tick → ¬ watcher.Pending history)
    (armed : Running history → signal ≠ .stop →
      (next.armed ↔ (∃ change, signal = .change change ∧ watcher.Matters working change) ∨
        watcher.Pending history))
    (stopped : next.stopped = false ↔ signal ≠ .stop ∧ Running history) :
    watcher.Follows (.received signal working :: history) next where
  armed running := by
    rw [running_received_iff] at running
    rw [pending_received_iff, armed running.2 running.1]
  stopped := by rw [stopped, running_received_iff]
  acted _ _ _ split := follows.acted_received split
  answered _ _ _ split :=
    follows.answered_received (fun tick pending => absurd pending (idle tick)) split

/-- A tick after which the watcher acts. -/
theorem Follows.receive_acting (armed : state.armed) (ongoing : state.stopped = false)
    (outcome : Option Failure) :
    watcher.Follows (.acted outcome :: .received .tick working :: history)
      { state with armed := false } := by
  have running := follows.stopped.mp ongoing
  have pending := (follows.armed running).mp armed
  refine ⟨?_, ?_, ?_, ?_⟩
  · intro _
    exact iff_of_false Bool.false_ne_true (not_pending_acted outcome)
  · rw [running_acted_iff, running_received_iff, follows.stopped]
    simp
  · intro later other earlier split
    cases later with
    | nil =>
        cases split
        exact ⟨working, history, rfl, pending, running⟩
    | cons first later => exact follows.acted_received (List.cons.inj split).2
  · intro later place earlier split pendingThen runningThen
    cases later with
    | nil => cases split
    | cons first later =>
        cases later with
        | nil =>
            cases split
            exact ⟨[], outcome, rfl⟩
        | cons second later =>
            cases split
            obtain ⟨rest, other, rfl⟩ :=
              follows.answered later place earlier rfl pendingThen runningThen
            exact ⟨.acted outcome :: .received .tick working :: rest, other, rfl⟩

end Follows

/-- Whatever signal is received, the watcher keeps to what it went through. -/
theorem Follows.step (follows : watcher.Follows history state) (signal : Signal)
    (working : String) (outcome : Option Failure) :
    watcher.Follows
      ((if (watcher.step working state signal).2 then [.acted outcome] else []) ++
        .received signal working :: history)
      (watcher.step working state signal).1 := by
  by_cases ended : state.stopped
  · rw [step.eq_def, if_pos ended]
    exact follows.receive_stopped ended
  · have ongoing : state.stopped = false := by simpa using ended
    have running := follows.stopped.mp ongoing
    rw [step.eq_def, if_neg ended]
    cases signal with
    | change change =>
        refine follows.receive_idle nofun ?_ (by simp [ongoing, running])
        intro _ _
        simp [← follows.armed running, relevant_iff, or_comm]
    | tick =>
        by_cases armed : state.armed
        · simp only [armed, if_true]
          exact follows.receive_acting armed ongoing outcome
        · simp only [armed, Bool.false_eq_true, if_false]
          have nothing : ¬ watcher.Pending history :=
            fun pending => armed ((follows.armed running).mpr pending)
          exact follows.receive_idle (fun _ => nothing) (by simp [nothing])
            (by simp [ongoing, running])
    | trouble reason =>
        refine follows.receive_idle nofun ?_ (by simp [ongoing, running])
        intro _ _
        simp [follows.armed running]
    | stop => exact follows.receive_idle nofun (fun _ further => absurd rfl further) (by simp)

end Step

/-! ## What holds after a whole run -/

section Run

variable (watcher : Watcher) (act : StateM Machine (Option Failure))

/-- Where signals are received. -/
def placed (inputs : List (Machine × Signal)) : List (String × Signal) :=
  inputs.map fun (machine, signal) => (machine.working, signal)

/-- What a watcher goes through if acting never fails. -/
def undisturbed (signals : List (String × Signal)) : State × List Occurrence :=
  signals.foldl (fun (state, history) (working, signal) =>
    let (next, acts) := watcher.step working state signal
    (next, (if acts then [.acted none] else []) ++ .received signal working :: history)) ({}, [])

theorem exists_receiveAll_concat (inputs : List (Machine × Signal)) (machine : Machine)
    (signal : Signal) :
    let before := watcher.receiveAll act inputs
    ∃ outcome, watcher.receiveAll act (inputs ++ [(machine, signal)]) =
      ((watcher.step machine.working before.1 signal).1,
        (if (watcher.step machine.working before.1 signal).2 then [.acted outcome] else []) ++
          .received signal machine.working :: before.2) := by
  intro before
  obtain ⟨outcome, received⟩ :=
    @exists_run_receive watcher act before.1 signal before.2 machine
  refine ⟨outcome, ?_⟩
  rw [← received, receiveAll, List.foldl_append]
  rfl

theorem follows_receiveAll (inputs : List (Machine × Signal)) :
    watcher.Follows (watcher.receiveAll act inputs).2 (watcher.receiveAll act inputs).1 := by
  induction inputs using List.reverseRecOn with
  | nil => exact follows_nil
  | append_singleton inputs input ih =>
      obtain ⟨machine, signal⟩ := input
      obtain ⟨outcome, received⟩ := watcher.exists_receiveAll_concat act inputs machine signal
      rw [received]
      exact ih.step signal machine.working outcome

/-- Every signal is on record, in order. -/
theorem received_receiveAll (inputs : List (Machine × Signal)) :
    (watcher.receiveAll act inputs).2.reverse.filterMap Occurrence.received? = placed inputs := by
  induction inputs using List.reverseRecOn with
  | nil => rfl
  | append_singleton inputs input ih =>
      obtain ⟨machine, signal⟩ := input
      obtain ⟨outcome, received⟩ := watcher.exists_receiveAll_concat act inputs machine signal
      rw [received, placed, List.map_append, ← placed, ← ih]
      split
      · simp [Occurrence.received?]
      · simp [Occurrence.received?]

/-- How acting ends does not matter to what a watcher does. -/
theorem receiveAll_undisturbed (inputs : List (Machine × Signal)) :
    (watcher.receiveAll act inputs).1 = (watcher.undisturbed (placed inputs)).1 ∧
      (watcher.receiveAll act inputs).2.map Occurrence.bare =
        (watcher.undisturbed (placed inputs)).2 := by
  induction inputs using List.reverseRecOn with
  | nil => exact ⟨rfl, rfl⟩
  | append_singleton inputs input ih =>
      obtain ⟨machine, signal⟩ := input
      obtain ⟨outcome, received⟩ := watcher.exists_receiveAll_concat act inputs machine signal
      have further : watcher.undisturbed (placed (inputs ++ [(machine, signal)])) =
          ((watcher.step machine.working (watcher.receiveAll act inputs).1 signal).1,
            (if (watcher.step machine.working (watcher.receiveAll act inputs).1 signal).2
              then [.acted none] else []) ++ .received signal machine.working ::
                (watcher.receiveAll act inputs).2.map Occurrence.bare) := by
        rw [ih.1, ih.2, undisturbed, placed, List.map_append, List.foldl_append]
        rfl
      rw [received, further]
      refine ⟨rfl, ?_⟩
      split
      · simp [Occurrence.bare]
      · simp [Occurrence.bare]

/-- After any signals, in any order: the watcher is armed exactly if something that matters was
received since it acted last, it has acted exactly at the ticks that found it so, and not after it
was stopped.  Every signal is on record.  That watching failed for once changes nothing, and
neither does how acting ends. -/
theorem receiveAll_follows (inputs : List (Machine × Signal)) :
    let (state, history) := watcher.receiveAll act inputs
    watcher.Follows history state ∧
      history.reverse.filterMap Occurrence.received? = placed inputs ∧
      (∀ machine reason,
        (watcher.receiveAll act (inputs ++ [(machine, .trouble reason)])).1 = state) ∧
      ∀ other others, placed others = placed inputs →
        (watcher.receiveAll other others).1 = state ∧
          (watcher.receiveAll other others).2.map Occurrence.bare =
            history.map Occurrence.bare := by
  refine ⟨watcher.follows_receiveAll act inputs, watcher.received_receiveAll act inputs, ?_, ?_⟩
  · intro machine reason
    obtain ⟨outcome, received⟩ :=
      watcher.exists_receiveAll_concat act inputs machine (.trouble reason)
    rw [received, step.eq_def]
    split
    · rfl
    · rfl
  · intro other others same
    have one := watcher.receiveAll_undisturbed act inputs
    have two := watcher.receiveAll_undisturbed other others
    rw [same] at two
    exact ⟨two.1.trans one.1.symm, two.2.trans one.2.symm⟩

/-- A burst of changes of a watched file among others, a tick, a second burst, and a stop before
the last changes, with an action that always fails. -/
theorem receiveAll_follows_bursts :
    let watcher : Watcher := { files := ["/work/m.ddef"], debounce := 1 }
    let machine : Machine := { working := "/work" }
    let inputs : List (Machine × Signal) :=
      [.change ⟨"m.ddef", [.write]⟩, .change ⟨"notes.txt", [.write]⟩,
        .change ⟨"/work/m.ddef", [.create, .chmod]⟩, .tick, .tick, .change ⟨"m.ddef", [.chmod]⟩,
        .tick, .trouble "overflow", .change ⟨"m.ddef", [.rename]⟩, .tick, .stop,
        .change ⟨"m.ddef", [.write]⟩, .tick].map fun signal => (machine, signal)
    let failing : StateM Machine (Option Failure) := return some (.message "no model")
    let succeeding : StateM Machine (Option Failure) := return none
    let (state, history) := watcher.receiveAll failing inputs
    history.count (.acted (some (.message "no model"))) = 2 ∧ state.stopped ∧
      watcher.Follows history state ∧ (watcher.receiveAll succeeding inputs).1 = state := by
  intro watcher machine inputs failing succeeding
  have follows := watcher.receiveAll_follows failing inputs
  exact ⟨by decide +kernel, by decide +kernel, follows.1,
    (follows.2.2.2 succeeding inputs rfl).1⟩

end Run

end DomainGen.Watcher
