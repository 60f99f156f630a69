import DomainGen.Proofs.Host.Rewriting

/-!
# What can be heard of a run

What a run prints, and what it logs.  A log that is open for warnings takes no note of lesser
entries, and the file operations print and log nothing (`Unheard`).
-/

namespace DomainGen

/-! ## Log entries -/

/-- The text that entries add to a log, in order, while the clock stands still. -/
def LogSink.text (sink : LogSink) : List LogEntry → String
  | [] => ""
  | entry :: rest => (sink.append 0 entry).1 ++ (sink.append 0 entry).2.text rest

theorem LogSink.append_of_lt {sink : LogSink} {entry : LogEntry}
    (minor : entry.level.rank < sink.least.rank) : sink.append 0 entry = ("", sink) := by
  rw [append, if_pos minor]

theorem LogSink.least_append (sink : LogSink) (entry : LogEntry) :
    (sink.append 0 entry).2.least = sink.least := by
  unfold append
  split
  · rfl
  split
  · rfl
  simp only
  split
  · rfl
  · rfl

namespace Machine

variable {machine start : Machine}

/-- The log is open for warnings, and for nothing less serious. -/
def Warns (machine : Machine) : Prop := machine.log.map LogSink.least = some .warn

theorem Warns.note {level : LogLevel} (warns : machine.Warns)
    (minor : level.rank < LogLevel.warn.rank) (logger message : String)
    (fields : List (String × LogValue)) :
    ((DomainGen.note level logger message fields : StateM Machine Unit) machine).2 = machine := by
  obtain ⟨sink, opened, least⟩ := Option.map_eq_some_iff.mp warns
  rw [← least] at minor
  simp only [DomainGen.note, Journal.log, opened]
  rw [LogSink.append_of_lt minor, String.append_empty, ← opened]

/-- The machine with a new log, which is open for warnings. -/
def warning (machine : Machine) (json : Bool) : Machine :=
  { machine with log := some { json, least := .warn } }

theorem warns_warning (machine : Machine) (json : Bool) : (machine.warning json).Warns := rfl

/-- A machine on which some entries were logged. -/
def logged (machine : Machine) (entries : List LogEntry) : Machine :=
  entries.foldl (fun machine entry => ((Journal.log entry : StateM Machine Unit) machine).2)
    machine

theorem logged_cons (entry : LogEntry) (rest : List LogEntry) :
    machine.logged (entry :: rest) =
      ((Journal.log entry : StateM Machine Unit) machine).2.logged rest := rfl

theorem leaves_logged (entries : List LogEntry) :
    Leaves machine machine.tree machine.output (machine.logged entries) := by
  induction entries generalizing machine with
  | nil => exact .refl machine
  | cons entry rest ih =>
      have first := leaves_log entry machine
      have later := @ih ((Journal.log entry : StateM Machine Unit) machine).2
      rw [first.tree, first.output] at later
      exact first.trans later

theorem Warns.logged (warns : machine.Warns) (entries : List LogEntry) :
    (machine.logged entries).Warns := by
  induction entries generalizing machine with
  | nil => exact warns
  | cons entry rest ih =>
      refine ih ?_
      obtain ⟨sink, opened, least⟩ := Option.map_eq_some_iff.mp warns
      simp only [Journal.log, opened, Warns, Option.map_some, LogSink.least_append, least]

theorem errors_logged {sink : LogSink} (opened : machine.log = some sink)
    (entries : List LogEntry) :
    (machine.logged entries).errors = machine.errors ++ sink.text entries := by
  induction entries generalizing machine sink with
  | nil => rw [logged, List.foldl_nil, LogSink.text, String.append_empty]
  | cons entry rest ih =>
      rw [logged_cons, LogSink.text, ← String.append_assoc]
      simp only [Journal.log, opened]
      exact ih rfl

/-! ## Silence -/

/-- Between two machines nothing was printed, and nothing was logged. -/
structure Unheard (start after : Machine) : Prop where
  output : after.output = start.output
  errors : after.errors = start.errors
  log : after.log = start.log

namespace Unheard

theorem refl (machine : Machine) : Unheard machine machine := ⟨rfl, rfl, rfl⟩

theorem ofTree (unheard : start.Unheard machine) (tree : FileTree) :
    start.Unheard { machine with tree } :=
  ⟨unheard.output, unheard.errors, unheard.log⟩

theorem keeps_note {level : LogLevel} (warns : start.Warns)
    (minor : level.rank < LogLevel.warn.rank) (logger message : String)
    (fields : List (String × LogValue)) :
    Keeps start.Unheard (liftM (note level logger message fields : StateM Machine Unit)) := by
  refine keeps_lift fun machine unheard => ?_
  have still : machine.Warns := by rwa [Warns, unheard.log]
  rwa [still.note minor]

theorem keeps_writeFile (path : String) (bytes : Bytes) :
    Keeps start.Unheard (Disk.writeFile path bytes) := by
  intro machine unheard
  rw [run_writeFile]
  cases machine.tree.write machine.working path bytes with
  | ok tree => exact unheard.ofTree tree
  | error refusal => exact unheard

theorem lastDirectory (unheard : start.Unheard machine) (name : String)
    (outcome : Except Failure Unit) : start.Unheard (lastDirectory name (outcome, machine)).2 := by
  cases outcome with
  | error failure => exact unheard
  | ok value =>
      rw [Machine.lastDirectory]
      split
      · exact unheard.ofTree _
      split
      · exact unheard
      · exact unheard

theorem keeps_makeDirectories (path : List Char) :
    Keeps start.Unheard (Disk.makeDirectories path) := by
  -- The path in which a directory is asked for first is shorter.
  induction path using (measure List.length).wf.induction with
  | h path ih =>
      intro machine unheard
      rw [run_makeDirectories]
      split
      · exact unheard
      · exact unheard
      · cases spelled : Disk.spelledParent? path with
        | none => exact unheard.lastDirectory _ _
        | some parent =>
            have above := ih parent (Disk.length_spelledParent? spelled) machine unheard
            exact above.lastDirectory _ _

end Unheard

end Machine

end DomainGen
