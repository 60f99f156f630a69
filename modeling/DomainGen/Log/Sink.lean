import DomainGen.Log.Entry

/-!
# Writing the log

Where log entries go: entries that are serious enough become lines.  A log for
programs keeps repetition in bounds: of the entries with the same level and
message it has the first hundred, and from then on every hundredth.
-/

namespace DomainGen

/-- An open log. -/
structure LogSink where
  /-- Whether entries are written as JSON. -/
  json : Bool := false
  /-- The least serious entries that are written. -/
  least : LogLevel := .warn
  /-- The run that the entries belong to. -/
  run : String := ""
  /-- How often each message was logged at each level, in a log for programs. -/
  counts : List ((LogLevel × String) × Nat) := []
  deriving Repr, DecidableEq, Inhabited

namespace LogSink

/-- How many entries with the same level and message are written in full, and
which of those that follow are. -/
def sampling : Nat := 100

/-- How often an entry's level and message have been seen. -/
def seen (sink : LogSink) (entry : LogEntry) : Nat :=
  ((sink.counts.find? (·.1 == (entry.level, entry.message))).map (·.2)).getD 0

private def countUp (key : LogLevel × String) :
    List ((LogLevel × String) × Nat) → List ((LogLevel × String) × Nat)
  | [] => [(key, 1)]
  | (other, count) :: rest =>
      if other = key then (other, count + 1) :: rest else (other, count) :: countUp key rest

/-- The text that an entry adds to the log. -/
def append (sink : LogSink) (seconds : Int) (entry : LogEntry) : String × LogSink :=
  if entry.level.rank < sink.least.rank then ("", sink)
  else if !sink.json then (entry.line seconds, sink)
  else
    let before := sink.seen entry
    let counted := { sink with counts := countUp (entry.level, entry.message) sink.counts }
    if before < sampling || (before + 1) % sampling = 0 then
      (entry.json seconds sink.run, counted)
    else ("", counted)

end LogSink

end DomainGen
