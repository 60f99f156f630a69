import DomainGen.Log.Entry

/-!
# The surroundings of a run

What a program asks of its surroundings apart from files: where it runs, the
variables of its environment, the time, a place for log entries, and the two
streams it writes to.
-/

namespace DomainGen

/-- The process a program runs as. -/
class Process (m : Type → Type) where
  /-- The working directory, as an absolute path. -/
  workingDirectory : m String
  /-- The value of an environment variable. -/
  environmentValue : String → m (Option String)
  /-- Milliseconds since some fixed moment. -/
  milliseconds : m Nat

/-- A place for log entries. -/
class Journal (m : Type → Type) where
  /-- Open the log, as JSON or for a reader, for entries from a level on. -/
  start : (json : Bool) → (least : LogLevel) → m Unit
  /-- Log an entry.  Before the log is open, entries are dropped. -/
  log : LogEntry → m Unit

/-- The streams of a program. -/
class Console (m : Type → Type) where
  /-- Write to the standard output. -/
  print : String → m Unit
  /-- Write to the standard error stream. -/
  printError : String → m Unit

/-- Log an entry. -/
def note {m : Type → Type} [Journal m] (level : LogLevel) (logger message : String)
    (fields : List (String × LogValue)) : m Unit :=
  Journal.log
    { level, logger, message, fields := fields.map fun (name, value) => (name, some value) }

end DomainGen
