/-!
# Verbosity

How much a run tells.  A verbosity is a number: 0 for results and failures
only, 1 and 2 for ever more detail.  It decides which log entries are written
and which kinds of output are shown.
-/

namespace DomainGen

/-- How serious a log entry is. -/
inductive LogLevel where
  | debug | info | warn | error | dpanic | panic | fatal
  deriving Repr, DecidableEq, Inhabited

namespace LogLevel

/-- The position in the order of seriousness. -/
def rank : LogLevel → Nat
  | debug => 0
  | info => 1
  | warn => 2
  | error => 3
  | dpanic => 4
  | panic => 5
  | fatal => 6

/-- The word for a level. -/
def word : LogLevel → String
  | debug => "debug"
  | info => "info"
  | warn => "warn"
  | error => "error"
  | dpanic => "dpanic"
  | panic => "panic"
  | fatal => "fatal"

/-- The word for a level, in capitals. -/
def label : LogLevel → String
  | debug => "DEBUG"
  | info => "INFO"
  | warn => "WARN"
  | error => "ERROR"
  | dpanic => "DPANIC"
  | panic => "PANIC"
  | fatal => "FATAL"

/-- Every level. -/
def all : List LogLevel := [debug, info, warn, error, dpanic, panic, fatal]

/-- The level that a word means. -/
def ofWord? (word : String) : Option LogLevel := all.find? (·.word == word)

end LogLevel

/-- A kind of output. -/
inductive Output where
  | results | errors | diagnostics | config | artifacts | timing
  deriving Repr, DecidableEq, Inhabited

namespace Output

/-- The kinds of output, by number. -/
def all : List Output := [results, errors, diagnostics, config, artifacts, timing]

/-- The kind of output with a number. -/
def ofNumber? (number : Int) : Option Output :=
  if number < 0 then none else all[number.toNat]?

/-- The least verbosity at which a kind of output is shown. -/
def threshold : Output → Int
  | results | errors | diagnostics => 0
  | config => 1
  | artifacts | timing => 2

end Output

namespace Verbosity

/-- The least serious log entries that are written. -/
def level (verbosity : Int) : LogLevel :=
  if verbosity ≤ 0 then .warn else if verbosity = 1 then .info else .debug

/-- A verbosity in words. -/
def name (verbosity : Int) : String :=
  if verbosity = 0 then "User"
  else if verbosity = 1 then "Info (-v)"
  else if verbosity = 2 then "Debug (-vv)"
  else if verbosity = 3 then "Trace (-vvv)"
  else if 3 < verbosity then "Trace (-vvv+)"
  else "Unknown"

/-- Whether a kind of output is shown.  A kind that is not known needs a
verbosity above all others. -/
def shows (verbosity : Int) (output : Option Output) : Bool :=
  match output with
  | some output => output.threshold ≤ verbosity
  | none => 3 ≤ verbosity

end Verbosity

end DomainGen
