import DomainGen.Failure.Basic
import DomainGen.Generate.Target
import DomainGen.Watch

/-!
# Configuration

What can be configured, what holds without any configuration, and which
configurations make sense.
-/

namespace DomainGen

/-- The settings of a run. -/
structure Config where
  /-- The language to generate. -/
  target : String := Target.java.language
  /-- Where output goes; the empty path is a folder next to the model. -/
  destination : String := ""
  /-- The folder whose model files are linked together; empty for none. -/
  root : String := ""
  /-- Whether only the exit status tells the result. -/
  quiet : Bool := false
  /-- The package that all generated packages are put into. -/
  rootPackage : String := ""
  /-- Whether the log is written for programs. -/
  jsonLog : Bool := false
  /-- How much a run tells. -/
  verbosity : Int := 0
  /-- Milliseconds to wait for further changes of watched files; zero for the
  default. -/
  debounceMs : Int := 300
  deriving Repr, DecidableEq, Inhabited

namespace Config

/-- An integer as it is kept in 64 bits. -/
def wrap64 (value : Int) : Int := Int.bmod value UInt64.size

/-- How long to wait for further changes, in nanoseconds. -/
def debounce (config : Config) : Int :=
  if config.debounceMs ≤ 0 then defaultDebounce else wrap64 (config.debounceMs * 1000000)

/-- Whether a character may stand in an identifier, possibly at its start. -/
def isIdentifierChar (first : Bool) (c : Char) : Bool :=
  c = '_' || c = '$' || Text.isLetter c || (!first && Text.isDecimalDigit c)

/-- Whether a word is an identifier. -/
def isIdentifier (word : String) : Bool :=
  match word.toList with
  | [] => false
  | c :: rest => isIdentifierChar true c && rest.all (isIdentifierChar false)

/-- Whether a name is a list of identifiers with dots between them. -/
def isPackageName (name : String) : Bool := (Text.segments '.' name).all isIdentifier

/-- The words that select a target in a configuration. -/
def targets : List String := Target.all.map (·.language)

/-- Check that a configuration makes sense; the first thing that does not is
reported. -/
def validate (config : Config) : Except Failure Unit := do
  if config.target ∉ targets then
    throw (.invalidTarget ("generate.target must be one of " ++ Text.join ", " targets ++
      ", got " ++ Text.quoted config.target))
  if config.debounceMs < 0 then
    throw (.message ("watch.debounce_ms must be >= 0, got " ++ toString config.debounceMs))
  if config.verbosity < 0 then
    throw (.message ("log.verbosity must be >= 0, got " ++ toString config.verbosity))
  if config.rootPackage ≠ "" && !isPackageName config.rootPackage then
    throw (.hint "use dot-separated identifiers, e.g. com.acme"
      (.message ("java.root_package " ++ Text.quoted config.rootPackage ++
        " is not a valid package name")))

end Config

end DomainGen
