import DomainGen.Model.Basic
import DomainGen.Text.Quoted

/-!
# Diagnostics

A finding about a model, with the place it concerns.  Malformed input is an
error; unresolved references and questionable declarations are warnings that
leave the model usable.
-/

namespace DomainGen

/-- How serious a diagnostic is. -/
inductive Severity where
  | error
  | warning
  | note
  deriving Repr, DecidableEq, Inhabited

/-- The word for a severity. -/
def Severity.word : Severity → String
  | .error => "error"
  | .warning => "warning"
  | .note => "note"

/-- What a diagnostic is about: malformed input, a reference that could not be
resolved, or a well-formed but questionable model. -/
inductive Concern where
  | malformed
  | linking
  | semantic
  deriving Repr, DecidableEq, Inhabited

/-- The word for a concern. -/
def Concern.word : Concern → String
  | .malformed => "syntax"
  | .linking => "linking"
  | .semantic => "semantic"

/-- A positioned finding about a model. -/
structure Diagnostic where
  concern : Concern := .malformed
  severity : Severity := .error
  message : String
  file : String := ""
  line : Int := 0
  column : Int := 0
  token : String := ""
  suggestions : List String := []
  deriving Repr, DecidableEq, Inhabited

namespace Diagnostic

/-- Malformed input at a place. -/
def malformedAt (pos : Position) (message : String) : Diagnostic :=
  { message, line := pos.line, column := pos.column }

/-- A warning at a place. -/
def warningAt (concern : Concern) (pos : Position) (message : String) : Diagnostic :=
  { concern, severity := .warning, message, line := pos.line, column := pos.column }

/-- The same finding in a named file. -/
def inFile (diagnostic : Diagnostic) (file : String) : Diagnostic :=
  { diagnostic with file }

/-- Whether the finding leaves the model usable. -/
def isWarning (diagnostic : Diagnostic) : Bool := diagnostic.severity == .warning

/-- File, line and column as far as they are known, ready to stand in front of
the message. -/
def location (diagnostic : Diagnostic) : String :=
  let file := if diagnostic.file = "" then [] else [diagnostic.file]
  let place := if 0 < diagnostic.line then
      [toString diagnostic.line ++ ":" ++ toString diagnostic.column]
    else []
  match file ++ place with
  | [] => ""
  | known => Text.join ":" known ++ ": "

/-- The finding on one line. -/
def text (diagnostic : Diagnostic) : String :=
  let got := if diagnostic.token = "" then ""
    else " (got " ++ Text.quoted diagnostic.token ++ ")"
  diagnostic.location ++ diagnostic.message ++ got

end Diagnostic

end DomainGen
