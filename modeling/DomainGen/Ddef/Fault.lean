import DomainGen.Ddef.Token
import DomainGen.Diagnostic

/-!
# What can be wrong with a source text

The ways in which a text fails to be a model, and how each of them is put to
the user.
-/

namespace DomainGen.Ddef

/-- What a name would have stood for. -/
inductive NameRole where
  | package | datatype | unionMember | entity | supertype | feature | featureType | enum
  | literal
  deriving Repr, DecidableEq, Inhabited

/-- The words for what a name would have stood for. -/
def NameRole.words : NameRole → String
  | package => "package name"
  | datatype => "datatype name"
  | unionMember => "union member"
  | entity => "entity name"
  | supertype => "supertype"
  | feature => "feature name"
  | featureType => "feature type"
  | enum => "enum name"
  | literal => "enum literal"

/-- What could have stood where something else was found. -/
inductive Expectation where
  | symbol (mark : Symbol)
  | name (role : NameRole)
  | element
  | commaOrClose
  deriving Repr, DecidableEq, Inhabited

/-- An expectation in words. -/
def Expectation.message : Expectation → String
  | symbol mark => "expected '" ++ String.singleton mark.char ++ "'"
  | name role => "expected " ++ role.words
  | element => "expected 'package', 'datatype', 'entity' or 'enum'"
  | commaOrClose => "expected ',' or '\x7d'"

/-- Why a text is not a model.  `unexpected` holds what was found, nothing at the
end of the text. -/
inductive Fault where
  | unterminatedComment
  | strayCharacter (c : Char)
  | unexpected (wanted : Expectation) (found : Option Lexeme)
  deriving Repr, DecidableEq, Inhabited

namespace Fault

/-- The fault in words. -/
def message : Fault → String
  | unterminatedComment => "unterminated block comment"
  | strayCharacter _ => "unexpected character"
  | unexpected wanted _ => wanted.message

/-- The text that is at fault. -/
def token : Fault → String
  | unterminatedComment => ""
  | strayCharacter c => String.singleton c
  | unexpected _ none => endOfFile
  | unexpected _ (some lexeme) => lexeme.text

/-- What the user could do about it. -/
def suggestions : Fault → List String
  | unterminatedComment => ["close the comment with */"]
  | unexpected (.name _) (some (.keyword word)) =>
      ["escape keywords used as names with ^, e.g. ^" ++ word.text]
  | _ => []

end Fault

/-- A fault and its place. -/
structure SyntaxError where
  fault : Fault
  pos : Position
  deriving Repr, DecidableEq, Inhabited

/-- A fault as a diagnostic. -/
def SyntaxError.diagnostic (error : SyntaxError) : Diagnostic :=
  { Diagnostic.malformedAt error.pos error.fault.message with
    token := error.fault.token
    suggestions := error.fault.suggestions }

end DomainGen.Ddef
