import DomainGen.Data.Basic
import DomainGen.Text.Case
import DomainGen.Text.Quoted
import DomainGen.Text.Segments

/-!
# Writing TOML

Tables of scalars, one after the other.  A text is written as it is between
apostrophes if it can be, and else between quotes with escapes.
-/

namespace DomainGen.Toml

/-- Whether a character cannot stand between apostrophes. -/
def needsEscape (c : Char) : Bool :=
  c = '\'' || (c.toNat < 32 && c ≠ '\t') || c.toNat = 127

/-- A character between quotes. -/
def escapeBasic (c : Char) : List Char :=
  match c with
  | '\\' => ['\\', '\\']
  | '"' => ['\\', '"']
  | '\t' => ['\\', 't']
  | '\n' => ['\\', 'n']
  | '\r' => ['\\', 'r']
  | _ =>
      if c.toNat = 8 then ['\\', 'b']
      else if c.toNat = 12 then ['\\', 'f']
      else if c.toNat < 32 || c.toNat = 127 then
        '\\' :: 'u' :: (Text.hexDigits 4 c.toNat).map Text.upper
      else [c]

/-- A text as a TOML string. -/
def writeText (text : String) : String :=
  if text.toList.any needsEscape then
    String.ofList ('"' :: text.toList.flatMap escapeBasic ++ ['"'])
  else "'" ++ text ++ "'"

/-- A scalar as a TOML value.  Other data has no form here. -/
def writeScalar : Data → String
  | .text value => writeText value
  | .bool value => if value then "true" else "false"
  | .int value => toString value
  | .list _ | .record _ => ""

/-- A table with its header. -/
def writeTable (name : String) (fields : List (String × Data)) : String :=
  "[" ++ name ++ "]\n" ++
    String.join (fields.map fun (field, value) => field ++ " = " ++ writeScalar value ++ "\n")

/-- Tables with an empty line between them. -/
def writeTables (tables : List (String × List (String × Data))) : String :=
  Text.join "\n" (tables.map fun (name, fields) => writeTable name fields)

end DomainGen.Toml
