import DomainGen.Text.CharClass

/-!
# Quoted text

A text between double quotes on one line.  Quotes, backslashes and characters
that are not shown as themselves are written as escapes.
-/

namespace DomainGen.Text

private def hexDigit (value : Nat) : Char :=
  if value < 10 then Char.ofNat (48 + value) else Char.ofNat (87 + value)

/-- The last `width` hexadecimal digits of a number, in lower case. -/
def hexDigits : (width : Nat) → (value : Nat) → List Char
  | 0, _ => []
  | width + 1, value => hexDigits width (value / 16) ++ [hexDigit (value % 16)]

/-- One character as it stands between the quotes `quote`. -/
def escapeChar (quote : Char) (c : Char) : List Char :=
  if c == quote || c == '\\' then ['\\', c]
  else if isPrintable c then [c]
  else match c.toNat with
    | 7 => ['\\', 'a']
    | 8 => ['\\', 'b']
    | 9 => ['\\', 't']
    | 10 => ['\\', 'n']
    | 11 => ['\\', 'v']
    | 12 => ['\\', 'f']
    | 13 => ['\\', 'r']
    | code =>
        if code < 0x20 || code == 0x7F then '\\' :: 'x' :: hexDigits 2 code
        else if code < 0x10000 then '\\' :: 'u' :: hexDigits 4 code
        else '\\' :: 'U' :: hexDigits 8 code

/-- A text in double quotes. -/
def quoted (text : String) : String :=
  String.ofList ('"' :: text.toList.flatMap (escapeChar '"') ++ ['"'])

/-- A character in single quotes. -/
def quotedChar (c : Char) : String :=
  String.ofList ('\'' :: escapeChar '\'' c ++ ['\''])

end DomainGen.Text
