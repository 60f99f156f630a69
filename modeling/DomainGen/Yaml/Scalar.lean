import DomainGen.Text.Segments

/-!
# What a plain scalar means

A scalar that is written without quotes and without a tag takes its type from
its spelling: null, a truth value, a whole number, a floating-point number, a
time, and otherwise text.
-/

namespace DomainGen.Yaml

/-- The types of scalars and collections. -/
inductive Tag where
  | null | bool | int | float | timestamp | str | binary | merge | seq | map
  deriving Repr, DecidableEq, Inhabited

/-- The short form of a tag. -/
def Tag.short : Tag → String
  | null => "!!null"
  | bool => "!!bool"
  | int => "!!int"
  | float => "!!float"
  | timestamp => "!!timestamp"
  | str => "!!str"
  | binary => "!!binary"
  | merge => "!!merge"
  | seq => "!!seq"
  | map => "!!map"

/-- The tag with this short form. -/
def Tag.ofShort? (short : String) : Option Tag :=
  [Tag.null, .bool, .int, .float, .timestamp, .str, .binary, .merge, .seq, .map].find?
    (·.short == short)

/-- The value of a digit in any base up to thirty-six. -/
def digitValue? (c : Char) : Option Nat :=
  if '0' ≤ c && c ≤ '9' then some (c.toNat - 48)
  else if 'a' ≤ c && c ≤ 'z' then some (c.toNat - 87)
  else if 'A' ≤ c && c ≤ 'Z' then some (c.toNat - 55)
  else none

/-- The value of a digit sequence, which has to be non-empty. -/
def natOfDigits? (base : Nat) (digits : List Char) : Option Nat :=
  if digits.isEmpty then none
  else digits.foldlM (fun value c => do
    let digit ← digitValue? c
    if digit < base then some (value * base + digit) else none) 0

/-- A number without sign whose base is told by its start: `0x`, `0b`, `0o`, or
`0` for octal. -/
def natOfPrefixed? : List Char → Option Nat
  | ['0'] => some 0
  | '0' :: c :: rest =>
      if c == 'x' || c == 'X' then natOfDigits? 16 rest
      else if c == 'b' || c == 'B' then natOfDigits? 2 rest
      else if c == 'o' || c == 'O' then natOfDigits? 8 rest
      else natOfDigits? 8 (c :: rest)
  | digits => natOfDigits? 10 digits

/-- A sign and what follows it. -/
def splitSign : List Char → Bool × List Char
  | '-' :: rest => (true, rest)
  | '+' :: rest => (false, rest)
  | other => (false, other)

/-- A whole number that fits into 64 bits with a sign. -/
def int64? (digits : List Char) : Option Int := do
  let (negative, rest) := splitSign digits
  let value ← natOfPrefixed? rest
  if negative then
    if value ≤ Nat.pow 2 63 then some (-(value : Int)) else none
  else if value < Nat.pow 2 63 then some value else none

/-- A whole number that fits into 64 bits, with a sign or without. -/
def isInteger (digits : List Char) : Bool :=
  (int64? digits).isSome ||
    (match digits with
      | '+' :: _ | '-' :: _ => false
      | _ => (natOfPrefixed? digits).any (· < UInt64.size))

/-- The parts of a decimal number: its digits, how many of them stand after the
point, and its exponent. -/
structure Decimal where
  digits : List Char
  places : Nat
  exponent : Int
  deriving Repr, DecidableEq, Inhabited

private def exponent? : List Char → Option Int
  | [] => some 0
  | e :: rest =>
      if e == 'e' || e == 'E' then
        let (negative, digits) := splitSign rest
        (natOfDigits? 10 digits).map fun value => if negative then -(value : Int) else value
      else none

/-- The parts of a decimal number: digits with at most one point among them, and
an exponent. -/
def decimal? (text : List Char) : Option Decimal :=
  let (_, body) := splitSign text
  let whole := body.takeWhile Char.isDigit
  match body.dropWhile Char.isDigit with
  | '.' :: rest =>
      let places := rest.takeWhile Char.isDigit
      if whole.isEmpty && places.isEmpty then none
      else (exponent? (rest.dropWhile Char.isDigit)).map (⟨whole ++ places, places.length, ·⟩)
  | rest =>
      if whole.isEmpty then none else (exponent? rest).map (⟨whole, 0, ·⟩)

/-- Whether a decimal number is too large for a floating-point number of 64
bits. -/
def Decimal.overflows (decimal : Decimal) : Bool :=
  let digits := decimal.digits.dropWhile (· == '0')
  let scale := decimal.exponent - decimal.places
  let magnitude : Int := digits.length + scale
  if digits.isEmpty || magnitude < 309 then false
  else if 309 < magnitude then true
  else
    let limit := Nat.pow 2 1024 - Nat.pow 2 970
    match natOfDigits? 10 digits with
    | none => false
    | some value =>
        if 0 ≤ scale then limit ≤ value * Nat.pow 10 scale.toNat
        else limit * Nat.pow 10 (-scale).toNat ≤ value

/-- A floating-point number in decimal notation. -/
def isFloat (text : List Char) : Bool := (decimal? text).any (!·.overflows)

private def twoDigitNumber? : List Char → Option (Nat × List Char)
  | c :: d :: rest =>
      if c.isDigit then
        if d.isDigit then some ((c.toNat - 48) * 10 + (d.toNat - 48), rest)
        else some (c.toNat - 48, d :: rest)
      else none
  | [c] => if c.isDigit then some (c.toNat - 48, []) else none
  | [] => none

private def daysIn (year month : Nat) : Nat :=
  match month with
  | 2 => if year % 4 == 0 && (year % 100 != 0 || year % 400 == 0) then 29 else 28
  | 4 | 6 | 9 | 11 => 30
  | _ => 31

private def after? (mark : Char) : List Char → Option (List Char)
  | c :: rest => if c == mark then some rest else none
  | [] => none

/-- A date, with what follows it. -/
def date? (text : List Char) : Option (List Char) := do
  let year ← natOfDigits? 10 (text.take 4)
  guard ((text.take 4).length == 4)
  let (month, rest) ← (after? '-' (text.drop 4)).bind twoDigitNumber?
  let (day, rest) ← (after? '-' rest).bind twoDigitNumber?
  guard (1 ≤ month && month ≤ 12 && 1 ≤ day && day ≤ daysIn year month)
  return rest

/-- A time of day with an optional fraction of a second, and what follows it. -/
def timeOfDay? (text : List Char) : Option (List Char) := do
  let (hour, rest) ← twoDigitNumber? text
  let (minute, rest) ← (after? ':' rest).bind twoDigitNumber?
  let (second, rest) ← (after? ':' rest).bind twoDigitNumber?
  guard (hour < 24 && minute < 60 && second < 60)
  match rest with
  | mark :: c :: more =>
      if (mark == '.' || mark == ',') && c.isDigit then some (more.dropWhile Char.isDigit)
      else some rest
  | _ => some rest

/-- Whether a text is a time zone: `Z`, or an offset in hours and minutes. -/
def isZone : List Char → Bool
  | ['Z'] => true
  | sign :: h1 :: h2 :: ':' :: m1 :: m2 :: [] =>
      (sign == '+' || sign == '-') && [h1, h2, m1, m2].all Char.isDigit &&
        (h1.toNat - 48) * 10 + (h2.toNat - 48) ≤ 24 && (m1.toNat - 48) * 10 + (m2.toNat - 48) ≤ 60
  | _ => false

/-- Whether a text is a date, or a date with a time of day. -/
def isTimestamp (text : List Char) : Bool :=
  match date? text with
  | none => false
  | some [] => true
  | some (c :: rest) =>
      if c == 'T' || c == 't' then (timeOfDay? rest).any isZone
      else if c == ' ' then (timeOfDay? rest).any (·.isEmpty)
      else false

/-- The spellings of null. -/
def nullWords : List String := ["", "~", "null", "Null", "NULL"]

/-- The spellings of true and false. -/
def trueWords : List String := ["true", "True", "TRUE"]

/-- The spellings of false. -/
def falseWords : List String := ["false", "False", "FALSE"]

private def floatWords : List String :=
  [".nan", ".NaN", ".NAN", ".inf", ".Inf", ".INF", "+.inf", "+.Inf", "+.INF", "-.inf", "-.Inf",
    "-.INF"]

/-- Further words that stand for true where a truth value is asked for. -/
def oldTrueWords : List String := ["y", "Y", "yes", "Yes", "YES", "on", "On", "ON"]

/-- Further words that stand for false where a truth value is asked for. -/
def oldFalseWords : List String := ["n", "N", "no", "No", "NO", "off", "Off", "OFF"]

/-- The type of a number-like text. -/
def numberTag (text : List Char) : Tag :=
  let plain := text.filter (· ≠ '_')
  if isTimestamp text then .timestamp
  else if isInteger plain then .int
  else if isFloat plain then .float
  else .str

/-- The type that the spelling of a plain scalar stands for. -/
def plainTag (text : String) : Tag :=
  if text ∈ nullWords then .null
  else if text ∈ trueWords || text ∈ falseWords then .bool
  else if text ∈ floatWords then .float
  else match text.toList with
    | [] => .null
    | c :: rest =>
        if c == '.' then
          if isFloat (c :: rest) then .float else .str
        else if c.isDigit || c == '+' || c == '-' then numberTag (c :: rest)
        else .str

/-- Whether a text looks like a number of base sixty. -/
def isSexagesimal (text : List Char) : Bool :=
  let (_, body) := splitSign text
  let (body, fraction) := (body.takeWhile (· ≠ '.'), body.dropWhile (· ≠ '.'))
  let fractionOk := match fraction with
    | [] => true
    | _ :: rest => rest.all fun c => c.isDigit || c == '_'
  let groupOk : List Char → Bool
    | [c] => c.isDigit
    | [c, d] => '0' ≤ c && c ≤ '5' && d.isDigit
    | _ => false
  match Text.cut ':' body with
  | (c :: first) :: group :: groups =>
      c.isDigit && first.all (fun c => c.isDigit || c == '_') &&
        (group :: groups).all groupOk && fractionOk
  | _ => false

/-- Whether a text can be written without quotes and still be read as text. -/
def readsAsText (text : String) : Bool :=
  plainTag text == .str && !isSexagesimal text.toList &&
    !(text ∈ oldTrueWords || text ∈ oldFalseWords)

end DomainGen.Yaml
