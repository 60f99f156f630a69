import DomainGen.Number.Binary64
import DomainGen.Text.Quoted

/-!
# Reading numbers

Integers, floating-point numbers and truth values from text.  An integer can be
asked for in a fixed base, or in the base that its prefix tells.
-/

namespace DomainGen

/-- Why a text is not a number. -/
inductive NumberFault where
  | malformed
  | outOfRange
  deriving Repr, DecidableEq, Inhabited

/-- A fault of the reader called `reader` on a text, in words. -/
def NumberFault.text (fault : NumberFault) (reader text : String) : String :=
  "strconv." ++ reader ++ ": parsing " ++ Text.quoted text ++ ": " ++
    match fault with
    | .malformed => "invalid syntax"
    | .outOfRange => "value out of range"

namespace Number

/-- The value of a digit of any base up to 36. -/
def digit? (c : Char) : Option Nat :=
  if '0' ≤ c && c ≤ '9' then some (c.toNat - 48)
  else if 'a' ≤ c && c ≤ 'z' then some (c.toNat - 87)
  else if 'A' ≤ c && c ≤ 'Z' then some (c.toNat - 55)
  else none

/-- The number that digits stand for, as long as it fits into 64 bits.
Underscores are passed over where they are `allowed`. -/
def magnitude (base : Nat) (allowed : Bool) : List Char → (soFar : Nat) → Except NumberFault Nat
  | [], soFar => .ok soFar
  | c :: rest, soFar =>
      if c = '_' && allowed then magnitude base allowed rest soFar
      else match digit? c with
        | none => .error .malformed
        | some digit =>
            if base ≤ digit then .error .malformed
            else
              let next := soFar * base + digit
              if UInt64.size ≤ next then .error .outOfRange else magnitude base allowed rest next

/-- A text without a sign in front, and whether that was a minus. -/
def splitSign : List Char → Bool × List Char
  | '-' :: rest => (true, rest)
  | '+' :: rest => (false, rest)
  | text => (false, text)

/-- The base that the prefix of a number tells, and the digits after it. -/
def splitBase : List Char → Nat × List Char
  | '0' :: marker :: c :: rest =>
      if marker = 'b' || marker = 'B' then (2, c :: rest)
      else if marker = 'o' || marker = 'O' then (8, c :: rest)
      else if marker = 'x' || marker = 'X' then (16, c :: rest)
      else (8, marker :: c :: rest)
  | '0' :: rest => (8, rest)
  | digits => (10, digits)

/-- What stands before a character of a number. -/
inductive Before where
  | digit | underscore | other
  deriving Repr, DecidableEq

/-- Whether every underscore stands between digits. -/
def underscoresStandBetween (hexadecimal : Bool) : Before → List Char → Bool
  | before, [] => before ≠ .underscore
  | before, c :: rest =>
      if ('0' ≤ c && c ≤ '9') || (hexadecimal && (digit? c).any (· < 16)) then
        underscoresStandBetween hexadecimal .digit rest
      else if c = '_' then
        before = .digit && underscoresStandBetween hexadecimal .underscore rest
      else before ≠ .underscore && underscoresStandBetween hexadecimal .other rest

/-- Whether the underscores of a number are in order.  A base prefix counts as a
digit. -/
def underscoresInOrder (digits : List Char) : Bool :=
  match digits with
  | '0' :: marker :: rest =>
      if marker ∈ ['b', 'B', 'o', 'O', 'x', 'X'] then
        underscoresStandBetween (marker = 'x' || marker = 'X') .digit rest
      else underscoresStandBetween false .other digits
  | _ => underscoresStandBetween false .other digits

/-- Read an integer of 64 bits in a base; base 0 is the one its prefix tells,
and allows underscores between digits. -/
def readInteger (base : Nat) (text : String) : Except NumberFault Int := do
  let (negative, digits) := splitSign text.toList
  if digits.isEmpty then throw .malformed
  let (used, rest) := if base = 0 then splitBase digits else (base, digits)
  let value ← magnitude used (base = 0) rest 0
  if base = 0 && digits.contains '_' && !underscoresInOrder digits then throw .malformed
  if negative then
    if Nat.pow 2 63 < value then throw .outOfRange else return -(value : Int)
  else if Nat.pow 2 63 ≤ value then throw .outOfRange
  else return value

private def decimalValue (digits : List Char) : Nat :=
  digits.foldl (fun value c => value * 10 + (c.toNat - 48)) 0

/-- The exponent that ends a number: a letter, a sign and digits. -/
def readExponent : List Char → Except NumberFault Int
  | [] => .ok 0
  | marker :: rest =>
      if marker = 'e' || marker = 'E' then
        let (negative, digits) := splitSign rest
        if digits.isEmpty || !digits.all Char.isDigit then .error .malformed
        else
          let value : Int := decimalValue digits
          .ok (if negative then -value else value)
      else .error .malformed

/-- Read a floating-point number. -/
def readFloat (text : String) : Except NumberFault Binary64 := do
  let (negative, body) := splitSign text.toList
  match (String.ofList body).toLower with
  | "inf" | "infinity" => return .infinite negative
  | "nan" => if body.length = text.length then return .notANumber else throw .malformed
  | _ =>
      let whole := body.takeWhile Char.isDigit
      let rest := body.dropWhile Char.isDigit
      let (fraction, rest) := match rest with
        | '.' :: rest => (rest.takeWhile Char.isDigit, rest.dropWhile Char.isDigit)
        | rest => ([], rest)
      if whole.isEmpty && fraction.isEmpty then throw .malformed
      let exponent ← readExponent rest
      match Binary64.ofDecimal negative (decimalValue (whole ++ fraction))
          (exponent - fraction.length) with
      | .infinite _ => throw .outOfRange
      | value => return value

/-- Read a truth value. -/
def readBool? (text : String) : Option Bool :=
  if text ∈ ["1", "t", "T", "true", "TRUE", "True"] then some true
  else if text ∈ ["0", "f", "F", "false", "FALSE", "False"] then some false
  else none

end Number

end DomainGen
