import DomainGen.Text.Segments

/-!
# Binary floating-point numbers

Numbers of 53 significant bits, as exact fractions.  A decimal is rounded to
the nearest such number, to the one with the even last bit when there are two,
and a number is written with the fewest decimal digits that are rounded to it.
-/

namespace DomainGen

/-- A number of 53 significant bits.  The value of a finite one is its mantissa
times a power of two. -/
inductive Binary64 where
  | finite (negative : Bool) (mantissa : Nat) (exponent : Int)
  | infinite (negative : Bool)
  | notANumber
  deriving Repr, DecidableEq, Inhabited

namespace Binary64

/-- The least power of two that a mantissa is multiplied by. -/
def leastExponent : Int := -1074

/-- The greatest power of two that a mantissa is multiplied by. -/
def greatestExponent : Int := 971

/-- A fraction, given as numerator and denominator, over a power of two. -/
def scaled (numerator denominator : Nat) (exponent : Int) : Nat × Nat :=
  if 0 ≤ exponent then (numerator, denominator * Nat.pow 2 exponent.toNat)
  else (numerator * Nat.pow 2 (-exponent).toNat, denominator)

/-- The integer nearest to a fraction; halfway between two, the even one. -/
def nearest (numerator denominator : Nat) : Nat :=
  let quotient := numerator / denominator
  let twice := 2 * (numerator % denominator)
  if twice < denominator then quotient
  else if denominator < twice then quotient + 1
  else if quotient % 2 = 0 then quotient else quotient + 1

/-- The power of two at which a positive fraction has a mantissa of 53 bits. -/
def normalExponent (numerator denominator : Nat) : Int :=
  let guess : Int := (Nat.log2 numerator : Int) - Nat.log2 denominator - 52
  let (top, bottom) := scaled numerator denominator guess
  if top / bottom < Nat.pow 2 52 then guess - 1 else guess

/-- The number nearest to a fraction. -/
def ofFraction (negative : Bool) (numerator denominator : Nat) : Binary64 :=
  if numerator = 0 then finite negative 0 leastExponent
  else
    let exponent := max (normalExponent numerator denominator) leastExponent
    let (top, bottom) := scaled numerator denominator exponent
    let mantissa := nearest top bottom
    let (mantissa, exponent) :=
      if mantissa = Nat.pow 2 53 then (Nat.pow 2 52, exponent + 1) else (mantissa, exponent)
    if greatestExponent < exponent then infinite negative else finite negative mantissa exponent

/-- The number nearest to `digits` times a power of ten. -/
def ofDecimal (negative : Bool) (digits : Nat) (power : Int) : Binary64 :=
  let magnitude : Int := (toString digits).length + power
  if digits = 0 || magnitude < -400 then finite negative 0 leastExponent
  else if 400 < magnitude then infinite negative
  else if 0 ≤ power then ofFraction negative (digits * Nat.pow 10 power.toNat) 1
  else ofFraction negative digits (Nat.pow 10 (-power).toNat)

/-- Decimal digits and the power of ten of the last of them. -/
structure Digits where
  digits : Nat
  power : Int
  deriving Repr, DecidableEq, Inhabited

/-- Whether one fraction is at most another. -/
private def fractionLE (a b : Nat × Nat) : Bool := a.1 * b.2 ≤ b.1 * a.2

/-- A number times a power of a base as a fraction. -/
private def timesPower (value base : Nat) (power : Int) : Nat × Nat :=
  if 0 ≤ power then (value * Nat.pow base power.toNat, 1) else (value, Nat.pow base (-power).toNat)

/-- Whether a decimal is rounded to the finite number with the given mantissa
and exponent. -/
def roundsTo (mantissa : Nat) (exponent : Int) (decimal : Digits) : Bool :=
  let value := timesPower decimal.digits 10 decimal.power
  let atBoundary := mantissa = Nat.pow 2 52 && leastExponent < exponent
  let low := if atBoundary then timesPower (4 * mantissa - 1) 2 (exponent - 2)
    else timesPower (2 * mantissa - 1) 2 (exponent - 1)
  let high := timesPower (2 * mantissa + 1) 2 (exponent - 1)
  if mantissa % 2 = 0 then fractionLE low value && fractionLE value high
  else !fractionLE value low && !fractionLE high value

/-- How far a decimal is from a fraction, times both denominators. -/
private def distance (value : Nat × Nat) (decimal : Digits) : Nat :=
  let other := timesPower decimal.digits 10 decimal.power
  let a := value.1 * other.2
  let b := other.1 * value.2
  if a ≤ b then b - a else a - b

/-- The decimals next to a fraction whose last digit has a given power. -/
def neighbours (value : Nat × Nat) (power : Int) : Digits × Digits :=
  let below := if 0 ≤ power then value.1 / (value.2 * Nat.pow 10 power.toNat)
    else value.1 * Nat.pow 10 (-power).toNat / value.2
  (⟨below, power⟩, ⟨below + 1, power⟩)

/-- Of the decimals next to a number whose last digit has a given power, the
nearest one that is rounded to the number. -/
def hit? (mantissa : Nat) (exponent power : Int) : Option Digits :=
  let value := timesPower mantissa 2 exponent
  let (below, above) := neighbours value power
  match roundsTo mantissa exponent below, roundsTo mantissa exponent above with
  | true, true => some (if distance value below ≤ distance value above then below else above)
  | true, false => some below
  | false, true => some above
  | false, false => none

/-- The first hit with ever more digits. -/
def search (mantissa : Nat) (exponent : Int) : (fuel : Nat) → (power : Int) → Digits
  | 0, power => (neighbours (timesPower mantissa 2 exponent) power).1
  | fuel + 1, power =>
      match hit? mantissa exponent power with
      | some decimal => decimal
      | none => search mantissa exponent fuel (power - 1)

/-- The power of ten of the first digit of a positive fraction, or one more. -/
def leadingPower (value : Nat × Nat) : Int :=
  ((toString value.1).length : Int) - (toString value.2).length + 1

private def stripZeros : (fuel : Nat) → Digits → Digits
  | 0, decimal => decimal
  | fuel + 1, decimal =>
      if decimal.digits ≠ 0 && decimal.digits % 10 = 0 then
        stripZeros fuel ⟨decimal.digits / 10, decimal.power + 1⟩
      else decimal

/-- The fewest digits that are rounded to a positive number. -/
def shortest (mantissa : Nat) (exponent : Int) : Digits :=
  stripZeros 400 (search mantissa exponent 20 (leadingPower (timesPower mantissa 2 exponent)))

/-- Digits in positional notation. -/
def positional (decimal : Digits) : String :=
  let digits := (toString decimal.digits).toList
  if 0 ≤ decimal.power then String.ofList (digits ++ List.replicate decimal.power.toNat '0')
  else
    let places := (-decimal.power).toNat
    let padded := List.replicate (places + 1 - digits.length) '0' ++ digits
    String.ofList (padded.take (padded.length - places) ++ '.' ::
      padded.drop (padded.length - places))

/-- Digits with a power of ten, one digit in front of the point. -/
def scientific (decimal : Digits) : String :=
  let digits := (toString decimal.digits).toList
  let power : Int := decimal.power + digits.length - 1
  let mantissa := match digits with
    | [] => "0"
    | [digit] => String.singleton digit
    | digit :: rest => String.ofList (digit :: '.' :: rest)
  mantissa ++ "e" ++ (if power < 0 then "-" else "+") ++ Text.twoDigits power.natAbs

private def signed (negative : Bool) (text : String) : String :=
  if negative then "-" ++ text else text

/-- A number in positional notation. -/
def toPlain : Binary64 → String
  | finite negative mantissa exponent =>
      signed negative (if mantissa = 0 then "0" else positional (shortest mantissa exponent))
  | infinite negative => if negative then "-Inf" else "+Inf"
  | notANumber => "NaN"

/-- A number as it is shown: positional from one ten-thousandth up to, and not
with, one million. -/
def text : Binary64 → String
  | finite negative mantissa exponent =>
      if mantissa = 0 then signed negative "0"
      else
        let decimal := shortest mantissa exponent
        let power : Int := decimal.power + (toString decimal.digits).length - 1
        signed negative
          (if power < -4 || 6 ≤ power then scientific decimal else positional decimal)
  | infinite negative => if negative then "-Inf" else "+Inf"
  | notANumber => "NaN"

/-- Whether a number is zero. -/
def isZero : Binary64 → Bool
  | finite _ mantissa _ => mantissa = 0
  | _ => false

/-- The integer part of a number; none when it does not fit into 64 bits. -/
def truncated? : Binary64 → Option Int
  | finite negative mantissa exponent =>
      let (top, bottom) := timesPower mantissa 2 exponent
      let whole : Int := (top / bottom : Nat)
      let value := if negative then -whole else whole
      if -(Nat.pow 2 63 : Int) ≤ value && value < Nat.pow 2 63 then some value else none
  | _ => none

end Binary64

end DomainGen
