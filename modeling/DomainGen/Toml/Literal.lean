import DomainGen.Number.Read
import DomainGen.Toml.Value

/-!
# Numbers and moments in TOML

What a bare word that starts like a number or a date stands for, and why it
stands for nothing.
-/

namespace DomainGen.Toml

private def isSign (c : Char) : Bool := c = '+' || c = '-'

private def digitsBetween : (before : Bool) → List Char → Except String (List Char)
  | _, [] => .ok []
  | before, c :: rest =>
      if c = '_' then
        if before then digitsBetween false rest
        else .error "number must have at least one digit between underscores"
      else do
        let cleaned ← digitsBetween true rest
        return c :: cleaned

/-- An integer without its underscores, each of which stands between digits. -/
def plainInteger (text : List Char) : Except String (List Char) := do
  let digits := match text with
    | c :: rest => if isSign c then rest else text
    | [] => []
  if digits.isEmpty then return text
  if digits.head? = some '_' then throw "number cannot start with underscore"
  if digits.getLast? = some '_' then throw "number cannot end with underscore"
  match text.span (· ≠ '_') with
  | (_, []) => return text
  | (start, _ :: rest) => return start ++ (← digitsBetween false rest)

/-- An integer in a base. -/
def integerIn (base : Nat) (name : String) (text : List Char) : Except String Int := do
  let cleaned := String.ofList (← plainInteger text)
  (Number.readInteger base cleaned).mapError fun fault =>
    "couldn't parse " ++ name ++ " number: " ++ fault.text "ParseInt" cleaned

/-- A decimal integer has no leading zero. -/
def decimalInteger (text : List Char) : Except String Int := do
  let cleaned ← plainInteger text
  let digits := match cleaned with
    | c :: rest => if isSign c then rest else cleaned
    | [] => []
  if 1 < digits.length && digits.head? = some '0' then
    throw "leading zero not allowed on decimal number"
  integerIn 10 "decimal" text

/-- The integer that a word stands for. -/
def integer (text : List Char) : Except String Int :=
  match text with
  | '0' :: 'x' :: c :: rest => integerIn 16 "hexadecimal" (c :: rest)
  | '0' :: 'b' :: c :: rest => integerIn 2 "binary" (c :: rest)
  | '0' :: 'o' :: c :: rest => integerIn 8 "octal" (c :: rest)
  | _ => decimalInteger text

private def floatDigits : (last : Option Char) → (before : Bool) → List Char →
    Except String (List Char)
  | _, _, [] => .ok []
  | last, before, c :: rest =>
      let next := rest.head?
      if c = '_' then
        if !before then .error "number must have at least one digit between underscores"
        else if next = some 'e' || next = some 'E' then
          .error "cannot have underscore before exponent"
        else floatDigits (some c) false rest
      else if isSign c then do
        let cleaned ← floatDigits (some c) false rest
        return c :: cleaned
      else if c = 'e' || c = 'E' then
        if next = some '_' then .error "cannot have underscore after exponent"
        else do
          let cleaned ← floatDigits (some c) before rest
          return c :: cleaned
      else if c = '.' then
        if next = some '_' then .error "cannot have underscore after decimal point"
        else if last = some '_' then .error "cannot have underscore before decimal point"
        else do
          let cleaned ← floatDigits (some c) before rest
          return c :: cleaned
      else do
        let cleaned ← floatDigits (some c) true rest
        return c :: cleaned

/-- A floating-point number without its underscores. -/
def plainFloat (text : List Char) : Except String (List Char) := do
  if text.head? = some '_' then throw "number cannot start with underscore"
  if text.getLast? = some '_' then throw "number cannot end with underscore"
  floatDigits none false text

private def checkPoints : (last : Option Char) → (seen : Bool) → List Char → Except String Unit
  | _, _, [] => .ok ()
  | last, seen, c :: rest =>
      if c = '.' then
        if seen then .error "float can have at most one decimal point"
        else if !last.any Char.isDigit then .error "float decimal point must be preceded by a digit"
        else if !rest.head?.any Char.isDigit then
          .error "float decimal point must be followed by a digit"
        else checkPoints (some c) true rest
      else checkPoints (some c) seen rest

/-- The floating-point number that a word stands for. -/
def float (text : List Char) : Except String Binary64 := do
  match text with
  | ['+', 'n', 'a', 'n'] | ['-', 'n', 'a', 'n'] => return .notANumber
  | _ =>
      let cleaned ← plainFloat text
      if cleaned.head? = some '.' then throw "float cannot start with a dot"
      if cleaned.getLast? = some '.' then throw "float cannot end with a dot"
      checkPoints none false cleaned
      let digits := match cleaned with
        | c :: rest => if isSign c then rest else cleaned
        | [] => []
      match digits with
      | '0' :: c :: _ =>
          if c.isDigit then throw "float integer part cannot have leading zeroes"
      | _ => pure ()
      let word := String.ofList cleaned
      (Number.readFloat word).mapError fun fault =>
        "unable to parse float: " ++ fault.text "ParseFloat" word

private def decimalDigits (text : List Char) : Except String Nat :=
  if text.all Char.isDigit then .ok (text.foldl (fun value c => value * 10 + (c.toNat - 48)) 0)
  else .error "expected digit (0-9)"

/-- The date that ten characters stand for. -/
def date (text : List Char) : Except String Date := do
  if text.length ≠ 10 || text[4]? ≠ some '-' || text[7]? ≠ some '-' then
    throw "dates are expected to have the format YYYY-MM-DD"
  let year ← decimalDigits (text.take 4)
  let month ← decimalDigits ((text.drop 5).take 2)
  let day ← decimalDigits ((text.drop 8).take 2)
  let found : Date := { year, month, day }
  if found.isPossible then return found else throw "impossible date"

private def fraction (time : Time) (text : List Char) : Except String (Time × List Char) := do
  let digits := text.takeWhile Char.isDigit
  if digits.isEmpty then
    throw (if text.isEmpty then "nanoseconds need at least one digit"
      else "need at least one digit after fraction point")
  let kept := digits.take 9
  let value ← decimalDigits kept
  let nanosecond := value * Nat.pow 10 (9 - kept.length)
  return ({ time with nanosecond, precision := kept.length }, text.drop digits.length)

/-- The time that starts a text, and the rest of the text. -/
def time (text : List Char) : Except String (Time × List Char) := do
  if text.length < 8 then throw "times are expected to have the format HH:MM:SS[.NNNNNN]"
  let hour ← decimalDigits (text.take 2)
  if 23 < hour then throw "hour cannot be greater 23"
  if text[2]? ≠ some ':' then throw "expecting colon between hours and minutes"
  let minute ← decimalDigits ((text.drop 3).take 2)
  if 59 < minute then throw "minutes cannot be greater 59"
  if text[5]? ≠ some ':' then throw "expecting colon between minutes and seconds"
  let second ← decimalDigits ((text.drop 6).take 2)
  if 59 < second then throw "seconds cannot be greater than 59"
  let found : Time := { hour, minute, second }
  match text.drop 8 with
  | '.' :: rest => fraction found rest
  | rest => return (found, rest)

/-- The date and time that start a text, and the rest of the text. -/
def dateTime (text : List Char) : Except String (Date × Time × List Char) := do
  if text.length < 11 then
    throw "local datetimes are expected to have the format YYYY-MM-DDTHH:MM:SS[.NNNNNNNNN]"
  let day ← date (text.take 10)
  match text.drop 10 with
  | separator :: rest =>
      if separator ∉ ['T', 't', ' '] then
        throw "datetime separator is expected to be T or a space"
      let (clock, rest) ← time rest
      return (day, clock, rest)
  | [] => throw "datetime separator is expected to be T or a space"

/-- The distance to universal time that ends a text. -/
def offset (text : List Char) : Except String Int := do
  match text with
  | ['Z'] | ['z'] => return 0
  | 'Z' :: _ | 'z' :: _ => throw "extra bytes at the end of the timezone"
  | sign :: rest =>
      if text.length ≠ 6 then throw "invalid date-time timezone"
      if !isSign sign then throw "invalid timezone offset character"
      if rest[2]? ≠ some ':' then throw "expected a : separator"
      let hours ← decimalDigits (rest.take 2)
      if 23 < hours then throw "invalid timezone offset hours"
      let minutes ← decimalDigits (rest.drop 3)
      if 59 < minutes then throw "invalid timezone offset minutes"
      let ahead : Int := (hours * 60 + minutes : Nat)
      return if sign = '-' then -ahead else ahead
  | [] => throw "invalid date-time timezone"

/-- The shapes of a moment, as far as its characters tell. -/
inductive MomentShape where
  | date | time | dateTime | instant
  deriving Repr, DecidableEq, Inhabited

/-- The moment that a word stands for. -/
def moment (shape : MomentShape) (text : List Char) : Except String Moment := do
  match shape with
  | .date => return .date (← date text)
  | .time =>
      let (clock, rest) ← time text
      if rest.isEmpty then return .time clock
      throw "extra characters at the end of a local time"
  | .dateTime =>
      let (day, clock, rest) ← dateTime text
      if rest.isEmpty then return .dateTime day clock
      throw "extra characters at the end of a local date time"
  | .instant =>
      let (day, clock, rest) ← dateTime text
      return .instant day clock (← offset rest)

end DomainGen.Toml
