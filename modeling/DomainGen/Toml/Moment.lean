import DomainGen.Text.Segments

/-!
# Dates and times

Calendar dates, times of day, both together, and both with the distance to
universal time.
-/

namespace DomainGen.Toml

/-- A day of the calendar. -/
structure Date where
  year : Nat
  month : Nat
  day : Nat
  deriving Repr, DecidableEq, Inhabited

/-- A time of day.  `precision` is the number of digits that the fraction of the
second was given with. -/
structure Time where
  hour : Nat
  minute : Nat
  second : Nat
  nanosecond : Nat := 0
  precision : Nat := 0
  deriving Repr, DecidableEq, Inhabited

/-- A date, a time, or both. -/
inductive Moment where
  | date (date : Date)
  | time (time : Time)
  | dateTime (date : Date) (time : Time)
  /-- With the minutes by which the clock is ahead of universal time. -/
  | instant (date : Date) (time : Time) (ahead : Int)
  deriving Repr, DecidableEq, Inhabited

private def padLeft (width : Nat) (value : Nat) : String :=
  let digits := (toString value).toList
  String.ofList (List.replicate (width - digits.length) '0' ++ digits)

/-- The days of a month. -/
def daysIn (year month : Nat) : Nat :=
  if month = 2 then
    if year % 4 = 0 && (year % 100 ≠ 0 || year % 400 = 0) then 29 else 28
  else if month ∈ [4, 6, 9, 11] then 30
  else 31

namespace Date

/-- Whether the calendar has the day. -/
def isPossible (date : Date) : Bool :=
  0 < date.month && date.month < 13 && 0 < date.day && date.day ≤ daysIn date.year date.month

/-- Year, month and day. -/
def text (date : Date) : String :=
  Text.join "-" [padLeft 4 date.year, padLeft 2 date.month, padLeft 2 date.day]

end Date

namespace Time

/-- Hour, minute and second. -/
def clock (time : Time) : String :=
  Text.join ":" [padLeft 2 time.hour, padLeft 2 time.minute, padLeft 2 time.second]

/-- The time, with the fraction of the second as it was given. -/
def text (time : Time) : String :=
  if time.precision = 0 then time.clock
  else time.clock ++ "." ++
    String.ofList ((padLeft 9 time.nanosecond).toList.take time.precision)

/-- The time, with the fraction of the second as far as it is not zero. -/
def brief (time : Time) : String :=
  let digits := ((padLeft 9 time.nanosecond).toList.reverse.dropWhile (· = '0')).reverse
  if digits.isEmpty then time.clock else time.clock ++ "." ++ String.ofList digits

end Time

/-- The distance to universal time as hours and minutes. -/
private def offsetText (separator : String) (ahead : Int) : String :=
  (if ahead < 0 then "-" else "+") ++ padLeft 2 (ahead.natAbs / 60) ++ separator ++
    padLeft 2 (ahead.natAbs % 60)

namespace Moment

/-- A moment as it is shown to a reader. -/
def shown : Moment → String
  | .date day => day.text
  | .time clock => clock.text
  | .dateTime day clock => day.text ++ "T" ++ clock.text
  | .instant day clock ahead =>
      day.text ++ " " ++ clock.brief ++ " " ++ offsetText "" ahead ++ " " ++
        (if ahead = 0 then "UTC" else offsetText "" ahead)

/-- A moment as it is written into data. -/
def text : Moment → String
  | .date day => day.text
  | .time clock => clock.text
  | .dateTime day clock => day.text ++ "T" ++ clock.text
  | .instant day clock ahead =>
      day.text ++ "T" ++ clock.brief ++ (if ahead = 0 then "Z" else offsetText ":" ahead)

end Moment

end DomainGen.Toml
