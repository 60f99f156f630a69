import DomainGen.Number.Read
import DomainGen.Toml.Inventory.Cursor
import DomainGen.Toml.Moment

/-!
# Bare words of an inventory

Numbers and moments, as far as they show a shape, and what may be wrong with
them.
-/

namespace DomainGen.Toml

/-- A bare word of a known shape that is still to be checked. -/
structure BareWord where
  shape : Shape
  word : List Char
  deriving Repr, Inhabited

namespace Cursor

/-- Read on while a test holds, as part of a word. -/
private def finish (shape : Shape) (start : List Char) (test : Char → Bool) (cursor : Cursor) :
    Except Complaint (BareWord × Cursor) := do
  let (more, after) ← cursor.span test
  return ({ shape, word := start ++ more }, after)

private def float (start : List Char) (cursor : Cursor) : Except Complaint (BareWord × Cursor) :=
  cursor.finish .float start fun c => c.isDigit || c ∈ ['_', '.', '-', '+', 'e', 'E']

/-- The rest of a number that may have underscores. -/
private def decimal (start : List Char) (cursor : Cursor) :
    Except Complaint (BareWord × Cursor) := do
  let (more, after) ← cursor.span fun c => c.isDigit || c = '_'
  let word := start ++ more
  match after.rest with
  | c :: _ =>
      if c ∈ ['.', 'e', 'E'] then float (word ++ [c]) (after.skip 1)
      else return ({ shape := .integer, word }, after)
  | [] => return ({ shape := .integer, word }, after)

/-- The rest of a number or a moment. -/
private def numberOrMoment (start : List Char) (cursor : Cursor) :
    Except Complaint (BareWord × Cursor) := do
  let (more, after) ← cursor.span Char.isDigit
  let word := start ++ more
  match after.rest with
  | c :: _ =>
      let following := after.skip 1
      if c = '-' || c = ':' then
        let (found, after) ← following.finish .moment (word ++ [c]) fun c =>
          c.isDigit || c ∈ ['-', ':', 'T', 't', ' ', '.', 'Z', 'z', '+']
        let trimmed := (found.word.reverse.dropWhile (· = ' ')).reverse
        return ({ found with word := trimmed }, after)
      else if c = '_' then decimal (word ++ [c]) following
      else if c ∈ ['.', 'e', 'E'] then float (word ++ [c]) following
      else return ({ shape := .integer, word }, after)
  | [] => return ({ shape := .integer, word }, after)

/-- A number in a base that its prefix names. -/
private def based (name : String) (valid : Char → Bool) (letter : Char) (cursor : Cursor) :
    Except Complaint (BareWord × Cursor) := do
  let following ← cursor.peek
  if following.any valid then
    cursor.finish .integer ['0', letter] fun c => valid c || c = '_'
  else
    throw (cursor.complaint ("not a " ++ name ++ " number: '0" ++ String.singleton letter ++
      String.singleton (following.getD (Char.ofNat 0)) ++ "'"))

/-- What starts with a digit. -/
def unsignedWord (cursor : Cursor) : Except Complaint (BareWord × Cursor) := do
  let (first, after) ← cursor.next
  if first ≠ some '0' then numberOrMoment first.toList after
  else
    let (second, later) ← after.next
    match second with
    | some '_' => decimal ['0', '_'] later
    | some 'b' => based "binary" (fun c => c = '0' || c = '1') 'b' later
    | some 'o' => based "octal" (fun c => '0' ≤ c && c ≤ '7') 'o' later
    | some 'x' => based "hexadecimal" isHex 'x' later
    | some c =>
        if c ∈ ['.', 'e', 'E'] then float ['0', c] later
        else if c.isDigit then numberOrMoment ['0', c] later
        else return ({ shape := .integer, word := ['0'] }, after)
    | none => return ({ shape := .integer, word := ['0'] }, after)

/-- The characters of a word that a text starts with, as far as it does. -/
private def shared : List Char → List Char → List Char
  | c :: rest, d :: other => if c = d then c :: shared rest other else []
  | _, _ => []

/-- What follows a sign. -/
def signedWord (sign : Char) (cursor : Cursor) : Except Complaint (BareWord × Cursor) := do
  let (found, after) ← cursor.next
  let special := fun (first : Char) (rest : List Char) => do
    let read := shared rest after.rest
    let _ ← (after.skip read.length).peek
    if read = rest then
      return ({ shape := .float, word := sign :: first :: rest }, after.skip read.length)
    else
      throw ((after.skip read.length).complaint
        ("invalid float: '" ++ String.ofList (sign :: first :: read) ++ "'"))
  match found with
  | some 'i' => special 'i' ['n', 'f']
  | some 'n' => special 'n' ['a', 'n']
  | some '.' => throw (after.complaint "floats must start with a digit, not '.'")
  | some c =>
      if c = '0' && after.rest.head?.any (· ∈ ['b', 'o', 'x']) then
        throw (after.complaint ("cannot use sign with non-decimal numbers: '" ++
          String.ofList (sign :: c :: after.rest.take 1) ++ "'"))
      else if c.isDigit then decimal [sign, c] after
      else throw (after.complaint ("expected a digit but got " ++ Text.quotedChar c))
  | none =>
      throw (complaintAbout none after ("expected a digit but got " ++ shown none))

end Cursor

private def underscoresStand : (accept : Bool) → List Char → Bool
  | accept, [] => accept
  | accept, c :: rest => (c ≠ '_' || accept) && underscoresStand (Cursor.isHex c) rest

private def specialWords : List String := ["nan", "+nan", "-nan", "inf", "-inf", "+inf"]

private def underscoresFine (word : List Char) : Bool :=
  String.ofList word ∈ specialWords || underscoresStand false word

private def hasLeadingZero (word : List Char) : Bool :=
  match word with
  | '0' :: c :: _ => c ∉ ['b', 'o', 'x']
  | sign :: '0' :: _ :: _ => sign = '-' || sign = '+'
  | _ => false

private def pointsFine : (point : Bool) → List Char → Bool
  | point, [] => !point
  | point, c :: rest => (!point || c.isDigit) && pointsFine (c = '.') rest

private def checkInteger (word : List Char) : Except String Unit := do
  let text := String.ofList word
  if !underscoresFine word then
    throw ("Invalid integer " ++ Text.quoted text ++ ": underscores must be surrounded by digits")
  if hasLeadingZero word then
    throw ("Invalid integer " ++ Text.quoted text ++ ": cannot have leading zeroes")
  match Number.readInteger 0 text with
  | .error .outOfRange => throw (text ++ " is out of range for int64")
  | _ => return ()

/-- The parts of a word between marks, without empty ones. -/
private def fieldsBetween (isMark : Char → Bool) : List Char → List (List Char)
  | [] => []
  | c :: rest =>
      match isMark c, fieldsBetween isMark rest with
      | true, fields => [] :: fields
      | false, [] => [[c]]
      | false, field :: fields => (c :: field) :: fields

private def checkFloat (word : List Char) : Except String Unit := do
  let text := String.ofList word
  let parts := (fieldsBetween (· ∈ ['.', 'e', 'E']) word).filter (!·.isEmpty)
  if !parts.all underscoresFine then
    throw ("Invalid float " ++ Text.quoted text ++ ": underscores must be surrounded by digits")
  if parts.head?.any hasLeadingZero then
    throw ("Invalid float " ++ Text.quoted text ++ ": cannot have leading zeroes")
  if !pointsFine false word then
    throw ("Invalid float " ++ Text.quoted text ++
      ": '.' must be followed by one or more digits")
  let plain := String.ofList (word.filter (· ≠ '_'))
  if plain = "+nan" || plain = "-nan" then return ()
  match Number.readFloat plain with
  | .error .outOfRange => throw (text ++ " is out of range for float64")
  | .error .malformed => throw ("Invalid float value: " ++ Text.quoted text)
  | .ok _ => return ()

private def figures? (text : List Char) : Option Nat :=
  if !text.isEmpty && text.all Char.isDigit then
    some (text.foldl (fun value c => value * 10 + (c.toNat - 48)) 0)
  else none

private def isDate (text : List Char) : Bool :=
  match text with
  | [y1, y2, y3, y4, '-', m1, m2, '-', d1, d2] =>
      match figures? [y1, y2, y3, y4], figures? [m1, m2], figures? [d1, d2] with
      | some year, some month, some day => ({ year, month, day } : Date).isPossible
      | _, _, _ => false
  | _ => false

private def isZone (text : List Char) : Bool :=
  match text with
  | ['Z'] => true
  | [sign, h1, h2, ':', m1, m2] =>
      (sign = '+' || sign = '-') && (figures? [h1, h2]).any (· ≤ 24) &&
        (figures? [m1, m2]).any (· ≤ 60)
  | _ => false

private def isFractionThen (finish : List Char → Bool) (text : List Char) : Bool :=
  match text with
  | '.' :: rest => rest.head?.any Char.isDigit && finish (rest.dropWhile Char.isDigit)
  | _ => finish text

/-- A time of day, and what has to follow it; the seconds may be missing. -/
private def isTimeThen (finish : List Char → Bool) (text : List Char) : Bool :=
  match text with
  | h1 :: h2 :: ':' :: m1 :: m2 :: rest =>
      (figures? [h1, h2]).any (· < 24) && (figures? [m1, m2]).any (· < 60) &&
        match rest with
        | ':' :: s1 :: s2 :: rest => (figures? [s1, s2]).any (· < 60) && isFractionThen finish rest
        | _ => finish rest
  | _ => false

/-- A word with the letters of a moment in upper case, and the letter `T` for a
blank. -/
private def momentLetters (word : List Char) : List Char :=
  word.map fun c => if c = 't' || c = ' ' then 'T' else if c = 'z' then 'Z' else c

private def checkMoment (word : List Char) : Except String Unit :=
  let text := momentLetters word
  let fine := isDate text || isTimeThen (·.isEmpty) text ||
    (isDate (text.take 10) && match text.drop 10 with
      | 'T' :: rest => isTimeThen (fun rest => rest.isEmpty || isZone rest) rest
      | _ => false)
  if fine then .ok ()
  else .error ("invalid datetime: " ++ Text.quoted (String.ofList text))

/-- Check that a bare word stands for something. -/
def BareWord.check (found : BareWord) : Except String Unit :=
  match found.shape with
  | .integer => checkInteger found.word
  | .float => checkFloat found.word
  | .moment => checkMoment found.word
  | _ => .ok ()

end DomainGen.Toml
