import DomainGen.Toml.Inventory.Basic

/-!
# A place in a text, by line

What can be read at a place without knowing the keys before it.  A complaint
names the line that reading had reached.
-/

namespace DomainGen.Toml

/-- A place in a text. -/
structure Cursor where
  rest : List Char
  line : Nat := 1
  /-- The character before. -/
  before : Option Char := none
  deriving Repr, Inhabited

namespace Cursor

/-- Whether a character may not stand in a document. -/
def isControl (c : Char) : Bool :=
  (c.toNat < 32 && c ≠ '\t' && c ≠ '\n' && c ≠ '\r') || c.toNat = 127

/-- A complaint about the line of a place. -/
def complaint (cursor : Cursor) (message : String) : Complaint :=
  { line := cursor.line, message }

/-- A complaint about the line before that of a place. -/
def complaintBefore (cursor : Cursor) (message : String) : Complaint :=
  { line := cursor.line - 1, message }

/-- A complaint about a character that was read, or about the end of the text.  An
end that stands on an empty line counts for the line before. -/
def complaintAbout (read : Option Char) (cursor : Cursor) (message : String) : Complaint :=
  if read.isNone && cursor.before = some '\n' then cursor.complaintBefore message
  else cursor.complaint message

/-- The next character, or nothing at the end of the text. -/
def next (cursor : Cursor) : Except Complaint (Option Char × Cursor) :=
  match cursor.rest with
  | [] => .ok (none, cursor)
  | c :: rest =>
      if isControl c || (c = '\r' && rest.head? ≠ some '\n') then
        .error (cursor.complaint ("TOML files cannot contain control characters: '0x" ++
          String.ofList (Text.hexDigits 2 c.toNat) ++ "'"))
      else .ok (some c,
        { rest, line := if c = '\n' then cursor.line + 1 else cursor.line, before := some c })

/-- The next character, which stays. -/
def peek (cursor : Cursor) : Except Complaint (Option Char) := cursor.next.map (·.1)

/-- Move past characters on one line. -/
def skip (count : Nat) (cursor : Cursor) : Cursor :=
  { cursor with
    rest := cursor.rest.drop count
    before := if count = 0 then cursor.before else cursor.rest[count - 1]? }

/-- Move past blanks. -/
def skipBlanks (cursor : Cursor) : Cursor :=
  cursor.skip (cursor.rest.takeWhile fun c => c = ' ' || c = '\t').length

/-- A character in messages; the end of the text is the character zero. -/
def shown (read : Option Char) : String := Text.quotedChar (read.getD (Char.ofNat 0))

/-- The characters that satisfy a test, on one line. -/
def span (test : Char → Bool) (cursor : Cursor) : Except Complaint (List Char × Cursor) := do
  let word := cursor.rest.takeWhile test
  let after := cursor.skip word.length
  let _ ← after.peek
  return (word, after)

private def toLineEnd : (fuel : Nat) → Cursor → Except Complaint Cursor
  | 0, cursor => .ok cursor
  | fuel + 1, cursor => do
      match ← cursor.next with
      | (none, _) | (some '\n', _) | (some '\r', _) => return cursor
      | (_, after) => toLineEnd fuel after

/-- Move past a comment whose mark was read. -/
def skipComment (cursor : Cursor) : Except Complaint Cursor :=
  toLineEnd (cursor.rest.length + 1) cursor

/-- Whether a character is a hexadecimal digit. -/
def isHex (c : Char) : Bool :=
  ('0' ≤ c && c ≤ '9') || ('a' ≤ c && c ≤ 'f') || ('A' ≤ c && c ≤ 'F')

private def hexEscape (word letter : String) (read : List Char) : (count : Nat) → Cursor →
    Except Complaint (List Char × Cursor)
  | 0, cursor => .ok (read, cursor)
  | count + 1, cursor => do
      let (found, after) ← cursor.next
      let read := found.toList ++ read
      if found.any isHex then hexEscape word letter read count after
      else throw (complaintAbout found after ("expected " ++ word ++
        " hexadecimal digits after '\\" ++ letter ++ "', but got " ++
        Text.quoted (String.ofList read.reverse) ++ " instead"))

/-- An escape after its backslash.  `read` are the characters of the string so
far, the last one first. -/
def escape (read : List Char) (cursor : Cursor) : Except Complaint (List Char × Cursor) := do
  let (found, after) ← cursor.next
  let read := found.toList ++ read
  match found with
  | some 'x' => hexEscape "two" "x" read 2 after
  | some 'u' => hexEscape "four" "u" read 4 after
  | some 'U' => hexEscape "eight" "U" read 8 after
  | _ =>
      if found.any (· ∈ ['e', 'b', 't', 'n', 'f', 'r', '"', ' ', '\t', '\\']) then
        return (read, after)
      else
        let message := "invalid escape in string '\\" ++
          String.singleton (found.getD (Char.ofNat 0)) ++ "'"
        throw (if found.isNone then after.complaintBefore message else after.complaint message)

/-- The characters of a string on one line, after its first quote. -/
def shortString (quote : Char) : (fuel : Nat) → (read : List Char) → Cursor →
    Except Complaint (List Char × Cursor)
  | 0, read, cursor => .ok (read.reverse, cursor)
  | fuel + 1, read, cursor => do
      let (found, after) ← cursor.next
      match found with
      | none =>
          throw (complaintAbout found after ("unexpected EOF; expected " ++
            (if quote = '"' then "'\"'" else "\"'\"")))
      | some '\n' | some '\r' =>
          throw (after.complaintBefore "strings cannot contain newlines")
      | some c =>
          if c = quote then return (read.reverse, after)
          else if c = '\\' && quote = '"' then
            let (read, after) ← escape (c :: read) after
            shortString quote fuel read after
          else shortString quote fuel (c :: read) after

/-- The characters of a string of several lines, after its first three quotes.
Up to two quotes may stand before the closing three. -/
def longString (quote : Char) : (fuel : Nat) → (read : List Char) → Cursor →
    Except Complaint (List Char × Cursor)
  | 0, read, cursor => .ok (read.reverse, cursor)
  | fuel + 1, read, cursor => do
      let mark := String.ofList [quote, quote, quote]
      let outer := if quote = '"' then "'" else "\""
      let (found, after) ← cursor.next
      match found with
      | none =>
          throw (complaintAbout found after
            ("unexpected EOF; expected " ++ outer ++ mark ++ outer))
      | some c =>
          if c = quote then
            match after.rest with
            | second :: third :: rest =>
                if second = quote && third = quote then
                  if rest.head? = some quote then
                    match read with
                    | a :: b :: more =>
                        if a = quote && b = quote && more.head? ≠ some '\\' then
                          throw (after.complaint
                            ("unexpected " ++ outer ++ mark ++ mark ++ outer))
                        else longString quote fuel (c :: read) after
                    | _ => longString quote fuel (c :: read) after
                  else
                    let after := after.skip 2
                    let _ ← after.peek
                    return (read.reverse, after)
                else longString quote fuel (c :: read) after
            | _ => longString quote fuel (c :: read) after
          else if c = '\\' && quote = '"' then
            let (following, later) ← after.next
            if following = some '\n' || following = some '\r' then
              longString quote fuel (following.toList ++ c :: read) later
            else
              let (read, after) ← escape (c :: read) after
              longString quote fuel read after
          else longString quote fuel (c :: read) after

end Cursor

/-- Take away a line end at the start. -/
def dropLeadingBreak : List Char → List Char
  | '\n' :: rest => rest
  | '\r' :: '\n' :: rest => rest
  | text => text

private def isGap (c : Char) : Bool := c = ' ' || c = '\t' || c = '\r' || c = '\n'

/-- Join the lines that end in a backslash. -/
def joinLines : (fuel : Nat) → List Char → List Char
  | 0, text => text
  | _, [] => []
  | fuel + 1, '\\' :: '\\' :: rest => '\\' :: '\\' :: joinLines fuel rest
  | fuel + 1, '\\' :: rest =>
      if (rest.takeWhile isGap).contains '\n' then joinLines fuel (rest.dropWhile isGap)
      else '\\' :: joinLines fuel rest
  | fuel + 1, c :: rest => c :: joinLines fuel rest

private def hexValue (digits : List Char) : Nat :=
  digits.foldl (fun value c =>
    value * 16 + (if c.toNat < 58 then c.toNat - 48 else (c.toNat % 32) + 9)) 0

/-- The text that escapes stand for. -/
def replaceEscapes : (fuel : Nat) → List Char → Except String (List Char)
  | 0, text => .ok text
  | _, [] => .ok []
  | fuel + 1, '\\' :: c :: rest =>
      let simple := fun (code : Nat) => do
        let more ← replaceEscapes fuel rest
        return Char.ofNat code :: more
      let numbered := fun (width : Nat) => do
        let digits := rest.take width
        let code := hexValue digits
        if 0x10FFFF < code || (0xD800 ≤ code && code < 0xE000) then
          throw ("Escaped character '\\u" ++ String.ofList digits ++ "' is not valid UTF-8.")
        let more ← replaceEscapes fuel (rest.drop width)
        return Char.ofNat code :: more
      match c with
      | 'b' => simple 8
      | 't' => simple 9
      | 'n' => simple 10
      | 'f' => simple 12
      | 'r' => simple 13
      | 'e' => simple 27
      | 'x' => numbered 2
      | 'u' => numbered 4
      | 'U' => numbered 8
      | '"' => simple 34
      | '\\' => simple 92
      | _ => .error ("invalid escape: '\\" ++ String.singleton c ++ "'")
  | fuel + 1, c :: rest => do
      let more ← replaceEscapes fuel rest
      return c :: more

end DomainGen.Toml
