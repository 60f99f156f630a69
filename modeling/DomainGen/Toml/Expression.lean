import DomainGen.Text.Case
import DomainGen.Text.Utf8
import DomainGen.Toml.Literal

/-!
# TOML expressions

A TOML text is a sequence of expressions: table headers and key-value pairs,
each on a line of its own.  Reading an expression finds out what it is made of;
what its bare words stand for is left open.
-/

namespace DomainGen.Toml

/-- A value whose bare words are as written. -/
inductive Term where
  | text (value : String)
  | boolean (value : Bool)
  | integer (word : List Char)
  | float (word : List Char)
  | moment (shape : MomentShape) (word : List Char)
  | array (items : List Term)
  | table (entries : List (List String × Term))
  deriving Repr, Inhabited

/-- A key-value pair or a table header, by keys of several parts. -/
inductive Expression where
  | entry (key : List String) (term : Term)
  | table (key : List String)
  | arrayTable (key : List String)
  deriving Repr, Inhabited

/-- The first byte of a character by number, and as a character where it can be
shown. -/
def byteName (c : Char) : String :=
  let lead := Text.leadByte c
  let name := "U+" ++ Text.upperCase (String.ofList (Text.hexDigits 4 lead.toNat))
  if Text.isPrintable lead then name ++ " '" ++ String.singleton lead ++ "'" else name

/-- A character that may not stand in a text. -/
def isForbidden (c : Char) : Bool :=
  let code := c.toNat
  code < 9 || code = 11 || code = 12 || (14 ≤ code && code < 32) || code = 127

private def isBlank (c : Char) : Bool := c = ' ' || c = '\t'

private def isKeyChar (c : Char) : Bool :=
  ('A' ≤ c && c ≤ 'Z') || ('a' ≤ c && c ≤ 'z') || c.isDigit || c = '-' || c = '_'

private def skipBlanks (text : List Char) : List Char := text.dropWhile isBlank

/-- One expected character. -/
def expect (wanted : Char) (text : List Char) : Except String (List Char) :=
  match text with
  | [] =>
      .error ("expected character " ++ String.singleton wanted ++ " but the document ended here")
  | c :: rest =>
      if c = wanted then .ok rest else .error ("expected character " ++ String.singleton wanted)

/-- The end of a line. -/
def endOfLine (text : List Char) : Except String (List Char) :=
  match text with
  | '\n' :: rest => .ok rest
  | '\r' :: '\n' :: rest => .ok rest
  | ['\r'] => .error "windows new line expected"
  | '\r' :: _ => .error "windows new line should be \\r\\n"
  | c :: _ => .error ("expected newline but got " ++ byteName c)
  | [] => .ok []

/-- What follows a comment whose mark was read: the end of the line. -/
def skipComment : List Char → Except String (List Char)
  | [] => .ok []
  | '\n' :: rest => .ok ('\n' :: rest)
  | '\r' :: '\n' :: rest => .ok ('\n' :: rest)
  | c :: rest =>
      if c = '\r' || isForbidden c then .error "invalid character in comment" else skipComment rest

/-- A string between apostrophes, after the first. -/
def literalString : List Char → Except String (List Char × List Char)
  | [] => .error "unterminated literal string"
  | c :: rest =>
      if c = '\'' then .ok ([], rest)
      else if c = '\n' || c = '\r' then .error "literal strings cannot have new lines"
      else if isForbidden c then .error "invalid character"
      else do
        let (value, rest) ← literalString rest
        return (c :: value, rest)

/-- What follows three quotes that may close a string of several lines: up to
two more belong to the string. -/
def closingQuotes (quote : Char) (fault : String) (text : List Char) :
    Except String (List Char × List Char) :=
  match text with
  | a :: b :: c :: rest =>
      if a = quote && b = quote && c = quote then .error fault
      else if a = quote && b = quote then .ok ([a, b], c :: rest)
      else if a = quote then .ok ([a], b :: c :: rest)
      else .ok ([], text)
  | [a, b] =>
      if a = quote && b = quote then .ok ([a, b], [])
      else if a = quote then .ok ([a], [b])
      else .ok ([], text)
  | [a] => if a = quote then .ok ([a], []) else .ok ([], text)
  | [] => .ok ([], [])

/-- A string between triple apostrophes, after the first three. -/
def longLiteralString : List Char → Except String (List Char × List Char)
  | [] => .error "multiline literal string not terminated by '''"
  | '\'' :: '\'' :: '\'' :: rest =>
      closingQuotes '\'' "''' not allowed in multiline literal string" rest
  | '\r' :: '\n' :: rest => do
      let (value, rest) ← longLiteralString rest
      return ('\r' :: '\n' :: value, rest)
  | c :: rest =>
      if c = '\r' then .error "need a \\n after \\r"
      else if isForbidden c then .error "invalid character"
      else do
        let (value, rest) ← longLiteralString rest
        return (c :: value, rest)

/-- The characters of a string between quotes, escapes and all, after the first
quote. -/
def basicBody : List Char → Except String (List Char × List Char)
  | [] => .error "basic string not terminated by \""
  | '\\' :: [] => .error "need a character after \\"
  | '\\' :: c :: rest => do
      let (body, rest) ← basicBody rest
      return ('\\' :: c :: body, rest)
  | c :: rest =>
      if c = '"' then .ok ([], rest)
      else if c = '\n' || c = '\r' then .error "basic strings cannot have new lines"
      else do
        let (body, rest) ← basicBody rest
        return (c :: body, rest)

/-- The characters of a string between triple quotes, after the first three. -/
def longBasicBody : List Char → Except String (List Char × List Char)
  | [] => .error "multiline basic string not terminated by \"\"\""
  | '"' :: '"' :: '"' :: rest =>
      closingQuotes '"' "\"\"\" not allowed in multiline basic string" rest
  | '\\' :: [] => .error "need a character after \\"
  | '\\' :: c :: rest => do
      let (body, rest) ← longBasicBody rest
      return ('\\' :: c :: body, rest)
  | '\r' :: '\n' :: rest => do
      let (body, rest) ← longBasicBody rest
      return ('\r' :: '\n' :: body, rest)
  | c :: rest =>
      if c = '\r' then .error "need a \\n after \\r"
      else do
        let (body, rest) ← longBasicBody rest
        return (c :: body, rest)

/-- The character with a number written in hexadecimal digits. -/
def codePoint (width : Nat) (text : List Char) : Except String Char := do
  let available := (String.ofList text).utf8ByteSize
  if available < width then
    throw ("unicode point needs " ++ toString width ++ " character, not " ++ toString available)
  let digits := text.take width
  match digits.mapM fun c => (Number.digit? c).filter (· < 16) with
  | none => throw "non-hex character"
  | some values =>
      let code := values.foldl (fun code digit => code * 16 + digit) 0
      if 0x10FFFF < code || (0xD800 ≤ code && code < 0xE000) then
        throw "escape sequence is invalid Unicode code point"
      return Char.ofNat code

/-- The character that a letter after a backslash stands for. -/
def simpleEscape? (c : Char) : Option Char :=
  match c with
  | '"' => some '"'
  | '\\' => some '\\'
  | 'b' => some (Char.ofNat 8)
  | 't' => some '\t'
  | 'n' => some '\n'
  | 'f' => some (Char.ofNat 12)
  | 'r' => some '\r'
  | 'e' => some (Char.ofNat 27)
  | _ => none

/-- Whether only blanks stand between a backslash and the end of its line. -/
def endsLine : List Char → Bool
  | '\n' :: _ => true
  | '\r' :: '\n' :: _ => true
  | c :: rest => isBlank c && endsLine rest
  | [] => false

private def isSpace (c : Char) : Bool := isBlank c || c = '\n' || c = '\r'

/-- The string that a body with escapes stands for.  In a string of several
lines, `long`, a backslash takes away the end of its line and the space that
follows.  `closing` is what follows the body. -/
def unescape (long : Bool) (closing : List Char) : (fuel : Nat) → List Char →
    Except String (List Char)
  | 0, _ => .ok []
  | _, [] => .ok []
  | fuel + 1, '\\' :: rest =>
      if long && endsLine rest then unescape long closing fuel (rest.dropWhile isSpace)
      else match rest with
        | [] => .ok []
        | c :: rest =>
            match simpleEscape? c with
            | some value => do
                let more ← unescape long closing fuel rest
                return value :: more
            | none =>
                if c = 'u' || c = 'U' then do
                  let width := if c = 'u' then 4 else 8
                  let value ← codePoint width
                    (if long then (rest ++ closing).take width else rest)
                  let more ← unescape long closing fuel (rest.drop width)
                  return value :: more
                else .error ("invalid escaped character " ++ byteName c)
  | fuel + 1, c :: rest =>
      if isForbidden c then .error ("invalid character " ++ byteName c)
      else do
        let more ← unescape long closing fuel rest
        return c :: more

/-- The string that a body stands for. -/
def bodyValue (long : Bool) (closing body : List Char) : Except String (List Char) :=
  if body.contains '\\' then unescape long closing (body.length + 1) body
  else if body.any isForbidden then .error "invalid UTF-8"
  else .ok body

/-- A string between quotes, after the first. -/
def basicString (text : List Char) : Except String (List Char × List Char) := do
  let (body, rest) ← basicBody text
  return (← bodyValue false [] body, rest)

private def dropFirstBreak : List Char → List Char
  | '\n' :: rest => rest
  | '\r' :: '\n' :: rest => rest
  | text => text

/-- One part of a key. -/
def keyPart (text : List Char) : Except String (String × List Char) :=
  match text with
  | [] => .error "expected key but found none"
  | '\'' :: rest => do
      let (value, rest) ← literalString rest
      return (String.ofList value, rest)
  | '"' :: rest => do
      let (value, rest) ← basicString rest
      return (String.ofList value, rest)
  | c :: _ =>
      if isKeyChar c then
        .ok (String.ofList (text.takeWhile isKeyChar), text.dropWhile isKeyChar)
      else .error ("invalid character at start of key: " ++ String.singleton (Text.leadByte c))

/-- The parts of a key after the first. -/
def moreKeyParts : (fuel : Nat) → List Char → Except String (List String × List Char)
  | 0, text => .ok ([], text)
  | fuel + 1, text =>
      match skipBlanks text with
      | '.' :: rest => do
          let (part, rest) ← keyPart (skipBlanks rest)
          let (more, rest) ← moreKeyParts fuel rest
          return (part :: more, rest)
      | rest => .ok ([], rest)

/-- A key: parts between dots. -/
def key (text : List Char) : Except String (List String × List Char) := do
  let (first, rest) ← keyPart text
  let (more, rest) ← moreKeyParts text.length rest
  return (first :: more, rest)

/-- Blanks, comments and line ends. -/
def skipLines : (fuel : Nat) → List Char → Except String (List Char)
  | 0, text => .ok text
  | fuel + 1, text => do
      let rest ← match skipBlanks text with
        | '#' :: rest => skipComment rest
        | rest => pure rest
      match rest with
      | '\n' :: _ | '\r' :: _ =>
          let rest ← endOfLine rest
          skipLines fuel rest
      | _ => return rest

/-- The shape that the characters of a moment tell, and the moment's end.
`index` counts the characters so far. -/
def scanMoment : (index : Nat) → (hasDate hasTime hasZone space : Bool) → List Char →
    List Char × List Char × MomentShape
  | index, hasDate, hasTime, hasZone, space, text =>
      let stop := ([], text,
        if hasTime then
          if hasDate then if hasZone then MomentShape.instant else .dateTime else .time
        else .date)
      match text with
      | [] => stop
      | c :: rest =>
          let go := fun (hasDate hasTime hasZone : Bool) =>
            let (word, rest, shape) := scanMoment (index + 1) hasDate hasTime hasZone space rest
            (c :: word, rest, shape)
          if c.isDigit then go hasDate hasTime hasZone
          else if c = '-' then go true hasTime (hasZone || 8 ≤ index)
          else if c ∈ ['T', 't', ':', '.'] then go hasDate true hasZone
          else if c ∈ ['+', 'Z', 'z'] then go hasDate hasTime true
          else if c = ' ' && !space then
            match rest with
            | d :: rest =>
                if d.isDigit then
                  match rest with
                  | [] =>
                      let shape :=
                        if hasDate then if hasZone then .instant else .dateTime else .time
                      ([c, d], [], shape)
                  | e :: rest =>
                      let (word, rest, shape) :=
                        scanMoment (index + 3) hasDate true hasZone true rest
                      (c :: d :: e :: word, rest, shape)
                else stop
            | [] => stop
          else stop

/-- A word that starts with a base prefix, or with a zero that no other digit may
follow. -/
def prefixedWord? (text : List Char) : Option (List Char × List Char) :=
  match text with
  | '0' :: c :: d :: rest =>
      let digits := fun (valid : Char → Bool) =>
        some ('0' :: c :: (d :: rest).takeWhile valid, (d :: rest).dropWhile valid)
      if c = '.' || c = 'e' || c = 'E' then none
      else if c = 'x' then digits fun c => c = '_' || (Number.digit? c).any (· < 16)
      else if c = 'o' then digits fun c => c = '_' || (Number.digit? c).any (· < 8)
      else if c = 'b' then digits fun c => c = '_' || c = '0' || c = '1'
      else some (['0'], c :: d :: rest)
  | _ => none

/-- The rest of a decimal number, and whether it is a floating-point one. -/
def scanNumber : (isFloat : Bool) → List Char → Except String (List Char × List Char × Bool)
  | isFloat, [] => .ok ([], [], isFloat)
  | isFloat, c :: rest =>
      if c.isDigit || c = '+' || c = '-' || c = '_' then do
        let (word, rest, isFloat) ← scanNumber isFloat rest
        return (c :: word, rest, isFloat)
      else if c = '.' || c = 'e' || c = 'E' then do
        let (word, rest, isFloat) ← scanNumber true rest
        return (c :: word, rest, isFloat)
      else if c = 'i' then
        match rest with
        | 'n' :: 'f' :: rest => .ok (['i', 'n', 'f'], rest, true)
        | _ => .error "unexpected character 'i' while scanning for a number"
      else if c = 'n' then
        match rest with
        | 'a' :: 'n' :: rest => .ok (['n', 'a', 'n'], rest, true)
        | _ => .error "unexpected character 'n' while scanning for a number"
      else .ok ([], c :: rest, isFloat)

/-- A number. -/
def number (text : List Char) : Except String (Term × List Char) :=
  match prefixedWord? text with
  | some (word, rest) => .ok (.integer word, rest)
  | none => do
      let (word, rest, isFloat) ← scanNumber false text
      if word.isEmpty then throw "incomplete number"
      return (if isFloat then .float word else .integer word, rest)

/-- Whether a text starts like a moment: two digits and a colon, or four digits
and a dash. -/
def startsMoment (text : List Char) : Bool :=
  let digits := (text.takeWhile Char.isDigit).length
  3 ≤ text.length && ((digits = 2 && text[2]? = some ':') || (digits = 4 && text[4]? = some '-'))

/-- A bare word. -/
def bareWord (text : List Char) : Except String (Term × List Char) :=
  match text with
  | 'i' :: rest =>
      match rest with
      | 'n' :: 'f' :: rest => .ok (.float ['i', 'n', 'f'], rest)
      | _ => .error "expected 'inf'"
  | 'n' :: rest =>
      match rest with
      | 'a' :: 'n' :: rest => .ok (.float ['n', 'a', 'n'], rest)
      | _ => .error "expected 'nan'"
  | _ =>
      if startsMoment text then
        let (word, rest, shape) := scanMoment 0 false false false false text
        .ok (.moment shape word, rest)
      else number text

mutual

/-- A value. -/
def term : (fuel : Nat) → List Char → Except String (Term × List Char)
  | 0, _ => .error "expected value, not eof"
  | fuel + 1, text =>
      match text with
      | [] => .error "expected value, not eof"
      | '"' :: '"' :: '"' :: rest => do
          let (body, rest) ← longBasicBody rest
          let value ← bodyValue true ['"', '"', '"'] (dropFirstBreak body)
          return (.text (String.ofList value), rest)
      | '"' :: rest => do
          let (value, rest) ← basicString rest
          return (.text (String.ofList value), rest)
      | '\'' :: '\'' :: '\'' :: rest => do
          let (value, rest) ← longLiteralString rest
          return (.text (String.ofList (dropFirstBreak value)), rest)
      | '\'' :: rest => do
          let (value, rest) ← literalString rest
          return (.text (String.ofList value), rest)
      | 't' :: rest =>
          match rest with
          | 'r' :: 'u' :: 'e' :: rest => .ok (.boolean true, rest)
          | _ => .error "expected 'true'"
      | 'f' :: rest =>
          match rest with
          | 'a' :: 'l' :: 's' :: 'e' :: rest => .ok (.boolean false, rest)
          | _ => .error "expected 'false'"
      | '[' :: rest => do
          let (items, rest) ← arrayItems fuel true rest
          return (.array items, rest)
      | '\x7b' :: rest => do
          let (entries, rest) ← tableEntries fuel true rest
          return (.table entries, rest)
      | _ => bareWord text

/-- The items of an array up to its end.  `first` tells that there was none so
far. -/
def arrayItems : (fuel : Nat) → (first : Bool) → List Char → Except String (List Term × List Char)
  | 0, _, _ => .error "expected character ] but the document ended here"
  | fuel + 1, first, text => do
      if text.isEmpty then throw "expected character ] but the document ended here"
      match ← skipLines (text.length + 1) text with
      | [] => throw "array is incomplete"
      | ']' :: rest => return ([], rest)
      | ',' :: rest =>
          if first then throw "array cannot start with comma"
          match ← skipLines (rest.length + 1) rest with
          | ']' :: rest => return ([], rest)
          | rest => arrayItem fuel rest
      | rest =>
          if first then arrayItem fuel rest
          else throw "array elements must be separated by commas"

/-- An item of an array and those after it. -/
def arrayItem : (fuel : Nat) → List Char → Except String (List Term × List Char)
  | 0, _ => .error "expected value, not eof"
  | fuel + 1, text => do
      let (item, rest) ← term fuel text
      let rest ← skipLines (rest.length + 1) rest
      let (items, rest) ← arrayItems fuel false rest
      return (item :: items, rest)

/-- The pairs of an inline table up to its end. -/
def tableEntries : (fuel : Nat) → (first : Bool) → List Char →
    Except String (List (List String × Term) × List Char)
  | 0, _, _ => .error "expected character \x7d but the document ended here"
  | fuel + 1, first, text => do
      if text.isEmpty then throw "expected character \x7d but the document ended here"
      match skipBlanks text with
      | [] => throw "inline table is incomplete"
      | '\x7d' :: rest => return ([], rest)
      | rest =>
          let rest ← if first then pure rest else expect ',' rest
          let (entry, rest) ← pair fuel (if first then rest else skipBlanks rest)
          let (entries, rest) ← tableEntries fuel false rest
          return (entry :: entries, rest)

/-- A key and its value. -/
def pair : (fuel : Nat) → List Char → Except String ((List String × Term) × List Char)
  | 0, _ => .error "expected key but found none"
  | fuel + 1, text => do
      let (name, rest) ← key text
      let rest := skipBlanks rest
      if rest.isEmpty then throw "expected = after a key, but the document ends there"
      let rest ← expect '=' rest
      let (value, rest) ← term fuel (skipBlanks rest)
      return ((name, value), rest)

end

/-- A table header, after its first bracket. -/
def header (text : List Char) : Except String (Expression × List Char) :=
  match text with
  | '[' :: rest => do
      let (name, rest) ← key (skipBlanks rest)
      let rest ← expect ']' (skipBlanks rest)
      let rest ← expect ']' rest
      return (.arrayTable name, rest)
  | _ => do
      let (name, rest) ← key (skipBlanks text)
      let rest ← expect ']' (skipBlanks rest)
      return (.table name, rest)

/-- A bound for the levels of nesting in a text. -/
def nestingBound (text : List Char) : Nat := 4 * text.length + 8

/-- What stands on a line: an expression, or nothing.  A comment may follow. -/
def expression (text : List Char) : Except String (Option Expression × List Char) := do
  match skipBlanks text with
  | [] => return (none, [])
  | '#' :: rest => return (none, ← skipComment rest)
  | '\n' :: rest => return (none, '\n' :: rest)
  | '\r' :: rest => return (none, '\r' :: rest)
  | start =>
      let (found, rest) ← match start with
        | '[' :: rest => header rest
        | _ => do
            let ((name, value), rest) ← pair (nestingBound start) start
            pure (Expression.entry name value, rest)
      match skipBlanks rest with
      | '#' :: rest => return (some found, ← skipComment rest)
      | rest => return (some found, rest)

end DomainGen.Toml
