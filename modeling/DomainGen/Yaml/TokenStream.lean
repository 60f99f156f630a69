import DomainGen.Yaml.Token
import DomainGen.Yaml.Writer

/-!
# Cutting a YAML stream into tokens

The scanner keeps the indentation of the open block collections and, for each
open flow collection, the token that may turn out to be a key.  Only the colon
after a key shows that it was one, so tokens wait in a queue until that can no
longer happen; then they are delivered.

A stream with a fault yields the tokens that are delivered before the fault is
met, and the fault.
-/

namespace DomainGen.Yaml

/-- A token that may turn out to be a key. -/
structure KeyCandidate where
  possible : Bool := false
  /-- Whether the token can be nothing but a key. -/
  required : Bool := false
  /-- The number of the token in the stream. -/
  number : Nat := 0
  mark : Mark := {}
  deriving Repr, DecidableEq, Inhabited

/-- The state of the scanner. -/
structure Scanner where
  rest : List Char
  mark : Mark := {}
  /-- Line breaks since the last character that is no blank. -/
  newlines : Nat := 0
  flowLevel : Nat := 0
  indent : Int := -1
  indents : List Int := []
  keyAllowed : Bool := true
  /-- The candidate of each flow level, innermost first. -/
  keys : List KeyCandidate := [{}]
  /-- Tokens that are not delivered. -/
  queue : List Token := []
  delivered : Nat := 0
  started : Bool := false
  deriving Repr, Inhabited

/-- A scanning step. -/
abbrev Scan := StateT Scanner (Except Fault)

namespace Scan

private def isBlankChar (c : Char) : Bool := c == ' ' || c == '\t'

private def isWordChar (c : Char) : Bool :=
  c.isDigit || ('a' ≤ c && c ≤ 'z') || ('A' ≤ c && c ≤ 'Z') || c == '_' || c == '-'

private def blankOrEnd : Option Char → Bool
  | none => true
  | some c => isBlankChar c || isBreak c

private def breakOrEnd : Option Char → Bool
  | none => true
  | some c => isBreak c

/-- The character `offset` places ahead, if the stream goes that far. -/
def peek (offset : Nat := 0) : Scan (Option Char) := do return (← get).rest[offset]?

/-- Stop at the current place because of a problem. -/
def stop {α : Type} (context : Mark) (problem : String) : Scan α := do
  throw { problem, context, place := (← get).mark, lexical := true }

/-- Move over one character of a line. -/
def skip : Scan Unit := modify fun s =>
  match s.rest with
  | [] => s
  | c :: rest =>
      { s with
        rest
        mark := ⟨s.mark.index + 1, s.mark.line, s.mark.column + 1⟩
        newlines := if isBlankChar c then s.newlines else 0 }

/-- Move over several characters of a line. -/
def skipMany : Nat → Scan Unit
  | 0 => pure ()
  | count + 1 => do skip; skipMany count

/-- Move over a line break, and tell what it stands for in a scalar. -/
def readBreak : Scan (List Char) := do
  let s ← get
  let ended (rest : List Char) (width : Nat) : Scanner :=
    { s with rest, mark := ⟨s.mark.index + width, s.mark.line + 1, 0⟩, newlines := s.newlines + 1 }
  match s.rest with
  | '\r' :: '\n' :: rest => set (ended rest 2); return ['\n']
  | c :: rest =>
      if isBreak c then
        set (ended rest 1)
        return [if c.toNat == 0x2028 || c.toNat == 0x2029 then c else '\n']
      else return []
  | [] => return []

/-- Move over the characters of a line as long as they satisfy a condition. -/
def readWhile (accept : Char → Bool) : Scan (List Char) := do
  let taken := (← get).rest.takeWhile accept
  skipMany taken.length
  return taken

/-- Put a token into the queue, at a place in the stream or at the end. -/
def push (kind : TokenKind) (start finish : Mark) (number : Option Nat := none) : Scan Unit :=
  modify fun s =>
    let token : Token := ⟨kind, start, finish⟩
    match number with
    | none => { s with queue := s.queue ++ [token] }
    | some number => { s with queue := s.queue.insertIdx (number - s.delivered) token }

/-- Whether a candidate can still be a key: not on another line, and not too far
back. -/
def canBeKey (key : KeyCandidate) : Scan Bool := do
  let mark := (← get).mark
  if !key.possible then return false
  else if key.mark.line < mark.line || key.mark.index + 1024 < mark.index then
    if key.required then stop key.mark "could not find expected ':'" else return false
  else return true

/-- Give up the candidate of the current level. -/
def dropKey : Scan Unit := do
  match (← get).keys with
  | [] => pure ()
  | key :: rest =>
      if key.possible && key.required then stop key.mark "could not find expected ':'"
      modify fun s => { s with keys := { key with possible := false } :: rest }

/-- Note the coming token as a candidate, where a key can stand. -/
def noteKey : Scan Unit := do
  let s ← get
  if s.keyAllowed then
    let required := s.flowLevel == 0 && s.indent == (s.mark.column : Int)
    dropKey
    modify fun s =>
      { s with keys := ⟨true, required, s.delivered + s.queue.length, s.mark⟩ :: s.keys.tail }

/-- Open a block collection if the column lies further in. -/
def openBlock (column : Nat) (number : Option Nat) (kind : TokenKind) (mark : Mark) :
    Scan Unit := do
  let s ← get
  if s.flowLevel == 0 && s.indent < (column : Int) then
    set { s with indents := s.indent :: s.indents, indent := (column : Int) }
    push kind mark mark number

private def withBlocksClosed (column : Int) (mark : Mark) : List Int → Scanner → Scanner
  | [], s => s
  | outer :: rest, s =>
      if column < s.indent then
        withBlocksClosed column mark rest
          { s with queue := s.queue ++ [⟨.blockEnd, mark, mark⟩], indent := outer, indents := rest }
      else s

/-- Close the block collections that lie further in than the column. -/
def closeBlocks (column : Int) (mark : Mark) : Scan Unit := do
  let s ← get
  if s.flowLevel == 0 then set (withBlocksClosed column mark s.indents s)

/-- Move over the rest of a comment, and over comments on the lines after it. -/
def skipComments : Nat → Scan Unit
  | 0 => pure ()
  | fuel + 1 => do
      discard <| readWhile (!isBreak ·)
      let rest := (← get).rest
      let gap := rest.takeWhile fun c => isBlankChar c || isBreak c
      if gap.length < 512 && rest[gap.length]? == some '#' then
        skipGap gap.length
        skipComments fuel
where
  skipGap : Nat → Scan Unit
    | 0 => pure ()
    | count + 1 => do
        match (← get).rest with
        | '\r' :: '\n' :: _ => discard readBreak; skipGap (count - 1)
        | c :: _ => if isBreak c then discard readBreak else skip
                    skipGap count
        | [] => pure ()

/-- Move over a comment that follows a token on its line. -/
def skipLineComment : Scan Unit := do
  let s ← get
  if s.newlines == 0 then
    let blanks := s.rest.takeWhile isBlankChar
    if blanks.length < 512 && s.rest[blanks.length]? == some '#' then
      skipMany blanks.length
      discard <| readWhile (!isBreak ·)

/-- Move to the next token, over blanks, comments and line breaks. -/
def skipToToken : Nat → Scan Unit
  | 0 => pure ()
  | fuel + 1 => do
      if (← get).mark.column == 0 && (← peek).any (·.toNat == 0xFEFF) then skip
      let s ← get
      let tabs := decide (0 < s.flowLevel) || !s.keyAllowed
      discard <| readWhile fun c => c == ' ' || (tabs && c == '\t')
      if (← peek) == some '#' then skipComments (← get).rest.length
      if (← peek).any isBreak then
        discard readBreak
        if (← get).flowLevel == 0 then modify fun s => { s with keyAllowed := true }
        skipToToken fuel

/-- Whether a document mark of three equal characters stands here. -/
def atDocumentMark (c : Char) : Scan Bool := do
  let s ← get
  return s.mark.column == 0 && s.rest.take 3 == [c, c, c] && blankOrEnd s.rest[3]?

/-- Take a token that is a mark of so many characters. -/
def takeMark (kind : TokenKind) (width : Nat) : Scan Unit := do
  let start := (← get).mark
  skipMany width
  push kind start (← get).mark

/-- The end of the stream. -/
def takeStreamEnd : Scan Unit := do
  modify fun s =>
    if s.mark.column != 0 then { s with mark := ⟨s.mark.index, s.mark.line + 1, 0⟩ } else s
  closeBlocks (-1) (← get).mark
  dropKey
  modify fun s => { s with keyAllowed := false }
  let mark := (← get).mark
  push .streamEnd mark mark

/-- The start or end of a document. -/
def takeDocumentMark (kind : TokenKind) : Scan Unit := do
  closeBlocks (-1) (← get).mark
  dropKey
  modify fun s => { s with keyAllowed := false }
  takeMark kind 3

/-- A character of a tag. -/
def isTagChar (c : Char) : Bool :=
  isWordChar c || c ∈ [';', '/', '?', ':', '@', '&', '=', '+', '$', ',', '.', '!', '~', '*', '\'',
    '(', ')', '[', ']', '%']

private def hexValue? (c : Char) : Option Nat := (digitValue? c).filter (· < 16)

/-- The bytes that the escapes in a tag stand for, read as text. -/
def unescapeTag : List Char → List UInt8
  | '%' :: a :: b :: rest =>
      match hexValue? a, hexValue? b with
      | some high, some low => UInt8.ofNat (high * 16 + low) :: unescapeTag rest
      | _, _ => '%'.toUInt8 :: unescapeTag (a :: b :: rest)
  | c :: rest => (String.singleton c).toUTF8.toList ++ unescapeTag rest
  | [] => []

/-- The text of a tag after what has been read of it. -/
def readTagText (context : Mark) (head : List Char) : Scan String := do
  let text ← readWhile isTagChar
  if head.isEmpty && text.isEmpty then stop context "did not find expected tag URI"
  let whole := head.drop 1 ++ text
  if whole.contains '%' then
    match String.fromUTF8? ⟨(unescapeTag whole).toArray⟩ with
    | some text => return text
    | none => stop context "found an incorrect leading UTF-8 octet"
  else return String.ofList whole

/-- The handle of a tag: an exclamation mark and, if another one follows, the word
between them. -/
def readTagHandle : Scan (List Char) := do
  skip
  let word ← readWhile isWordChar
  if (← peek) == some '!' then
    skip
    return '!' :: word ++ ['!']
  else return '!' :: word

/-- A directive at the start of a document. -/
def takeDirective : Scan Unit := do
  closeBlocks (-1) (← get).mark
  dropKey
  modify fun s => { s with keyAllowed := false }
  let start := (← get).mark
  skip
  let name ← readWhile isWordChar
  if name.isEmpty then stop start "could not find expected directive name"
  if !blankOrEnd (← peek) then stop start "found unexpected non-alphabetical character"
  let kind ← match String.ofList name with
    | "YAML" => do
        discard <| readWhile isBlankChar
        let major ← readNumber start
        if (← peek) != some '.' then stop start "did not find expected digit or '.' character"
        skip
        let minor ← readNumber start
        pure (TokenKind.versionDirective major minor)
    | "TAG" => do
        discard <| readWhile isBlankChar
        if (← peek) != some '!' then stop start "did not find expected '!'"
        let handle ← readTagHandle
        if handle.length != 1 && handle.getLast? != some '!' then
          stop start "did not find expected '!'"
        if !(← peek).any isBlankChar then stop start "did not find expected whitespace"
        discard <| readWhile isBlankChar
        let text ← readTagText start []
        if !blankOrEnd (← peek) then stop start "did not find expected whitespace or line break"
        pure (TokenKind.tagDirective (String.ofList handle) text)
    | _ => stop start "found unknown directive name"
  let finish := (← get).mark
  discard <| readWhile isBlankChar
  if (← peek) == some '#' then discard <| readWhile (!isBreak ·)
  if !breakOrEnd (← peek) then stop start "did not find expected comment or line break"
  discard readBreak
  push kind start finish
where
  readNumber (start : Mark) : Scan Nat := do
    let digits ← readWhile Char.isDigit
    if 2 < digits.length then stop start "found extremely long version number"
    match natOfDigits? 10 digits with
    | none => stop start "did not find expected version number"
    | some value => return value

/-- The opening of a flow collection. -/
def openFlow (kind : TokenKind) : Scan Unit := do
  noteKey
  modify fun s => { s with keys := {} :: s.keys, flowLevel := s.flowLevel + 1, keyAllowed := true }
  takeMark kind 1

/-- The closing of a flow collection. -/
def closeFlow (kind : TokenKind) : Scan Unit := do
  dropKey
  modify fun s =>
    if s.flowLevel == 0 then { s with keyAllowed := false }
    else { s with keys := s.keys.tail, flowLevel := s.flowLevel - 1, keyAllowed := false }
  takeMark kind 1

/-- The comma of a flow collection. -/
def takeComma : Scan Unit := do
  dropKey
  modify fun s => { s with keyAllowed := true }
  takeMark .flowEntry 1

/-- The dash of a block sequence. -/
def takeDash : Scan Unit := do
  let s ← get
  if s.flowLevel == 0 then
    if !s.keyAllowed then
      stop s.mark "block sequence entries are not allowed in this context"
    openBlock s.mark.column none .blockSequenceStart s.mark
  dropKey
  modify fun s => { s with keyAllowed := true }
  takeMark .blockEntry 1

/-- The question mark of a key. -/
def takeKeyMark : Scan Unit := do
  let s ← get
  if s.flowLevel == 0 then
    if !s.keyAllowed then stop s.mark "mapping keys are not allowed in this context"
    openBlock s.mark.column none .blockMappingStart s.mark
  dropKey
  modify fun s => { s with keyAllowed := s.flowLevel == 0 }
  takeMark .key 1

/-- The colon of a value.  It shows that the candidate of its level is a key. -/
def takeColon : Scan Unit := do
  let s ← get
  let key := s.keys.head?.getD {}
  if ← canBeKey key then
    push .key key.mark key.mark (some key.number)
    openBlock key.mark.column (some key.number) .blockMappingStart key.mark
    modify fun s =>
      { s with keys := { key with possible := false } :: s.keys.tail, keyAllowed := false }
  else
    modify fun s => { s with keys := { key with possible := false } :: s.keys.tail }
    if s.flowLevel == 0 then
      if !s.keyAllowed then stop s.mark "mapping values are not allowed in this context"
      openBlock s.mark.column none .blockMappingStart s.mark
    modify fun s => { s with keyAllowed := s.flowLevel == 0 }
  takeMark .value 1

/-- An alias or an anchor. -/
def takeAnchor (kind : String → TokenKind) : Scan Unit := do
  noteKey
  modify fun s => { s with keyAllowed := false }
  let start := (← get).mark
  skip
  let name ← readWhile isWordChar
  let next ← peek
  if name.isEmpty || !(blankOrEnd next ||
      next.any (· ∈ ['?', ':', ',', ']', '\x7d', '%', '@', Char.ofNat 96])) then
    stop start "did not find expected alphabetic or numeric character"
  push (kind (String.ofList name)) start (← get).mark

/-- A tag. -/
def takeTag : Scan Unit := do
  noteKey
  modify fun s => { s with keyAllowed := false }
  let start := (← get).mark
  let (handle, suffix) ←
    if (← peek 1) == some '<' then do
      skipMany 2
      let text ← readTagText start []
      if (← peek) != some '>' then stop start "did not find the expected '>'"
      skip
      pure ("", text)
    else do
      let handle ← readTagHandle
      if 1 < handle.length && handle.getLast? == some '!' then
        pure (String.ofList handle, ← readTagText start [])
      else
        let text ← readTagText start handle
        pure (if text = "" then ("", "!") else ("!", text))
  if !blankOrEnd (← peek) then stop start "did not find expected whitespace or line break"
  push (.tag handle suffix) start (← get).mark

/-- Line breaks inside a block scalar, up to the next line with content.  An
indentation of zero is still to be found. -/
def blockBreaks (start : Mark) : Nat → (indent widest : Nat) → List Char →
    Scan (Nat × List Char)
  | 0, indent, _, breaks => return (indent, breaks)
  | fuel + 1, indent, widest, breaks => do
      let s ← get
      let room := if indent == 0 then s.rest.length else indent - s.mark.column
      let spaces := (s.rest.takeWhile (· == ' ')).length
      skipMany (min room spaces)
      let column := (← get).mark.column
      let widest := max widest column
      if (indent == 0 || column < indent) && (← peek) == some '\t' then
        stop start "found a tab character where an indentation space is expected"
      if (← peek).any isBreak then
        let more ← readBreak
        blockBreaks start fuel indent widest (breaks ++ more)
      else if indent == 0 then
        let outer := (s.indent + 1).toNat
        return (max (max widest outer) 1, breaks)
      else return (indent, breaks)

/-- The lines of a block scalar.  `leading` is the break that ended the line
before, `trailing` the breaks of empty lines after it. -/
def blockLines (start : Mark) (literal : Bool) (indent : Nat) :
    Nat → (text leading trailing : List Char) → (afterBlank : Bool) →
    Scan (List Char × List Char × List Char)
  | 0, text, leading, trailing, _ => return (text, leading, trailing)
  | fuel + 1, text, leading, trailing, afterBlank => do
      let s ← get
      if s.mark.column != indent || s.rest.isEmpty then return (text, leading, trailing)
      let blank := s.rest.head?.any isBlankChar
      let folds := !literal && !afterBlank && !blank && leading.head? == some '\n'
      let joint := if folds then (if trailing.isEmpty then [' '] else []) else leading
      let line ← readWhile (!isBreak ·)
      let leading ← readBreak
      let (_, trailingAfter) ← blockBreaks start (← get).rest.length.succ indent 0 []
      blockLines start literal indent fuel (text ++ joint ++ trailing ++ line) leading
        trailingAfter blank

/-- A literal or folded block scalar. -/
def takeBlockScalar (literal : Bool) : Scan Unit := do
  dropKey
  modify fun s => { s with keyAllowed := true }
  let start := (← get).mark
  skip
  let chompingOf (c : Option Char) : Option Int :=
    if c == some '+' then some 1 else if c == some '-' then some (-1) else none
  let readIncrement : Scan Nat := do
    match (← peek) with
    | some c =>
        if c.isDigit then
          if c == '0' then stop start "found an indentation indicator equal to 0"
          skip
          return c.toNat - 48
        else return 0
    | none => return 0
  let readChomping : Scan (Option Int) := do
    let chomping := chompingOf (← peek)
    if chomping.isSome then skip
    return chomping
  let first ← readChomping
  let increment ← readIncrement
  let chomping ← if first.isSome || increment == 0 then pure first else readChomping
  discard <| readWhile isBlankChar
  if (← peek) == some '#' then discard <| readWhile (!isBreak ·)
  if !breakOrEnd (← peek) then stop start "did not find expected comment or line break"
  discard readBreak
  let outer := (← get).indent
  let given := if increment == 0 then 0
    else if 0 ≤ outer then outer.toNat + increment else increment
  let (indent, trailing) ← blockBreaks start (← get).rest.length.succ given 0 []
  let (text, leading, trailing) ←
    blockLines start literal indent (← get).rest.length.succ [] [] trailing false
  let kept := match chomping with
    | some 1 => text ++ leading ++ trailing
    | some _ => text
    | none => text ++ leading
  push (.scalar (String.ofList kept) false) start (← get).mark

/-- The characters that simple escapes stand for. -/
def simpleEscape? (c : Char) : Option Char :=
  match c with
  | '0' => some (Char.ofNat 0)
  | 'a' => some (Char.ofNat 7)
  | 'b' => some (Char.ofNat 8)
  | 't' | '\t' => some '\t'
  | 'n' => some '\n'
  | 'v' => some (Char.ofNat 11)
  | 'f' => some (Char.ofNat 12)
  | 'r' => some '\r'
  | 'e' => some (Char.ofNat 27)
  | ' ' => some ' '
  | '"' => some '"'
  | '\'' => some '\''
  | '\\' => some '\\'
  | 'N' => some (Char.ofNat 0x85)
  | '_' => some (Char.ofNat 0xA0)
  | 'L' => some (Char.ofNat 0x2028)
  | 'P' => some (Char.ofNat 0x2029)
  | _ => none

private def escapeWidth (c : Char) : Nat :=
  if c == 'x' then 2 else if c == 'u' then 4 else if c == 'U' then 8 else 0

/-- An escape sequence of a double-quoted scalar. -/
def readEscape (start : Mark) : Scan (List Char) := do
  match (← peek 1) with
  | none => stop start "found unknown escape character"
  | some c =>
      match simpleEscape? c with
      | some value => skipMany 2; return [value]
      | none =>
          let width := escapeWidth c
          if width == 0 then stop start "found unknown escape character"
          skipMany 2
          let digits := (← get).rest.take width
          if digits.length < width || !digits.all (hexValue? · |>.isSome) then
            stop start "did not find expected hexdecimal number"
          let code := (natOfDigits? 16 digits).getD 0
          if (0xD800 ≤ code && code ≤ 0xDFFF) || 0x10FFFF < code then
            stop start "found invalid Unicode character escape code"
          skipMany width
          return [Char.ofNat code]

/-- The characters of a quoted scalar up to a blank, a break or the closing quote.
Tells whether an escaped line break ended them. -/
def quotedRun (start : Mark) (single : Bool) : Nat → List Char → Scan (List Char × Bool)
  | 0, text => return (text, false)
  | fuel + 1, text => do
      match (← get).rest with
      | [] => return (text, false)
      | c :: rest =>
          if isBlankChar c || isBreak c then return (text, false)
          else if single && c == '\'' then
            if rest.head? == some '\'' then
              skipMany 2
              quotedRun start single fuel (text ++ ['\''])
            else return (text, false)
          else if !single && c == '"' then return (text, false)
          else if !single && c == '\\' then
            if rest.head?.any isBreak then
              skip
              discard readBreak
              return (text, true)
            else
              let value ← readEscape start
              quotedRun start single fuel (text ++ value)
          else
            skip
            quotedRun start single fuel (text ++ [c])

/-- Blanks and line breaks inside a flow scalar: the blanks before the first
break, the first break, and the breaks after it.  `inside` tells whether a break
has been passed. -/
def foldedSpace (onTab : Scan Unit) :
    Nat → (inside : Bool) → (blanks leading trailing : List Char) →
    Scan (Bool × List Char × List Char × List Char)
  | 0, inside, blanks, leading, trailing => return (inside, blanks, leading, trailing)
  | fuel + 1, inside, blanks, leading, trailing => do
      match (← peek) with
      | none => return (inside, blanks, leading, trailing)
      | some c =>
          if isBlankChar c then
            if inside && c == '\t' then onTab
            skip
            let blanks := if inside then blanks else blanks ++ [c]
            foldedSpace onTab fuel inside blanks leading trailing
          else if isBreak c then
            let value ← readBreak
            if inside then foldedSpace onTab fuel true blanks leading (trailing ++ value)
            else foldedSpace onTab fuel true [] value trailing
          else return (inside, blanks, leading, trailing)

/-- What blanks and breaks between two runs of a flow scalar stand for: a single
break is a space, and further breaks stand for themselves. -/
def joint (inside : Bool) (blanks leading trailing : List Char) : List Char :=
  if !inside then blanks
  else if leading.head? == some '\n' then
    if trailing.isEmpty then [' '] else trailing
  else leading ++ trailing

/-- The content of a quoted scalar through its closing quote. -/
def quotedContent (start : Mark) (single : Bool) : Nat → List Char → Scan (List Char)
  | 0, text => return text
  | fuel + 1, text => do
      if (← atDocumentMark '-') || (← atDocumentMark '.') then
        stop start "found unexpected document indicator"
      if (← peek).isNone then stop start "found unexpected end of stream"
      let (text, escapedBreak) ← quotedRun start single (← get).rest.length.succ text
      if (← peek) == some (if single then '\'' else '"') then
        skip
        return text
      let (inside, blanks, leading, trailing) ←
        foldedSpace (pure ()) (← get).rest.length.succ escapedBreak [] [] []
      quotedContent start single fuel (text ++ joint inside blanks leading trailing)

/-- A quoted scalar. -/
def takeQuoted (single : Bool) : Scan Unit := do
  noteKey
  modify fun s => { s with keyAllowed := false }
  let start := (← get).mark
  skip
  let text ← quotedContent start single (← get).rest.length.succ []
  push (.scalar (String.ofList text) false) start (← get).mark

/-- How many characters a plain scalar goes on without a blank. -/
def plainRun (flow : Bool) : List Char → Nat
  | [] => 0
  | c :: rest =>
      if isBlankChar c || isBreak c then 0
      else if c == ':' && blankOrEnd rest.head? then 0
      else if flow && c ∈ [',', '?', '[', ']', '\x7b', '\x7d'] then 0
      else plainRun flow rest + 1

/-- The content of a plain scalar, the place where it ends, and whether a line
break follows.  `pending` stands for the blanks and breaks before the next
run. -/
def plainContent (start : Mark) (indent : Int) :
    Nat → (text pending : List Char) → (afterBreak : Bool) → (finish : Mark) →
    Scan (List Char × Mark × Bool)
  | 0, text, _, afterBreak, finish => return (text, finish, afterBreak)
  | fuel + 1, text, pending, afterBreak, finish => do
      if (← atDocumentMark '-') || (← atDocumentMark '.') || (← peek) == some '#' then
        return (text, finish, afterBreak)
      let s ← get
      let length := plainRun (decide (0 < s.flowLevel)) s.rest
      let run := s.rest.take length
      skipMany length
      let (text, afterBreak, finish) ←
        if length == 0 then pure (text, afterBreak, finish)
        else pure (text ++ pending ++ run, false, (← get).mark)
      let pending := if length == 0 then pending else []
      if !(← peek).any (fun c => isBlankChar c || isBreak c) then return (text, finish, afterBreak)
      let onTab : Scan Unit := do
        if ((← get).mark.column : Int) < indent then
          stop start "found a tab character that violates indentation"
      let (inside, blanks, leading, trailing) ←
        foldedSpace onTab (← get).rest.length.succ afterBreak [] [] []
      let s ← get
      if s.flowLevel == 0 && (s.mark.column : Int) < indent then return (text, finish, inside)
      plainContent start indent fuel text (pending ++ joint inside blanks leading trailing) inside
        finish

/-- A plain scalar. -/
def takePlain : Scan Unit := do
  noteKey
  modify fun s => { s with keyAllowed := false }
  let s ← get
  let (text, finish, afterBreak) ←
    plainContent s.mark (s.indent + 1) s.rest.length.succ [] [] false s.mark
  push (.scalar (String.ofList text) true) s.mark finish
  if afterBreak then modify fun s => { s with keyAllowed := true }

/-- Whether a plain scalar can start with a character, given the one after it. -/
def startsPlain (flow : Bool) (c : Char) (next : Option Char) : Bool :=
  let reserved := [',', '[', ']', '\x7b', '\x7d', '#', '&', '*', '!', '|', '>', '\'', '"', '%',
    '@', Char.ofNat 96]
  if c == '-' then !next.any isBlankChar
  else if c == '?' || c == ':' then !flow && !blankOrEnd next
  else !(isBlankChar c || isBreak c || c ∈ reserved)

/-- Take the token that starts with a character. -/
def takeFrom (c : Char) : Scan Unit := do
  let flow := decide (0 < (← get).flowLevel)
  let next ← peek 1
  match c with
  | '[' => openFlow .flowSequenceStart
  | '\x7b' => openFlow .flowMappingStart
  | ']' => closeFlow .flowSequenceEnd
  | '\x7d' => closeFlow .flowMappingEnd
  | ',' => takeComma
  | '*' => takeAnchor .reference
  | '&' => takeAnchor .anchor
  | '!' => takeTag
  | '\'' => takeQuoted true
  | '"' => takeQuoted false
  | c =>
      if c == '-' && blankOrEnd next then takeDash
      else if c == '?' && (flow || blankOrEnd next) then takeKeyMark
      else if c == ':' && (flow || blankOrEnd next) then takeColon
      else if c == '|' && !flow then takeBlockScalar true
      else if c == '>' && !flow then takeBlockScalar false
      else if startsPlain flow c next then takePlain
      else stop (← get).mark "found character that cannot start any token"

/-- Take the next token into the queue. -/
def takeToken : Scan Unit := do
  if !(← get).started then
    modify fun s => { s with started := true }
    let mark := (← get).mark
    push .streamStart mark mark
  else
    let before := (← get).mark
    skipToToken (← get).rest.length.succ
    closeBlocks ((← get).mark.column : Int) before
    match (← peek) with
    | none => takeStreamEnd
    | some c =>
        if (← get).mark.column == 0 && c == '%' then takeDirective
        else if ← atDocumentMark '-' then takeDocumentMark .documentStart
        else if ← atDocumentMark '.' then takeDocumentMark .documentEnd
        else
          takeFrom c
          if (← get).queue.getLast?.all (·.kind != .blockEntry) then skipLineComment

end Scan

/-- Whether the next token has to wait, because it may be a key or because too
few tokens follow it. -/
def Scan.mustWait : Scan Bool := do
  let s ← get
  if s.queue.length < 3 then return true
  match s.keys.find? fun key => key.possible && key.number == s.delivered with
  | none => return false
  | some key =>
      if ← Scan.canBeKey key then return true
      modify fun s =>
        { s with keys := s.keys.map fun other =>
            if other.possible && other.number == key.number then { other with possible := false }
            else other }
      return false

/-- The tokens of a stream that are delivered before a fault, and the fault. -/
structure TokenStream where
  tokens : List Token
  fault : Option Fault
  deriving Repr, Inhabited

private def deliverFrom : Nat → Scanner → List Token → TokenStream
  | 0, _, taken => ⟨taken.reverse, none⟩
  | fuel + 1, s, taken =>
      match Scan.mustWait.run s with
      | .error fault => ⟨taken.reverse, some fault⟩
      | .ok (true, s) =>
          match Scan.takeToken.run s with
          | .error fault => ⟨taken.reverse, some fault⟩
          | .ok (_, s) => deliverFrom fuel s taken
      | .ok (false, s) =>
          match s.queue with
          | [] => ⟨taken.reverse, none⟩
          | token :: queue =>
              if token.kind = .streamEnd then ⟨(token :: taken).reverse, none⟩
              else deliverFrom fuel { s with queue, delivered := s.delivered + 1 } (token :: taken)

/-- Cut a text into tokens.  Every token that is taken but the first uses up a
character, and there are at most four further tokens for each of them. -/
def TokenStream.ofChars (chars : List Char) : TokenStream :=
  deliverFrom (12 * (chars.length + 8)) { rest := chars } []

end DomainGen.Yaml
