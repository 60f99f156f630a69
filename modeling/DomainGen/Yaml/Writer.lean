import DomainGen.Data.Basic
import DomainGen.Text.Quoted
import DomainGen.Yaml.Scalar

/-!
# Writing YAML

Data trees in block style.  The lists and records inside a record are indented
by a chosen step, and a list item's content starts right after its dash.

A text is written plain where that reads back as the same text, as a literal
block when it has several lines, and otherwise between quotes: single quotes
suffice unless a character has to be escaped.
-/

namespace DomainGen.Yaml

/-- A character that ends a line. -/
def isBreak (c : Char) : Bool :=
  let code := c.toNat
  code == 10 || code == 13 || code == 0x85 || code == 0x2028 || code == 0x2029

/-- A character that can be written as itself. -/
def isWritable (c : Char) : Bool :=
  let code := c.toNat
  code == 10 || (0x20 ≤ code && code ≤ 0x7E) || (0xA0 ≤ code && code ≤ 0xD7FF) ||
    (0xE000 ≤ code && code ≤ 0xFFFD && code != 0xFEFF)

/-- How a text can be written. -/
inductive ScalarStyle where
  | plain | singleQuoted | doubleQuoted | literal
  deriving Repr, DecidableEq, Inhabited

/-- What a text holds that restricts how it can be written. -/
structure Traits where
  /-- Something that would be taken for punctuation. -/
  indicator : Bool
  /-- A line break. -/
  lineBreak : Bool
  /-- A space or line break at either end. -/
  looseEnd : Bool
  /-- A space at the end. -/
  trailingSpace : Bool
  /-- A space after a line break. -/
  breakSpace : Bool
  /-- A space before a line break. -/
  spaceBreak : Bool
  /-- A tab. -/
  tab : Bool
  /-- Another character that cannot be written as itself. -/
  special : Bool
  deriving Repr, DecidableEq, Inhabited

private def isBlankOrEnd : List Char → Bool
  | [] => true
  | c :: _ => c == ' ' || c == '\t'

/-- Whether a text starts with something that is taken for punctuation. -/
def startsWithIndicator (text : List Char) : Bool :=
  match text with
  | '-' :: '-' :: '-' :: _ => true
  | '.' :: '.' :: '.' :: _ => true
  | c :: rest =>
      if c ∈ ['#', ',', '[', ']', '\x7b', '\x7d', '&', '*', '!', '|', '>', '\'', '"', '%', '@',
          Char.ofNat 96] then true
      else if c == '?' || c == ':' || c == '-' then isBlankOrEnd rest
      else false
  | [] => false

/-- Whether a text holds, after its first character, something that is taken for
punctuation: a colon before a space, or a hash after one. -/
def holdsIndicator : List Char → Bool
  | before :: c :: rest =>
      (c == ':' && isBlankOrEnd rest) ||
        (c == '#' && (before == ' ' || before == '\t' || isBreak before || before.toNat == 0)) ||
        holdsIndicator (c :: rest)
  | _ => false

private def adjacent (first second : Char → Bool) : List Char → Bool
  | a :: b :: rest => (first a && second b) || adjacent first second (b :: rest)
  | _ => false

/-- What a text holds that restricts how it can be written. -/
def traits (text : List Char) : Traits where
  indicator := startsWithIndicator text || holdsIndicator text
  lineBreak := text.any isBreak
  looseEnd := text.head?.any (fun c => c == ' ' || isBreak c) ||
    text.getLast?.any (fun c => c == ' ' || isBreak c)
  trailingSpace := text.getLast? == some ' '
  breakSpace := adjacent isBreak (· == ' ') text
  spaceBreak := adjacent (· == ' ') isBreak text
  tab := text.contains '\t'
  special := text.any fun c => c != '\t' && !isWritable c

/-- How a text is written as a value in block style. -/
def scalarStyle (text : String) : ScalarStyle :=
  let traits := traits text.toList
  let quotes := if traits.breakSpace || traits.spaceBreak || traits.tab || traits.special then
      ScalarStyle.doubleQuoted
    else .singleQuoted
  if text.toList.contains '\n' then
    if traits.trailingSpace || traits.spaceBreak || traits.special then .doubleQuoted
    else .literal
  else if !readsAsText text then .doubleQuoted
  else if traits.indicator || traits.lineBreak || traits.looseEnd ||
      quotes == .doubleQuoted then quotes
  else .plain

private def upperHex (width value : Nat) : List Char :=
  (Text.hexDigits width value).map Char.toUpper

/-- One character between double quotes. -/
def escapeDouble (c : Char) : List Char :=
  let code := c.toNat
  if isWritable c && !isBreak c && c != '"' && c != '\\' then [c]
  else match code with
    | 0 => ['\\', '0']
    | 7 => ['\\', 'a']
    | 8 => ['\\', 'b']
    | 9 => ['\\', 't']
    | 10 => ['\\', 'n']
    | 11 => ['\\', 'v']
    | 12 => ['\\', 'f']
    | 13 => ['\\', 'r']
    | 27 => ['\\', 'e']
    | 34 => ['\\', '"']
    | 92 => ['\\', '\\']
    | 0x85 => ['\\', 'N']
    | 0xA0 => ['\\', '_']
    | 0x2028 => ['\\', 'L']
    | 0x2029 => ['\\', 'P']
    | code =>
        if code ≤ 0xFF then '\\' :: 'x' :: upperHex 2 code
        else if code ≤ 0xFFFF then '\\' :: 'u' :: upperHex 4 code
        else '\\' :: 'U' :: upperHex 8 code

/-- The inside of single quotes: quotes are doubled, and a line after a break is
indented. -/
def singleQuotedBody (margin : List Char) : (afterBreak : Bool) → List Char → List Char
  | _, [] => []
  | afterBreak, c :: rest =>
      if isBreak c then c :: singleQuotedBody margin true rest
      else if c == ' ' then c :: singleQuotedBody margin afterBreak rest
      else
        (if afterBreak then margin else []) ++ (if c == '\'' then ['\'', '\''] else [c]) ++
          singleQuotedBody margin false rest

/-- The lines of a literal block.  A break at the very start ends the header
line. -/
def literalBody (margin : List Char) : (afterBreak lineStart : Bool) → List Char → List Char
  | _, lineStart, [] => if lineStart then [] else ['\n']
  | afterBreak, lineStart, c :: rest =>
      if isBreak c then c :: literalBody margin true true rest
      else if afterBreak then
        (if lineStart then margin else '\n' :: margin) ++ c :: literalBody margin false false rest
      else c :: literalBody margin false false rest

/-- The marks after the bar of a literal block: the indentation when the first
line starts with a space or is empty, and what becomes of the last breaks. -/
def literalHints (step : Nat) (text : List Char) : String :=
  let indentation := if text.head?.any (fun c => c == ' ' || isBreak c) then toString step else ""
  let chomping := match text.reverse with
    | [] => "-"
    | [last] => if isBreak last then "+" else "-"
    | last :: before :: _ =>
        if !isBreak last then "-" else if isBreak before then "+" else ""
  indentation ++ chomping

/-- A text as a value, through the end of its last line.  `margin` is the
indentation of further lines. -/
def renderText (step margin : Nat) (text : String) : String :=
  let blanks := List.replicate margin ' '
  match scalarStyle text with
  | .plain => text ++ "\n"
  | .singleQuoted =>
      String.ofList ('\'' :: singleQuotedBody blanks false text.toList ++ ['\'', '\n'])
  | .doubleQuoted =>
      String.ofList ('"' :: text.toList.flatMap escapeDouble ++ ['"', '\n'])
  | .literal =>
      "|" ++ literalHints step text.toList ++
        String.ofList (literalBody blanks true false text.toList)

/-- The indentation of what is nested in a record indented by `margin`. -/
def nestedMargin (step margin : Nat) : Nat := step * ((margin + step) / step)

mutual

/-- A tree after a dash or a key, through the end of its last line.  `inner` is
the indentation of nested lines; `inItem` tells whether the tree follows a
dash. -/
def renderValue (step : Nat) (inItem : Bool) (inner : Nat) : Data → String
  | .text value => " " ++ renderText step inner value
  | .bool value => (if value then " true" else " false") ++ "\n"
  | .int value => " " ++ toString value ++ "\n"
  | .list [] => " []\n"
  | .list (item :: rest) => "\n" ++ renderList step inner (item :: rest)
  | .record [] => " \x7b\x7d\n"
  | .record (field :: rest) =>
      if inItem then " " ++ renderRecord step inner true (field :: rest)
      else "\n" ++ renderRecord step inner false (field :: rest)

/-- The items of a list, each on lines of its own. -/
def renderList (step margin : Nat) : List Data → String
  | [] => ""
  | item :: rest =>
      Text.repeated margin " " ++ "-" ++ renderValue step true (margin + 2) item ++
        renderList step margin rest

/-- The fields of a record.  The first line is already indented when the record
follows a dash. -/
def renderRecord (step margin : Nat) (indented : Bool) : List (String × Data) → String
  | [] => ""
  | (name, value) :: rest =>
      (if indented then "" else Text.repeated margin " ") ++ name ++ ":" ++
        renderValue step false (nestedMargin step margin) value ++
        renderRecord step margin false rest

end

end DomainGen.Yaml

namespace DomainGen

/-- A record as a YAML document with a chosen step of indentation. -/
def Data.toYaml (step : Nat) : Data → String
  | .record (field :: rest) => Yaml.renderRecord step 0 false (field :: rest)
  | .record [] => "\x7b\x7d\n"
  | .list (item :: rest) => Yaml.renderList step 0 (item :: rest)
  | .list [] => "[]\n"
  | .text value => Yaml.renderText step step value
  | .bool value => (if value then "true" else "false") ++ "\n"
  | .int value => toString value ++ "\n"

end DomainGen
