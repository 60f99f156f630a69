import DomainGen.Ddef.Fault
import DomainGen.Text.Blank

/-!
# Cutting a source text into tokens

A text is cut from the left into pieces: white space, comments, names (with or
without a caret) and symbols.  Each piece is the longest of its kind, except
that a block comment ends at the first closing mark.  The pieces other than
white space and comments are the tokens.
-/

namespace DomainGen

/-- The place after a character. -/
def Position.next (pos : Position) (c : Char) : Position :=
  if c = '\n' then ⟨pos.line + 1, 1⟩ else ⟨pos.line, pos.column + 1⟩

/-- The place after a stretch of text. -/
def Position.after (pos : Position) (text : List Char) : Position :=
  text.foldl Position.next pos

/-- Where a text starts. -/
def Position.start : Position := ⟨1, 1⟩

namespace Ddef

/-- A character that can start a name. -/
def isNameStart (c : Char) : Bool :=
  c == '_' || ('a' ≤ c && c ≤ 'z') || ('A' ≤ c && c ≤ 'Z')

/-- A character that can continue a name. -/
def isNamePart (c : Char) : Bool := isNameStart c || ('0' ≤ c && c ≤ '9')

/-- A stretch of source text. -/
inductive Piece where
  | trivia (text : List Char)
  | word (text : List Char)
  | escaped (text : List Char)
  | mark (symbol : Symbol)
  deriving Repr, DecidableEq, Inhabited

namespace Piece

/-- The characters a piece takes up. -/
def text : Piece → List Char
  | trivia text => text
  | word text => text
  | escaped text => '^' :: text
  | mark symbol => [symbol.char]

/-- The token a piece stands for, if it is not skipped. -/
def lexeme? : Piece → Option Lexeme
  | trivia _ => none
  | word text =>
      let word := String.ofList text
      some ((Keyword.ofText? word).elim (.name word) .keyword)
  | escaped text => some (.name (String.ofList text))
  | mark symbol => some (.symbol symbol)

end Piece

/-- The text of a block comment after its opening, through the first closing
mark. -/
def commentBody? : List Char → Option (List Char)
  | '*' :: '/' :: _ => some ['*', '/']
  | c :: rest => (commentBody? rest).map (c :: ·)
  | [] => none

/-- The piece that a text starts with. -/
def firstPiece (c : Char) (rest : List Char) : Except Fault Piece :=
  if Text.isBlank c then .ok (.trivia [c])
  else if c == '/' && rest.head? == some '/' then
    .ok (.trivia (c :: rest.takeWhile (· ≠ '\n')))
  else if c == '/' && rest.head? == some '*' then
    match commentBody? rest.tail with
    | some body => .ok (.trivia (c :: '*' :: body))
    | none => .error .unterminatedComment
  else if isNameStart c then
    .ok (.word (c :: rest.takeWhile isNamePart))
  else if c == '^' && rest.head?.any isNameStart then
    .ok (.escaped (rest.takeWhile isNamePart))
  else match Symbol.ofChar? c with
    | some symbol => .ok (.mark symbol)
    | none => .error (.strayCharacter c)

/-- Every piece takes up at least one character. -/
theorem firstPiece_length_pos {c : Char} {rest : List Char} {piece : Piece}
    (found : firstPiece c rest = .ok piece) : 0 < piece.text.length := by
  unfold firstPiece at found
  repeat' split at found
  all_goals first
    | (cases found; simp [Piece.text])
    | contradiction

/-- Cut a text that starts at `pos` into tokens. -/
def tokensFrom (pos : Position) : List Char → Except SyntaxError TokenList
  | [] => .ok ⟨[], pos⟩
  | c :: rest =>
      match _found : firstPiece c rest with
      | .error fault => .error ⟨fault, pos⟩
      | .ok piece =>
          match tokensFrom (pos.after piece.text) ((c :: rest).drop piece.text.length) with
          | .error error => .error error
          | .ok list =>
              match piece.lexeme? with
              | none => .ok list
              | some lexeme => .ok { list with tokens := ⟨lexeme, pos⟩ :: list.tokens }
  termination_by source => source.length
  decreasing_by
    have := firstPiece_length_pos _found
    simp only [List.length_drop, List.length_cons]
    omega

/-- The tokens of a source text. -/
def lex (source : List Char) : Except SyntaxError TokenList := tokensFrom .start source

end Ddef

end DomainGen
