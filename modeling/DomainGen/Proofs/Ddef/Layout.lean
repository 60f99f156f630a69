import DomainGen.Proofs.Ddef.Agreement
import DomainGen.Proofs.Ddef.Cutting

/-!
# Layout

White space and comments stand between tokens and mean nothing.  They can be put in front
of any token and behind it: the text splits into the same pieces as before and into further
ones that are skipped.  And what is read from a text depends on its tokens only, not on
where they are (`layout_keeps_meaning`).

A piece that was followed by the token is now followed by layout.  Layout ends a name, as
the token did.  It would not end a comment that goes to the end of its line, but no such
comment is directly in front of a token.
-/

namespace DomainGen.Ddef

/-- White space, a block comment or a comment with the end of its line. -/
inductive IsLayout : List Char → Prop
  | blanks {text : List Char} (blank : ∀ c ∈ text, Text.isBlank c) : IsLayout text
  | blockComment {body : List Char} (unclosed : ¬ ['*', '/'] <:+: body) :
      IsLayout ('/' :: '*' :: (body ++ ['*', '/']))
  | lineComment {body : List Char} (within : '\n' ∉ body) :
      IsLayout ('/' :: '/' :: (body ++ ['\n']))

/-! ## Splitting a text in two places -/

namespace Splits

variable {pieces more : List Piece} {source rest : List Char}

theorem append {middle : List Char} (splits : Splits pieces source middle)
    (others : Splits more middle rest) : Splits (pieces ++ more) source rest := by
  induction splits with
  | nil => exact others
  | cons first _ ih => exact .cons first (ih others)

theorem exists_middle (splits : Splits (pieces ++ more) source rest) :
    ∃ middle, Splits pieces source middle ∧ Splits more middle rest := by
  induction pieces generalizing source with
  | nil => exact ⟨source, .nil, splits⟩
  | cons piece pieces ih =>
      cases splits with
      | cons first others =>
          obtain ⟨middle, front, back⟩ := ih others
          exact ⟨middle, .cons first front, back⟩

end Splits

theorem Piece.Stands.exists_text_eq {piece : Piece} {after : List Char}
    (stands : piece.Stands after) : ∃ c text, piece.text = c :: text := by
  cases stands with
  | blank => exact ⟨_, _, rfl⟩
  | lineComment => exact ⟨_, _, rfl⟩
  | blockComment => exact ⟨_, _, rfl⟩
  | word => exact ⟨_, _, rfl⟩
  | escaped => exact ⟨_, _, rfl⟩
  | mark => exact ⟨_, _, rfl⟩

/-- A piece looks no further than at the next character. -/
theorem Piece.Stands.congr {piece : Piece} {after other : List Char}
    (stands : piece.Stands after) (same : other.head? = after.head?) : piece.Stands other := by
  cases stands with
  | blank blank => exact .blank blank
  | lineComment within ends => exact .lineComment within (same ▸ ends)
  | blockComment unclosed => exact .blockComment unclosed
  | word starts continues ends => exact .word starts continues (same ▸ ends)
  | escaped starts continues ends => exact .escaped starts continues (same ▸ ends)
  | mark => exact .mark

/-- Pieces can be followed by another rest if the last of them can. -/
theorem Splits.moved {pieces : List Piece} {source rest other : List Char}
    (splits : Splits pieces source rest)
    (last : ∀ piece : Piece, piece.Stands rest → piece.Stands other) :
    Splits pieces (textOf pieces ++ other) other := by
  induction splits with
  | nil => exact .nil
  | @cons piece pieces after rest first others ih =>
      rw [textOf_cons, List.append_assoc]
      refine .cons ?_ (ih last)
      cases others with
      | nil => exact last piece first
      | @cons second pieces after rest next others =>
          obtain ⟨c, text, starts⟩ := next.exists_text_eq
          exact first.congr (by rw [textOf_cons, starts]; rfl)

theorem textOf_append (pieces more : List Piece) :
    textOf (pieces ++ more) = textOf pieces ++ textOf more :=
  List.flatMap_append

/-- The text in front of a piece, the piece, and the text behind it. -/
theorem Splits.parts {before after : List Piece} {piece : Piece} {source : List Char}
    (splits : Splits (before ++ piece :: after) source []) :
    source = textOf before ++ (piece.text ++ textOf after) ∧ piece.Stands (textOf after) := by
  constructor
  · rw [splits.eq_append, List.append_nil, textOf_append, textOf_cons]
  · obtain ⟨middle, -, back⟩ := splits.exists_middle
    cases back with
    | cons first others =>
        rw [others.eq_append, List.append_nil] at first
        exact first

/-! ## Layout between pieces -/

namespace IsLayout

variable {text : List Char} (layout : IsLayout text)
include layout

/-- Layout is cut into pieces that are skipped, whatever follows. -/
theorem exists_splits (after : List Char) :
    ∃ fill : List Piece, (∀ piece ∈ fill, piece.isTrivia) ∧ Splits fill (text ++ after) after := by
  cases layout with
  | blanks blank =>
      induction text with
      | nil => exact ⟨[], by simp, .nil⟩
      | cons c text ih =>
          rw [List.forall_mem_cons] at blank
          obtain ⟨fill, skipped, splits⟩ := ih blank.2
          refine ⟨.trivia [c] :: fill, ?_, .cons (.blank blank.1) splits⟩
          rw [List.forall_mem_cons]
          exact ⟨rfl, skipped⟩
  | @blockComment body unclosed =>
      exact ⟨[.trivia ('/' :: '*' :: (body ++ ['*', '/']))], by simp [Piece.isTrivia],
        .cons (.blockComment unclosed) .nil⟩
  | @lineComment body within =>
      refine ⟨[.trivia ('/' :: '/' :: body), .trivia ['\n']], by simp [Piece.isTrivia], ?_⟩
      have line : Splits [.trivia ['\n']] ('\n' :: after) after := .cons (.blank (by decide)) .nil
      have comment := Splits.cons (.lineComment within (by simp)) line
      simpa [Piece.text] using comment

theorem not_isNamePart {c : Char} (first : c ∈ text.head?) : ¬ isNamePart c := by
  cases layout with
  | blanks blank =>
      intro part
      exact not_isBlank_of_isNamePart part (blank c (List.mem_of_mem_head? first))
  | blockComment unclosed =>
      cases first
      decide
  | lineComment within =>
      cases first
      decide

/-- A piece can be followed by layout if it is not skipped, or if it is not followed by the
end of a line. -/
theorem stands {piece : Piece} {after : List Char} (stands : piece.Stands after)
    (apart : piece.isTrivia = false ∨ ∃ c ∈ after.head?, c ≠ '\n') :
    piece.Stands (text ++ after) := by
  have ends : (∀ c ∈ after.head?, ¬ isNamePart c) →
      ∀ c ∈ (text ++ after).head?, ¬ isNamePart c := by
    intro ends c first
    cases text with
    | nil => exact ends c first
    | cons other text =>
        cases first
        exact layout.not_isNamePart rfl
  cases stands with
  | blank blank => exact .blank blank
  | lineComment within newline =>
      obtain visible | ⟨c, first, other⟩ := apart
      · contradiction
      · exact absurd (newline c first) other
  | blockComment unclosed => exact .blockComment unclosed
  | word starts continues stops => exact .word starts continues (ends stops)
  | escaped starts continues stops => exact .escaped starts continues (ends stops)
  | mark => exact .mark

end IsLayout

/-- A token starts with a character that is not the end of a line. -/
theorem Piece.Stands.ne_newline {piece : Piece} {after : List Char} (stands : piece.Stands after)
    (visible : piece.isTrivia = false) (behind : List Char) :
    ∃ c ∈ (piece.text ++ behind).head?, c ≠ '\n' := by
  cases stands with
  | blank => contradiction
  | lineComment => contradiction
  | blockComment => contradiction
  | @word first more after starts continues ends =>
      refine ⟨first, rfl, ?_⟩
      rintro rfl
      exact absurd starts (by decide)
  | escaped => exact ⟨'^', rfl, by decide⟩
  | @mark symbol after =>
      refine ⟨symbol.char, rfl, ?_⟩
      cases symbol <;> decide

section Insertion

variable {before after : List Piece} {piece : Piece} {source text : List Char}
  (splits : Splits (before ++ piece :: after) source []) (visible : piece.isTrivia = false)
  (layout : IsLayout text)
include splits visible layout

/-- A text with layout in front of a token splits into the same pieces and skipped ones. -/
theorem exists_splits_before :
    ∃ fill : List Piece, (∀ piece ∈ fill, piece.isTrivia) ∧
      Splits (before ++ (fill ++ piece :: after))
        (textOf before ++ (text ++ (piece.text ++ textOf after))) [] := by
  obtain ⟨middle, front, back⟩ := splits.exists_middle
  obtain ⟨fill, skipped, filled⟩ := layout.exists_splits middle
  have whole := back.eq_append
  rw [List.append_nil, textOf_cons] at whole
  refine ⟨fill, skipped, ?_⟩
  rw [← whole]
  refine (front.moved fun last stands => ?_).append (filled.append back)
  apply layout.stands stands
  right
  cases back with
  | cons first others => exact first.ne_newline visible _

/-- A text with layout behind a token splits into the same pieces and skipped ones. -/
theorem exists_splits_behind :
    ∃ fill : List Piece, (∀ piece ∈ fill, piece.isTrivia) ∧
      Splits (before ++ piece :: (fill ++ after))
        (textOf before ++ (piece.text ++ (text ++ textOf after))) [] := by
  obtain ⟨middle, front, back⟩ := splits.exists_middle
  cases back with
  | @cons _ _ rest _ first others =>
      obtain ⟨fill, skipped, filled⟩ := layout.exists_splits rest
      have whole := others.eq_append
      rw [List.append_nil] at whole
      refine ⟨fill, skipped, ?_⟩
      rw [← whole]
      obtain ⟨c, start, starts⟩ := first.exists_text_eq
      -- What is in front of the token is still followed by it.
      refine (front.moved fun last stands => stands.congr ?_).append
        (.cons (layout.stands first (.inl visible)) (filled.append others))
      rw [starts]
      rfl

end Insertion

/-! ## The tokens of a text with layout -/

theorem lexemes_tokensIn (front : List Char) (pieces : List Piece) :
    (tokensIn front pieces).map (·.lexeme) = pieces.filterMap (·.lexeme?) := by
  induction pieces generalizing front with
  | nil => rfl
  | cons piece pieces ih =>
      rw [tokensIn_cons, List.map_append, ih, List.filterMap_cons]
      cases piece.lexeme? with
      | none => rfl
      | some lexeme => rfl

/-- Texts that split into pieces of the same lexemes have tokens that say the same. -/
theorem exists_lex_of_splits {pieces others : List Piece} {source : List Char}
    (splits : Splits others source [])
    (same : pieces.filterMap (·.lexeme?) = others.filterMap (·.lexeme?)) (front : List Char) :
    ∃ list, lex source = .ok list ∧ SaySame (tokensIn front pieces) list.tokens :=
  ⟨_, lex_of_splits splits, by rw [SaySame, lexemes_tokensIn, lexemes_tokensIn, same]⟩

/-- Skipped pieces write nothing. -/
theorem filterMap_lexeme?_of_skipped {fill : List Piece}
    (skipped : ∀ piece ∈ fill, piece.isTrivia) : fill.filterMap (·.lexeme?) = [] := by
  rw [List.filterMap_eq_nil_iff]
  intro piece member
  have none := skipped piece member
  rwa [Piece.isTrivia_eq, Option.isNone_iff_eq_none] at none

/-- A token is that of a piece, and there are pieces in front of it and behind it. -/
theorem exists_piece_of_mem_tokensIn {front : List Char} {pieces : List Piece} {token : Token}
    (member : token ∈ tokensIn front pieces) :
    ∃ before piece after, pieces = before ++ piece :: after ∧
      IsTokenOf token (front ++ textOf before, piece) := by
  induction pieces generalizing front with
  | nil => exact absurd member List.not_mem_nil
  | cons piece pieces ih =>
      rw [tokensIn_cons, List.mem_append] at member
      obtain first | later := member
      · obtain ⟨lexeme, read, rfl⟩ := Option.map_eq_some_iff.mp (Option.mem_toList.mp first)
        refine ⟨[], piece, pieces, rfl, ?_, ?_⟩
        · exact Piece.lexeme?_eq_some_iff.mp read
        · rw [textOf_nil, List.append_nil]
      · obtain ⟨before, other, after, rfl, isToken⟩ := ih later
        refine ⟨piece :: before, other, after, rfl, ?_⟩
        rwa [textOf_cons, ← List.append_assoc]

/-! ## Reading -/

/-- The place of the token with a number.  Behind the last token this is the end of the
text. -/
def TokenList.placeAt (list : TokenList) (index : Nat) : Position :=
  (list.tokens[index]?.map (·.pos)).getD list.finish

/-- There is no token behind the last. -/
theorem TokenList.placeAt_min (list : TokenList) (index : Nat) :
    list.placeAt (min index list.tokens.length) = list.placeAt index := by
  obtain inside | outside := Nat.le_total index list.tokens.length
  · rw [Nat.min_eq_left inside]
  · rw [Nat.min_eq_right outside, placeAt, placeAt, List.getElem?_eq_none le_rfl,
      List.getElem?_eq_none outside]

/-- What is read from two texts: models that are equal up to places, or the same fault at
the token of the same number. -/
inductive ReadAlike (list others : TokenList) :
    Except SyntaxError Definitions → Except SyntaxError Definitions → Prop
  | models {defs twin : Definitions} (same : defs.unplaced = twin.unplaced) :
      ReadAlike list others (.ok defs) (.ok twin)
  | faults {fault : Fault} {index : Nat} (inside : index ≤ list.tokens.length) :
      ReadAlike list others (.error ⟨fault, list.placeAt index⟩)
        (.error ⟨fault, others.placeAt index⟩)

theorem unexpected_drop (list : TokenList) (wanted : Expectation) (count : Nat) :
    unexpected list.finish wanted (list.tokens.drop count) =
      ⟨.unexpected wanted ((list.tokens.map (·.lexeme))[count]?), list.placeAt count⟩ := by
  rw [TokenList.placeAt, List.getElem?_map, ← List.head?_drop]
  cases list.tokens.drop count with
  | nil => rfl
  | cons token rest => rfl

/-- What is read from a text depends on its tokens only. -/
theorem readAlike_parse {source other : List Char} {list others : TokenList}
    (cut : lex source = .ok list) (cutOther : lex other = .ok others)
    (same : SaySame list.tokens others.tokens) :
    ReadAlike list others (parse source) (parse other) := by
  rw [parse_eq_map cut, parse_eq_map cutOther]
  have agree : Agree list.finish others.finish (Alike unplacedIn) (takeElements list.finish false)
      (takeElements others.finish false) list.tokens others.tokens := agree_takeElements false same
  cases agree with
  | takes count value twin alike one two =>
      rw [one, two]
      exact .models (congrArg (fun elements => { elements := elements : Definitions }) alike)
  | refuses count wanted one two =>
      have places := others.placeAt_min count
      rw [same.length] at places
      rw [one, two, unexpected_drop, unexpected_drop, ← list.placeAt_min, ← places,
        show others.tokens.map (·.lexeme) = list.tokens.map (·.lexeme) from same.symm]
      exact .faults (Nat.min_le_right count list.tokens.length)

/-! ## Both -/

/-- Layout can be put in front of every token of a text and behind it, and the text has the
same tokens as before, at other places.  And texts that have the same tokens are read
alike: the models are equal up to places, or the fault is the same and is at the token of
the same number. -/
theorem layout_keeps_meaning :
    (∀ source list, lex source = .ok list → ∀ token ∈ list.tokens, ∃ front piece back,
      source = front ++ (piece.text ++ back) ∧ IsTokenOf token (front, piece) ∧
        piece.Stands back ∧ ∀ text, IsLayout text → ∃ before behind,
          lex (front ++ (text ++ (piece.text ++ back))) = .ok before ∧
          lex (front ++ (piece.text ++ (text ++ back))) = .ok behind ∧
          SaySame list.tokens before.tokens ∧ SaySame list.tokens behind.tokens) ∧
    ∀ source other list others, lex source = .ok list → lex other = .ok others →
      SaySame list.tokens others.tokens →
        ReadAlike list others (parse source) (parse other) := by
  constructor
  · intro source list cut token member
    obtain ⟨pieces, splits, cut⟩ := exists_splits_of_lex cut
    subst cut
    obtain ⟨before, piece, after, rfl, isToken⟩ := exists_piece_of_mem_tokensIn member
    have visible : piece.isTrivia = false := by
      rw [Piece.isTrivia_eq, Piece.lexeme?_eq_some_iff.mpr isToken.lexeme]
      rfl
    obtain ⟨parts, stands⟩ := splits.parts
    refine ⟨textOf before, piece, textOf after, parts, isToken, stands, ?_⟩
    intro text layout
    obtain ⟨fill, skipped, splitsBefore⟩ := exists_splits_before splits visible layout
    obtain ⟨filling, skippedBehind, splitsBehind⟩ := exists_splits_behind splits visible layout
    have kept : (before ++ piece :: after).filterMap (·.lexeme?) =
        (before ++ (fill ++ piece :: after)).filterMap (·.lexeme?) := by
      simp [filterMap_lexeme?_of_skipped skipped]
    have keptBehind : (before ++ piece :: after).filterMap (·.lexeme?) =
        (before ++ piece :: (filling ++ after)).filterMap (·.lexeme?) := by
      simp [List.filterMap_cons, filterMap_lexeme?_of_skipped skippedBehind]
    obtain ⟨one, cutOne, sameOne⟩ := exists_lex_of_splits splitsBefore kept []
    obtain ⟨two, cutTwo, sameTwo⟩ := exists_lex_of_splits splitsBehind keptBehind []
    exact ⟨one, two, cutOne, cutTwo, sameOne, sameTwo⟩
  · intro source other list others cut cutOther same
    exact readAlike_parse cut cutOther same

/-- An enum with an escaped name, and an error behind its literal. -/
def denseSource : List Char := "enum ^many\x7bA B\x7d".toList

/-- The same tokens, with comments and line ends between them. -/
def looseSource : List Char := "/***/enum\n^many//\x7b\n\x7bA/*/*/B\x7d//".toList

theorem layout_keeps_meaning_enum :
    ∃ list others, lex denseSource = .ok list ∧ lex looseSource = .ok others ∧
      SaySame list.tokens others.tokens ∧
      ReadAlike list others (parse denseSource) (parse looseSource) ∧
      ∃ token ∈ list.tokens, token.lexeme = .name "many" ∧ ∃ front piece back,
        denseSource = front ++ (piece.text ++ back) ∧ IsTokenOf token (front, piece) ∧
          piece.Stands back ∧ IsLayout "/*\x7b*/".toList ∧ ∃ before behind,
            lex (front ++ ("/*\x7b*/".toList ++ (piece.text ++ back))) = .ok before ∧
            lex (front ++ (piece.text ++ ("/*\x7b*/".toList ++ back))) = .ok behind ∧
            SaySame list.tokens before.tokens ∧ SaySame list.tokens behind.tokens := by
  have layout : IsLayout "/*\x7b*/".toList := @IsLayout.blockComment ['\x7b'] (by decide)
  have computed : (match lex denseSource, lex looseSource with
      | .ok list, .ok others =>
          decide (list.tokens.map (·.lexeme) = others.tokens.map (·.lexeme)) &&
            list.tokens.any fun token => token.lexeme = .name "many"
      | _, _ => false) = true := by
    decide +kernel
  cases cut : lex denseSource with
  | error error => simp [cut] at computed
  | ok list =>
      cases cutOther : lex looseSource with
      | error error => simp [cut, cutOther] at computed
      | ok others =>
          simp only [cut, cutOther, Bool.and_eq_true, decide_eq_true_eq,
            List.any_eq_true] at computed
          obtain ⟨same, token, member, named⟩ := computed
          obtain ⟨front, piece, back, parts, isToken, stands, inserted⟩ :=
            layout_keeps_meaning.1 denseSource list cut token member
          exact ⟨list, others, rfl, rfl, same,
            layout_keeps_meaning.2 denseSource looseSource list others cut cutOther same,
            token, member, named, front, piece, back, parts, isToken, stands, layout,
            inserted _ layout⟩

end DomainGen.Ddef
