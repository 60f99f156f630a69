import DomainGen.Proofs.Ddef.FirstFault
import DomainGen.Proofs.Ddef.Pieces

/-!
# Splitting a source text

A text is cut into tokens exactly if it splits into pieces.  The tokens are the pieces that
are not skipped, each at the place of its first character.  Otherwise the error is where no
further piece can be split off (`lex_splits`).

Cutting a text needs to know nothing of what is in front of it but the place, so behind
the pieces that were split off it starts afresh (`tokensFrom_of_splits`).
-/

namespace DomainGen

/-! ## Places -/

/-- The place behind some text.  Its line is told by the newlines in the text, and its
column by the characters behind the last of them. -/
def Position.behind (text : List Char) : Position where
  line := 1 + text.count '\n'
  column := 1 + (text.reverse.takeWhile (· ≠ '\n')).length

theorem Position.behind_nil : behind [] = .start := rfl

theorem Position.behind_concat (text : List Char) (c : Char) :
    behind (text ++ [c]) = (behind text).next c := by
  by_cases newline : c = '\n'
  · simp [behind, next, newline, Nat.add_assoc]
  · simp [behind, next, newline, Nat.add_comm]

theorem Position.after_behind (front text : List Char) :
    (behind front).after text = behind (front ++ text) := by
  induction text generalizing front with
  | nil => rw [List.append_nil]; rfl
  | cons c text ih =>
      rw [List.append_cons, ← ih, behind_concat]
      rfl

namespace Ddef

/-! ## Splitting a text -/

/-- A text starts with some pieces, and there is a rest behind them. -/
inductive Splits : List Piece → List Char → List Char → Prop
  | nil {rest : List Char} : Splits [] rest rest
  | cons {piece : Piece} {pieces : List Piece} {after rest : List Char}
      (first : piece.Stands after) (others : Splits pieces after rest) :
      Splits (piece :: pieces) (piece.text ++ after) rest

/-- The characters of some pieces. -/
def textOf (pieces : List Piece) : List Char := pieces.flatMap (·.text)

@[simp] theorem textOf_nil : textOf [] = [] := rfl

@[simp] theorem textOf_cons (piece : Piece) (pieces : List Piece) :
    textOf (piece :: pieces) = piece.text ++ textOf pieces := rfl

/-- Pieces, each with the text in front of it. -/
def placed (front : List Char) : List Piece → List (List Char × Piece)
  | [] => []
  | piece :: pieces => (front, piece) :: placed (front ++ piece.text) pieces

theorem Splits.eq_append {pieces : List Piece} {source rest : List Char}
    (splits : Splits pieces source rest) : source = textOf pieces ++ rest := by
  induction splits with
  | nil => rfl
  | cons first others ih => rw [textOf_cons, List.append_assoc, ← ih]

/-- Pieces can be split off as long as one stands at the start of the rest. -/
theorem exists_splits (source : List Char) :
    ∃ pieces rest, Splits pieces source rest ∧
      (rest = [] ∨ ∃ fault, Unfit rest fault fault.token) := by
  match source with
  | [] => exact ⟨[], [], .nil, .inl rfl⟩
  | c :: rest =>
      cases found : firstPiece c rest with
      | error fault => exact ⟨[], _, .nil, .inr ⟨fault, firstPiece_eq_error_iff.mp found⟩⟩
      | ok piece =>
          obtain ⟨after, same, stands⟩ := stands_of_firstPiece found
          have shorter : after.length < (c :: rest).length := by
            have size := firstPiece_length_pos found
            rw [same, List.length_append]
            omega
          obtain ⟨pieces, left, splits, ends⟩ := exists_splits after
          exact ⟨piece :: pieces, left, same ▸ .cons stands splits, ends⟩
termination_by source.length
decreasing_by exact shorter

/-! ## Tokens -/

/-- The lexeme that a piece is written for.  A name without a caret can be a keyword. -/
inductive Piece.Writes : Piece → Lexeme → Prop
  | keyword {word : Keyword} : Writes (.word word.text.toList) (.keyword word)
  | name {text : List Char} (free : ∀ word : Keyword, word.text.toList ≠ text) :
      Writes (.word text) (.name (String.ofList text))
  | escaped {text : List Char} : Writes (.escaped text) (.name (String.ofList text))
  | mark {symbol : Symbol} : Writes (.mark symbol) (.symbol symbol)

/-- Whether a piece is skipped. -/
def Piece.isTrivia : Piece → Bool
  | .trivia _ => true
  | _ => false

/-- The token of a piece: what it is written for, and where it starts. -/
structure IsTokenOf (token : Token) (place : List Char × Piece) : Prop where
  lexeme : place.2.Writes token.lexeme
  pos : token.pos = .behind place.1

theorem Keyword.ofText?_text (word : Keyword) : ofText? word.text = some word := by
  cases word <;> decide

theorem Keyword.ofText?_eq_some_iff {text : String} {word : Keyword} :
    ofText? text = some word ↔ word.text = text := by
  constructor
  · intro found
    have same := List.find?_some found
    exact eq_of_beq same
  · rintro rfl
    exact ofText?_text word

theorem Piece.lexeme?_eq_some_iff {piece : Piece} {lexeme : Lexeme} :
    piece.lexeme? = some lexeme ↔ piece.Writes lexeme := by
  constructor
  · intro read
    cases piece with
    | trivia text => contradiction
    | escaped text => cases read; exact .escaped
    | mark symbol => cases read; exact .mark
    | word text =>
        cases found : Keyword.ofText? (String.ofList text) with
        | none =>
            simp only [lexeme?, found, Option.elim_none, Option.some_inj] at read
            subst read
            refine .name fun word same => ?_
            rw [← same, String.ofList_toList, Keyword.ofText?_text] at found
            contradiction
        | some word =>
            simp only [lexeme?, found, Option.elim_some, Option.some_inj] at read
            subst read
            have spelled : text = word.text.toList := by
              rw [Keyword.ofText?_eq_some_iff.mp found, String.toList_ofList]
            rw [spelled]
            exact .keyword
  · intro writes
    cases writes with
    | keyword => simp [lexeme?, Keyword.ofText?_text]
    | @name text free =>
        have none : Keyword.ofText? (String.ofList text) = none := by
          rw [Option.eq_none_iff_forall_ne_some]
          intro word found
          apply free word
          rw [Keyword.ofText?_eq_some_iff.mp found, String.toList_ofList]
        simp [lexeme?, none]
    | escaped => rfl
    | mark => rfl

theorem Piece.isTrivia_eq (piece : Piece) : piece.isTrivia = piece.lexeme?.isNone := by
  cases piece <;> rfl

/-- The tokens of some pieces. -/
def tokensIn (front : List Char) (pieces : List Piece) : List Token :=
  (placed front pieces).filterMap fun place => place.2.lexeme?.map (⟨·, .behind place.1⟩)

theorem tokensIn_cons (front : List Char) (piece : Piece) (pieces : List Piece) :
    tokensIn front (piece :: pieces) =
      (piece.lexeme?.map (⟨·, .behind front⟩)).toList ++
        tokensIn (front ++ piece.text) pieces := by
  rw [tokensIn, placed, List.filterMap_cons]
  cases piece.lexeme? with
  | none => rfl
  | some lexeme => rfl

theorem forall₂_isTokenOf_iff {places : List (List Char × Piece)} {tokens : List Token} :
    List.Forall₂ IsTokenOf tokens (places.filter (!·.2.isTrivia)) ↔
      tokens = places.filterMap fun place => place.2.lexeme?.map (⟨·, .behind place.1⟩) := by
  induction places generalizing tokens with
  | nil => simp
  | cons place places ih =>
      rw [List.filterMap_cons, List.filter_cons, Piece.isTrivia_eq]
      cases read : place.2.lexeme? with
      | none => simpa using ih
      | some lexeme =>
          simp only [Option.isNone_some, Bool.not_false, if_true, Option.map_some]
          rw [List.forall₂_cons_right_iff]
          constructor
          · rintro ⟨⟨found, pos⟩, others, ⟨written, rfl⟩, same, rfl⟩
            rw [← Piece.lexeme?_eq_some_iff, read, Option.some_inj] at written
            rw [written, ih.mp same]
          · rintro rfl
            exact ⟨_, _, ⟨Piece.lexeme?_eq_some_iff.mp read, rfl⟩, ih.mpr rfl, rfl⟩

theorem tokensFrom_nil (pos : Position) : tokensFrom pos [] = .ok ⟨[], pos⟩ := by
  rw [tokensFrom.eq_def]

/-- Cutting a text goes on behind the piece in front. -/
theorem tokensFrom_piece {piece : Piece} {after : List Char} (stands : piece.Stands after)
    (pos : Position) :
    tokensFrom pos (piece.text ++ after) =
      (tokensFrom (pos.after piece.text) after).map fun list =>
        { list with tokens := (piece.lexeme?.map (⟨·, pos⟩)).toList ++ list.tokens } := by
  obtain ⟨c, rest, same, found⟩ := firstPiece_of_stands stands
  have behind : (c :: rest).drop piece.text.length = after := by rw [← same, List.drop_left]
  rw [same, tokensFrom.eq_def]
  dsimp only
  split
  · next refused =>
    rw [found] at refused
    contradiction
  · next other cut =>
    rw [found, Except.ok.injEq] at cut
    subst cut
    rw [behind]
    cases tokensFrom (pos.after piece.text) after with
    | error error => rfl
    | ok list =>
        cases piece.lexeme? with
        | none => rfl
        | some lexeme => rfl

theorem tokensFrom_of_splits {pieces : List Piece} {source rest : List Char}
    (splits : Splits pieces source rest) (front : List Char) :
    tokensFrom (.behind front) source =
      (tokensFrom (.behind (front ++ textOf pieces)) rest).map fun list =>
        { list with tokens := tokensIn front pieces ++ list.tokens } := by
  induction splits generalizing front with
  | @nil rest =>
      rw [textOf_nil, List.append_nil]
      cases tokensFrom (.behind front) rest with
      | error error => rfl
      | ok list => rfl
  | @cons piece pieces after rest first others ih =>
      rw [tokensFrom_piece first, Position.after_behind, ih, textOf_cons, List.append_assoc]
      cases tokensFrom (.behind (front ++ (piece.text ++ textOf pieces))) rest with
      | error error => rfl
      | ok list => simp only [Except.map, tokensIn_cons, List.append_assoc]

/-- A text that splits into pieces has their tokens. -/
theorem lex_of_splits {pieces : List Piece} {source : List Char}
    (splits : Splits pieces source []) :
    lex source = .ok ⟨tokensIn [] pieces, .behind source⟩ := by
  have whole := splits.eq_append
  rw [List.append_nil] at whole
  have cut := tokensFrom_of_splits splits []
  rw [List.nil_append, ← whole, tokensFrom_nil] at cut
  rw [lex, ← Position.behind_nil, cut, Except.map, List.append_nil]

/-- A text that has a rest where no piece starts is refused there. -/
theorem lex_of_unfit {pieces : List Piece} {source rest : List Char} {fault : Fault}
    (splits : Splits pieces source rest) (unfit : Unfit rest fault fault.token) :
    lex source = .error ⟨fault, .behind (textOf pieces)⟩ := by
  have cut := tokensFrom_of_splits splits []
  cases rest with
  | nil => cases unfit
  | cons c rest =>
      have refused := firstPiece_eq_error_iff.mpr unfit
      have stopped : tokensFrom (.behind ([] ++ textOf pieces)) (c :: rest) =
          .error ⟨fault, .behind (textOf pieces)⟩ := by
        rw [tokensFrom.eq_def]
        dsimp only
        split
        · next other found =>
          rw [refused, Except.error.injEq] at found
          rw [found]
          rfl
        · next found =>
          rw [refused] at found
          contradiction
      rw [lex, ← Position.behind_nil, cut, stopped]
      rfl

/-- A text with tokens splits into pieces. -/
theorem exists_splits_of_lex {source : List Char} {list : TokenList}
    (cut : lex source = .ok list) :
    ∃ pieces, Splits pieces source [] ∧ list = ⟨tokensIn [] pieces, .behind source⟩ := by
  obtain ⟨pieces, rest, splits, rfl | ⟨fault, unfit⟩⟩ := exists_splits source
  · rw [lex_of_splits splits, Except.ok.injEq] at cut
    exact ⟨pieces, splits, cut.symm⟩
  · rw [lex_of_unfit splits unfit] at cut
    contradiction

theorem refuses_of_unfit {text : List Char} {error : SyntaxError} {token : String}
    (unfit : Unfit text error.fault token) : error.diagnostic.Refuses error.pos token := by
  rw [unfit.token_eq]
  exact ⟨rfl, rfl, rfl, rfl, rfl⟩

/-- A text is cut into tokens exactly if it splits into pieces.  The tokens are the pieces
that are not skipped, in their order, and each is at the place of its first character.  It
fails exactly where pieces are followed by text that no piece starts.  The error is at the
start of that text, and it names the character there, or nothing if a comment is not
closed. -/
theorem lex_splits (source : List Char) :
    (∀ list, lex source = .ok list ↔ ∃ pieces, Splits pieces source [] ∧
      List.Forall₂ IsTokenOf list.tokens ((placed [] pieces).filter (!·.2.isTrivia)) ∧
      list.finish = .behind source) ∧
    ∀ error, lex source = .error error ↔ ∃ pieces front rest token, source = front ++ rest ∧
      Splits pieces source rest ∧ Unfit rest error.fault token ∧ error.pos = .behind front ∧
      error.diagnostic.Refuses (.behind front) token := by
  constructor
  · intro list
    constructor
    · intro cut
      obtain ⟨pieces, splits, rfl⟩ := exists_splits_of_lex cut
      exact ⟨pieces, splits, forall₂_isTokenOf_iff.mpr rfl, rfl⟩
    · rintro ⟨pieces, splits, tokens, finish⟩
      rw [lex_of_splits splits, tokensIn, ← forall₂_isTokenOf_iff.mp tokens, ← finish]
  · intro error
    constructor
    · intro cut
      obtain ⟨pieces, rest, splits, rfl | ⟨fault, unfit⟩⟩ := exists_splits source
      · rw [lex_of_splits splits] at cut
        contradiction
      · rw [lex_of_unfit splits unfit, Except.error.injEq] at cut
        subst cut
        exact ⟨pieces, textOf pieces, rest, fault.token, splits.eq_append, splits, unfit, rfl,
          refuses_of_unfit unfit⟩
    · rintro ⟨pieces, front, rest, token, same, splits, unfit, pos, -⟩
      have before : front = textOf pieces := by
        rw [splits.eq_append] at same
        exact (List.append_cancel_right same).symm
      obtain ⟨fault, place⟩ := error
      rw [unfit.token_eq] at unfit
      rw [lex_of_unfit splits unfit, ← before, ← pos]

end Ddef

end DomainGen
