import DomainGen.Ddef.Lexer
import Mathlib.Data.List.Infix
import Mathlib.Data.List.TakeWhile

/-!
# The pieces of a source text

What the pieces of a text are, without the function that cuts them off: a blank character,
a comment, a name with or without a caret, or a symbol.  Comments to the end of a line and
names are followed by something that ends them (`Piece.Stands`).

The function cuts off what is such a piece (`stands_of_firstPiece`, `firstPiece_of_stands`)
and fails where there is none (`firstPiece_eq_error_iff`).
-/

namespace DomainGen.Ddef

/-! ## Characters -/

/-- Names are written in letters, digits and underscores. -/
theorem code_of_isNamePart {c : Char} (part : isNamePart c) :
    c.toNat = 95 ∨ (97 ≤ c.toNat ∧ c.toNat ≤ 122) ∨ (65 ≤ c.toNat ∧ c.toNat ≤ 90) ∨
      (48 ≤ c.toNat ∧ c.toNat ≤ 57) := by
  simp only [isNamePart, isNameStart, Bool.or_eq_true, Bool.and_eq_true, decide_eq_true_eq,
    beq_iff_eq, Char.le_def, UInt32.le_iff_toNat_le] at part
  obtain ((rfl | small) | capital) | digit := part
  · exact .inl rfl
  · exact .inr (.inl small)
  · exact .inr (.inr (.inl capital))
  · exact .inr (.inr (.inr digit))

theorem not_isBlank_of_isNamePart {c : Char} (part : isNamePart c) : ¬ Text.isBlank c := by
  have code := code_of_isNamePart part
  simp only [Text.isBlank, Bool.or_eq_true, Bool.and_eq_true, decide_eq_true_eq, beq_iff_eq]
  omega

theorem isNamePart_of_isNameStart {c : Char} (starts : isNameStart c) : isNamePart c := by
  rw [isNamePart, starts, Bool.true_or]

theorem Symbol.ofChar?_char (symbol : Symbol) : ofChar? symbol.char = some symbol := by
  cases symbol <;> rfl

theorem Symbol.char_of_ofChar? {c : Char} {symbol : Symbol} (found : ofChar? c = some symbol) :
    symbol.char = c := by
  have same := List.find?_some found
  exact eq_of_beq same

/-! ## Block comments -/

/-- The text of a block comment ends at the first closing mark. -/
theorem commentBody?_append {body : List Char} (unclosed : ¬ ['*', '/'] <:+: body)
    (after : List Char) :
    commentBody? (body ++ '*' :: '/' :: after) = some (body ++ ['*', '/']) := by
  induction body with
  | nil => rfl
  | cons c body ih =>
      rw [List.infix_cons_iff, not_or] at unclosed
      have step := ih unclosed.2
      rw [List.cons_append, commentBody?.eq_def]
      split
      · next same =>
        -- A closing mark would start with the first character of the body.
        cases body with
        | nil => simp at same
        | cons second body =>
            simp only [List.cons_append, List.cons.injEq] at same
            obtain ⟨rfl, rfl, -⟩ := same
            exact absurd (by simp) unclosed.1
      · next same =>
        cases same
        rw [step]
        rfl
      · contradiction

theorem exists_of_commentBody? {text body : List Char} (found : commentBody? text = some body) :
    ∃ inner after, body = inner ++ ['*', '/'] ∧ text = body ++ after ∧
      ¬ ['*', '/'] <:+: inner := by
  fun_induction commentBody? text generalizing body with
  | case1 after =>
      cases found
      exact ⟨[], after, rfl, rfl, by simp⟩
  | case2 c rest other ih =>
      obtain ⟨tail, closed, rfl⟩ := Option.map_eq_some_iff.mp found
      obtain ⟨inner, after, rfl, rfl, unclosed⟩ := ih closed
      refine ⟨c :: inner, after, rfl, rfl, ?_⟩
      rw [List.infix_cons_iff]
      rintro (first | later)
      · obtain ⟨more, same⟩ := first
        simp only [List.cons_append, List.nil_append, List.cons.injEq] at same
        obtain ⟨rfl, rfl⟩ := same
        exact other _ rfl rfl
      · exact unclosed later
  | case3 => contradiction

theorem commentBody?_eq_none_iff {text : List Char} :
    commentBody? text = none ↔ ¬ ['*', '/'] <:+: text := by
  fun_induction commentBody? text with
  | case1 after =>
      have closed : ['*', '/'] <:+: '*' :: '/' :: after := ⟨[], after, rfl⟩
      simp [closed]
  | case2 c rest other ih =>
      have first : ¬ ['*', '/'] <+: c :: rest := by
        rintro ⟨more, same⟩
        cases same
        exact other more rfl rfl
      rw [Option.map_eq_none_iff, ih, List.infix_cons_iff, not_or, and_iff_right first]
  | case3 => simp

/-! ## Pieces -/

/-- A piece stands in front of some text.  A comment to the end of its line, and a name, are
followed by something that ends them. -/
inductive Piece.Stands : Piece → List Char → Prop
  | blank {c : Char} {after : List Char} (blank : Text.isBlank c) : Stands (.trivia [c]) after
  | lineComment {body after : List Char} (within : '\n' ∉ body)
      (ends : ∀ c ∈ after.head?, c = '\n') : Stands (.trivia ('/' :: '/' :: body)) after
  | blockComment {body after : List Char} (unclosed : ¬ ['*', '/'] <:+: body) :
      Stands (.trivia ('/' :: '*' :: (body ++ ['*', '/']))) after
  | word {first : Char} {more after : List Char} (starts : isNameStart first)
      (continues : ∀ c ∈ more, isNamePart c) (ends : ∀ c ∈ after.head?, ¬ isNamePart c) :
      Stands (.word (first :: more)) after
  | escaped {first : Char} {more after : List Char} (starts : isNameStart first)
      (continues : ∀ c ∈ more, isNamePart c) (ends : ∀ c ∈ after.head?, ¬ isNamePart c) :
      Stands (.escaped (first :: more)) after
  | mark {symbol : Symbol} {after : List Char} : Stands (.mark symbol) after

section TakeWhile

variable {α : Type} {wanted : α → Bool} {front after : List α}

theorem takeWhile_append_of_ends (all : ∀ entry ∈ front, wanted entry)
    (ends : ∀ entry ∈ after.head?, ¬ wanted entry) :
    (front ++ after).takeWhile wanted = front := by
  rw [List.takeWhile_append_of_pos all]
  cases after with
  | nil => simp
  | cons entry after =>
      rw [List.takeWhile_cons_of_neg (ends entry rfl), List.append_nil]

theorem not_of_mem_head?_dropWhile {entry : α} (first : entry ∈ (after.dropWhile wanted).head?) :
    ¬ wanted entry := by
  have stopped := List.head?_dropWhile_not wanted after
  rw [Option.mem_def.mp first] at stopped
  simpa using stopped

end TakeWhile

/-- What is cut off a text is a piece in front of the rest. -/
theorem stands_of_firstPiece {c : Char} {rest : List Char} {piece : Piece}
    (found : firstPiece c rest = .ok piece) :
    ∃ after, c :: rest = piece.text ++ after ∧ piece.Stands after := by
  unfold firstPiece at found
  split at found
  · next blank =>
    cases found
    exact ⟨rest, rfl, .blank blank⟩
  split at found
  · next opened =>
    cases found
    cases rest with
    | nil => simp at opened
    | cons second rest =>
        simp only [List.head?_cons, Bool.and_eq_true, beq_iff_eq, Option.some_inj] at opened
        obtain ⟨rfl, rfl⟩ := opened
        refine ⟨rest.dropWhile (· ≠ '\n'), ?_, ?_⟩
        · simp [Piece.text]
        · rw [List.takeWhile_cons_of_pos (by decide)]
          apply Piece.Stands.lineComment
          · intro newline
            simpa using List.mem_takeWhile_imp newline
          · intro c first
            simpa using not_of_mem_head?_dropWhile first
  split at found
  · next opened =>
    cases rest with
    | nil => simp at opened
    | cons second rest =>
        simp only [List.head?_cons, Bool.and_eq_true, beq_iff_eq, Option.some_inj] at opened
        obtain ⟨rfl, rfl⟩ := opened
        split at found
        · next body closed =>
          cases found
          obtain ⟨inner, after, rfl, same, unclosed⟩ := exists_of_commentBody? closed
          refine ⟨after, ?_, .blockComment unclosed⟩
          rw [List.tail_cons] at same
          simp [Piece.text, same]
        · contradiction
  split at found
  · next starts =>
    cases found
    refine ⟨rest.dropWhile isNamePart, ?_, .word starts ?_ ?_⟩
    · simp [Piece.text]
    · exact fun c member => List.mem_takeWhile_imp member
    · exact fun c first => not_of_mem_head?_dropWhile first
  split at found
  · next starts =>
    cases found
    cases rest with
    | nil => simp at starts
    | cons first rest =>
        obtain ⟨rfl, starts⟩ : c = '^' ∧ isNameStart first := by simpa using starts
        rw [List.takeWhile_cons_of_pos (isNamePart_of_isNameStart starts)]
        refine ⟨rest.dropWhile isNamePart, ?_, .escaped starts ?_ ?_⟩
        · simp [Piece.text]
        · exact fun c member => List.mem_takeWhile_imp member
        · exact fun c first => not_of_mem_head?_dropWhile first
  split at found
  · next symbol known =>
    cases found
    exact ⟨rest, by rw [Piece.text, Symbol.char_of_ofChar? known]; rfl, .mark⟩
  · contradiction

/-- A piece in front of some text is cut off it. -/
theorem firstPiece_of_stands {piece : Piece} {after : List Char} (stands : piece.Stands after) :
    ∃ c rest, piece.text ++ after = c :: rest ∧ firstPiece c rest = .ok piece := by
  cases stands with
  | @blank c _ blank => exact ⟨c, after, rfl, if_pos blank⟩
  | @lineComment body _ within ends =>
      refine ⟨'/', '/' :: (body ++ after), rfl, ?_⟩
      have body : ('/' :: (body ++ after)).takeWhile (· ≠ '\n') = '/' :: body := by
        rw [← List.cons_append]
        apply takeWhile_append_of_ends
        · intro c member
          rw [List.mem_cons] at member
          obtain rfl | member := member
          · decide
          · have other : c ≠ '\n' := by
              rintro rfl
              exact within member
            simpa using other
        · intro c first
          simpa using ends c first
      rw [firstPiece, if_neg (by decide), if_pos (by rfl), body]
  | @blockComment body _ unclosed =>
      refine ⟨'/', '*' :: (body ++ '*' :: '/' :: after), by simp [Piece.text], ?_⟩
      rw [firstPiece, if_neg (by decide), if_neg (by simp), if_pos (by rfl), List.tail_cons,
        commentBody?_append unclosed]
  | @word first more _ starts continues ends =>
      refine ⟨first, more ++ after, rfl, ?_⟩
      have part := isNamePart_of_isNameStart starts
      have slash : first ≠ '/' := by
        rintro rfl
        exact absurd starts (by decide)
      rw [firstPiece, if_neg (not_isBlank_of_isNamePart part), if_neg (by simp [slash]),
        if_neg (by simp [slash]), if_pos starts, takeWhile_append_of_ends continues ends]
  | @escaped first more _ starts continues ends =>
      refine ⟨'^', first :: more ++ after, rfl, ?_⟩
      have name : (first :: more ++ after).takeWhile isNamePart = first :: more := by
        apply takeWhile_append_of_ends _ ends
        intro c member
        rw [List.mem_cons] at member
        obtain rfl | member := member
        · exact isNamePart_of_isNameStart starts
        · exact continues c member
      rw [firstPiece, if_neg (by decide), if_neg (by simp), if_neg (by simp), if_neg (by decide),
        if_pos (by simpa using starts), name]
  | @mark symbol =>
      refine ⟨symbol.char, after, rfl, ?_⟩
      have plain : Text.isBlank symbol.char = false ∧ symbol.char ≠ '/' ∧
          isNameStart symbol.char = false ∧ symbol.char ≠ '^' := by
        cases symbol <;> decide
      obtain ⟨blank, slash, starts, caret⟩ := plain
      simp [firstPiece, blank, slash, starts, caret, Symbol.ofChar?_char]

/-! ## Where no piece starts -/

/-- No piece starts a text, since a comment is not closed or since its first character does
not belong there.  The last argument is what is named in the report. -/
inductive Unfit : List Char → Fault → String → Prop
  | comment {text : List Char} (unclosed : ¬ ['*', '/'] <:+: text) :
      Unfit ('/' :: '*' :: text) .unterminatedComment ""
  | stray {c : Char} {rest : List Char} (unopened : ¬ ['/', '*'] <+: c :: rest)
      (nothing : ∀ (piece : Piece) after, piece.Stands after → piece.text ++ after ≠ c :: rest) :
      Unfit (c :: rest) (.strayCharacter c) (String.singleton c)

theorem Unfit.token_eq {text : List Char} {fault : Fault} {token : String}
    (unfit : Unfit text fault token) : token = fault.token := by
  cases unfit with
  | comment unclosed => rfl
  | stray unopened nothing => rfl

/-- An opened comment is a piece if it is closed. -/
theorem firstPiece_opened (text : List Char) :
    firstPiece '/' ('*' :: text) =
      (commentBody? text).elim (.error .unterminatedComment) fun body =>
        .ok (.trivia ('/' :: '*' :: body)) := by
  rw [firstPiece, if_neg (by decide), if_neg (by simp), if_pos (by rfl), List.tail_cons]
  cases commentBody? text with
  | none => rfl
  | some body => rfl

/-- Where nothing is cut off a text and no comment is opened, the first character is stray. -/
theorem eq_stray_of_firstPiece {c : Char} {rest : List Char} {fault : Fault}
    (refused : firstPiece c rest = .error fault) (unopened : ¬ ['/', '*'] <+: c :: rest) :
    fault = .strayCharacter c := by
  unfold firstPiece at refused
  split at refused
  · contradiction
  split at refused
  · contradiction
  split at refused
  · next opened =>
    exfalso
    apply unopened
    cases rest with
    | nil => simp at opened
    | cons second rest =>
        simp only [List.head?_cons, Bool.and_eq_true, beq_iff_eq, Option.some_inj] at opened
        obtain ⟨rfl, rfl⟩ := opened
        exact ⟨rest, rfl⟩
  split at refused
  · contradiction
  split at refused
  · contradiction
  split at refused
  · contradiction
  · cases refused
    rfl

theorem firstPiece_eq_error_iff {c : Char} {rest : List Char} {fault : Fault} :
    firstPiece c rest = .error fault ↔ Unfit (c :: rest) fault fault.token := by
  by_cases opened : ['/', '*'] <+: c :: rest
  · obtain ⟨text, same⟩ := opened
    rw [List.cons_append, List.cons_append, List.nil_append, List.cons.injEq] at same
    obtain ⟨rfl, rfl⟩ := same
    rw [firstPiece_opened]
    constructor
    · intro refused
      cases closed : commentBody? text with
      | none =>
          rw [closed] at refused
          cases refused
          exact .comment (commentBody?_eq_none_iff.mp closed)
      | some body =>
          rw [closed] at refused
          contradiction
    · intro unfit
      cases unfit with
      | comment unclosed => rw [commentBody?_eq_none_iff.mpr unclosed, Option.elim_none]
      | stray unopened nothing => exact absurd ⟨text, rfl⟩ unopened
  · constructor
    · intro refused
      cases eq_stray_of_firstPiece refused opened
      refine .stray opened ?_
      intro piece after stands same
      obtain ⟨_, _, cut, found⟩ := firstPiece_of_stands stands
      rw [same, List.cons.injEq] at cut
      obtain ⟨rfl, rfl⟩ := cut
      rw [refused] at found
      contradiction
    · intro unfit
      cases unfit with
      | comment unclosed => exact absurd ⟨_, rfl⟩ opened
      | stray unopened nothing =>
          cases found : firstPiece c rest with
          | error fault => rw [eq_stray_of_firstPiece found unopened]
          | ok piece =>
              obtain ⟨after, same, stands⟩ := stands_of_firstPiece found
              exact absurd same.symm (nothing piece after stands)

end DomainGen.Ddef
