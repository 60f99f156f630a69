import DomainGen.Proofs.Ddef.Foresight

/-!
# The first token that does not fit

Tokens are viable when a sentence of the grammar begins with them.  A source text that is
not a model has viable tokens up to some place, and with the token there they begin no
sentence, whatever follows.  The error is placed at this token (`parse_error_firstFault`).

What comes before is viable because it was taken as the beginning of a phrase.  The token
itself fits nowhere because reading fails on all tokens that go on in this way, and
sentences are read.
-/

namespace DomainGen

/-- The finding tells of malformed input at a place, and of what stands there. -/
structure Diagnostic.Refuses (diagnostic : Diagnostic) (pos : Position) (token : String) :
    Prop where
  concern : diagnostic.concern = .malformed
  severity : diagnostic.severity = .error
  line : diagnostic.line = pos.line
  column : diagnostic.column = pos.column
  token : diagnostic.token = token

namespace Ddef

/-- A sentence begins with these tokens. -/
def IsViable (lexemes : List Lexeme) : Prop := ∃ more, IsSentence (lexemes ++ more)

variable {finish : Position} {wanted : Expectation}

theorem refuses_unexpected_nil :
    (unexpected finish wanted []).diagnostic.Refuses finish endOfFile :=
  ⟨rfl, rfl, rfl, rfl, rfl⟩

theorem refuses_unexpected_cons (token : Token) (rest : List Token) :
    (unexpected finish wanted (token :: rest)).diagnostic.Refuses token.pos token.lexeme.text :=
  ⟨rfl, rfl, rfl, rfl, rfl⟩

/-- Tokens that can be read on are viable. -/
theorem isViable_of_mem_elementBodies {taken more : List Token}
    (phrase : taken ++ more ∈ elementBodies false) : IsViable (taken.map (·.lexeme)) := by
  obtain ⟨_, ⟨document, rfl⟩, _, rfl, spelling⟩ := Language.mem_mul.mp phrase
  refine ⟨more.map (·.lexeme), document, ?_⟩
  rw [← List.map_append, ← spelling, List.append_nil]

/-- A sentence is read, wherever its tokens are placed. -/
theorem exists_takeElements_eq_ok {tokens : List Token}
    (sentence : IsSentence (tokens.map (·.lexeme))) :
    ∃ result, takeElements finish false tokens = .ok result := by
  obtain ⟨document, spelling⟩ := sentence
  obtain ⟨placed, spelling⟩ := exists_tokensOf_eq document tokens spelling.symm
  exact ⟨_, readsElements_iff.mpr ⟨rfl, placed, spelling, rfl⟩⟩

/-- Tokens on which reading fails, whatever follows the next one, begin no sentence. -/
theorem not_isViable_of_refuses {taken : List Token} {token : Token}
    (refused : ∀ others, others.head? = some token →
      takeElements finish false (taken ++ others) = .error (unexpected finish wanted others)) :
    ¬ IsViable ((taken ++ [token]).map (·.lexeme)) := by
  rintro ⟨more, sentence⟩
  -- The sentence has lexemes only.  Those behind the token can be placed anywhere, since
  -- reading fails before it gets to them.
  have placed : (taken ++ token :: more.map fun lexeme => (⟨lexeme, {}⟩ : Token)).map (·.lexeme) =
      (taken ++ [token]).map (·.lexeme) ++ more := by
    simp [Function.comp_def]
  rw [← placed] at sentence
  obtain ⟨result, read⟩ := exists_takeElements_eq_ok sentence
  cases read.symm.trans (refused _ rfl)

/-- The error in a source text that can be cut into tokens but is not a model.  A sentence
of the grammar begins with the tokens in front of some place.  Either another token stands
there and no sentence goes on with it, or the source ends there and the tokens are not a
sentence.  The error is a syntax error at this place, and it names the token or the end. -/
theorem parse_error_firstFault (source : List Char) (list : TokenList) (error : SyntaxError)
    (cut : lex source = .ok list) (failed : parse source = .error error) :
    ∃ before, IsViable (before.map (·.lexeme)) ∧
      ((∃ token after, list.tokens = before ++ token :: after ∧
        ¬ IsViable ((before ++ [token]).map (·.lexeme)) ∧
        error.diagnostic.Refuses token.pos token.lexeme.text) ∨
      (list.tokens = before ∧ ¬ IsSentence (before.map (·.lexeme)) ∧
        error.diagnostic.Refuses list.finish endOfFile)) := by
  have reading : takeElements list.finish false list.tokens = .error error := by
    simp only [parse, cut] at failed
    rw [takeElements]
    split at failed
    · next refused =>
      cases failed
      rw [refused]
      rfl
    · contradiction
  cases foresees_takeElements list.finish false list.tokens with
  | takes taken rest value parts phrase settled =>
      have read := settled rest rfl
      rw [← parts, reading] at read
      contradiction
  | refuses taken rest wanted parts viable settled =>
      obtain ⟨more, phrase⟩ := viable
      have same := settled rest rfl
      rw [← parts, reading, Except.error.injEq] at same
      subst same
      refine ⟨taken, isViable_of_mem_elementBodies phrase, ?_⟩
      cases rest with
      | cons token after =>
          exact .inl ⟨token, after, parts, not_isViable_of_refuses settled,
            refuses_unexpected_cons token after⟩
      | nil =>
          rw [List.append_nil] at parts
          refine .inr ⟨parts, ?_, refuses_unexpected_nil⟩
          intro sentence
          obtain ⟨result, read⟩ := exists_takeElements_eq_ok sentence
          rw [← parts, reading] at read
          contradiction

/-- A modifier that is repeated, inside an entity inside a package. -/
def repeatedModifier : List Char :=
  "package p \x7b entity A \x7b many many x: B \x7d \x7d".toList

theorem parse_error_firstFault_repeatedModifier :
    ∃ list error, lex repeatedModifier = .ok list ∧ parse repeatedModifier = .error error ∧
      error.diagnostic.token = "many" ∧ error.diagnostic.column = 29 ∧
      ∃ before, IsViable (before.map (·.lexeme)) ∧
        ((∃ token after, list.tokens = before ++ token :: after ∧
          ¬ IsViable ((before ++ [token]).map (·.lexeme)) ∧
          error.diagnostic.Refuses token.pos token.lexeme.text) ∨
        (list.tokens = before ∧ ¬ IsSentence (before.map (·.lexeme)) ∧
          error.diagnostic.Refuses list.finish endOfFile)) := by
  obtain ⟨list, cut⟩ : ∃ list, lex repeatedModifier = .ok list :=
    exists_eq_ok_of_isSome (by decide +kernel)
  have told : (match parse repeatedModifier with
      | .ok _ => false
      | .error error =>
          decide (error.diagnostic.token = "many" ∧ error.diagnostic.column = 29)) = true := by
    decide +kernel
  cases failed : parse repeatedModifier with
  | ok defs => simp [failed] at told
  | error error =>
      simp only [failed, decide_eq_true_eq] at told
      exact ⟨list, error, cut, rfl, told.1, told.2,
        parse_error_firstFault repeatedModifier list error cut failed⟩

end Ddef

end DomainGen
