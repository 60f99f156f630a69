import DomainGen.Proofs.Ddef.Programs
import Mathlib.Computability.Language
import Mathlib.Order.CompletePartialOrder

/-!
# One token of lookahead

No program that reads phrases looks further than at the one token behind what it has
taken.  `Foresees` says this together with what the taken tokens are: a phrase when reading
succeeds, and the beginning of a phrase when it fails.

Both halves are kept when programs are put together: one after the other (`bind`), and in
alternatives that are told apart by the next token (`ifNext`, `ifEnd`).
-/

namespace DomainGen.Ddef

/-! ## Phrases -/

/-- The tokens of the phrases of one kind. -/
def spelled {α : Type} (spell : α → List Token) : Language Token :=
  { tokens | ∃ phrase, spell phrase = tokens }

theorem mem_spelled {α : Type} (spell : α → List Token) (phrase : α) :
    spell phrase ∈ spelled spell := ⟨phrase, rfl⟩

/-- One token, at any place. -/
def single (lexeme : Lexeme) : Language Token := spelled fun pos : Position => [⟨lexeme, pos⟩]

theorem mem_single (lexeme : Lexeme) (pos : Position) : [⟨lexeme, pos⟩] ∈ single lexeme :=
  ⟨pos, rfl⟩

/-- One name, at any place. -/
def namePhrases : Language Token := spelled fun name : NamePhrase => [name.token]

/-! ## Foresight -/

/-- A program that reads phrases, on some tokens.  What it does is settled by the tokens it
takes and by the one behind them.  Either it succeeds and the tokens are a phrase, or it
refuses the token behind them and they are the beginning of a phrase. -/
inductive Foresees {α : Type} (finish : Position) (phrases : Language Token) (read : Reader α)
    (tokens : List Token) : Prop
  | takes (taken rest : List Token) (value : α) (parts : tokens = taken ++ rest)
      (phrase : taken ∈ phrases)
      (settled : ∀ others, others.head? = rest.head? →
        read (taken ++ others) = .ok (value, others))
  | refuses (taken rest : List Token) (wanted : Expectation) (parts : tokens = taken ++ rest)
      (viable : ∃ more, taken ++ more ∈ phrases)
      (settled : ∀ others, others.head? = rest.head? →
        read (taken ++ others) = .error (unexpected finish wanted others))

namespace Foresees

variable {α β : Type} {finish : Position} {phrases further : Language Token}
  {tokens : List Token}

theorem mono {read : Reader α} (foresees : Foresees finish phrases read tokens)
    (within : phrases ≤ further) : Foresees finish further read tokens := by
  cases foresees with
  | takes taken rest value parts phrase settled =>
      exact .takes taken rest value parts (within phrase) settled
  | refuses taken rest wanted parts viable settled =>
      obtain ⟨more, phrase⟩ := viable
      exact .refuses taken rest wanted parts ⟨more, within phrase⟩ settled

theorem pure (value : α) (tokens : List Token) :
    Foresees finish 1 (pure value : Reader α) tokens :=
  .takes [] tokens value rfl rfl fun _ _ => rfl

theorem refuse (some : ∃ more, more ∈ phrases) (wanted : Expectation) (tokens : List Token) :
    Foresees finish phrases (refuse finish wanted : Reader α) tokens :=
  .refuses [] tokens wanted rfl some fun _ _ => rfl

/-- One program after another.  The first sees the token behind what it takes, and this is
where the second starts. -/
theorem bind {first : Reader α} {second : α → Reader β}
    (one : Foresees finish phrases first tokens)
    (two : ∀ value taken rest, taken ∈ phrases → tokens = taken ++ rest →
      Foresees finish further (second value) rest)
    (some : ∃ more, more ∈ further) :
    Foresees finish (phrases * further) (first >>= second) tokens := by
  cases one with
  | refuses taken rest wanted parts viable settled =>
      obtain ⟨more, phrase⟩ := viable
      obtain ⟨last, phraseLast⟩ := some
      refine .refuses taken rest wanted parts ⟨more ++ last, ?_⟩ ?_
      · rw [← List.append_assoc]
        exact Language.mem_mul.mpr ⟨_, phrase, _, phraseLast, rfl⟩
      · intro others same
        change (first (taken ++ others)).bind _ = _
        rw [settled others same]
        rfl
  | takes taken rest value parts phrase settled =>
      -- Where the second program takes nothing, the first has the same token ahead as before
      -- because `others` starts as `behind` does.
      have joined : ∀ others behind back : List Token, rest = back ++ behind →
          others.head? = behind.head? →
          (first >>= second) (taken ++ back ++ others) = second value (back ++ others) := by
        intro others behind back divided same
        change (first (taken ++ back ++ others)).bind _ = _
        rw [List.append_assoc, settled (back ++ others)]
        · rfl
        · rw [divided, List.head?_append, List.head?_append, same]
      cases two value taken rest phrase parts with
      | takes back behind result divided phraseBack settledBack =>
          refine .takes (taken ++ back) behind result ?_ ?_ ?_
          · rw [parts, divided, List.append_assoc]
          · exact Language.mem_mul.mpr ⟨taken, phrase, back, phraseBack, rfl⟩
          · intro others same
            rw [joined others behind back divided same, settledBack others same]
      | refuses back behind wanted divided viable settledBack =>
          obtain ⟨more, phraseBack⟩ := viable
          refine .refuses (taken ++ back) behind wanted ?_ ⟨more, ?_⟩ ?_
          · rw [parts, divided, List.append_assoc]
          · rw [List.append_assoc]
            exact Language.mem_mul.mpr ⟨taken, phrase, _, phraseBack, rfl⟩
          · intro others same
            rw [joined others behind back divided same, settledBack others same]

/-- What is done with the value makes no difference to the tokens. -/
theorem map {read : Reader α} (foresees : Foresees finish phrases read tokens)
    (change : α → β) :
    Foresees finish phrases (read >>= fun value => Pure.pure (change value)) tokens := by
  rw [← mul_one phrases]
  apply foresees.bind
  · intro value _ rest _ _
    exact pure (change value) rest
  · exact ⟨[], rfl⟩

/-- A program that goes on as another one does on tokens that start as these. -/
theorem congr {read other : Reader α} (foresees : Foresees finish phrases read tokens)
    (same : ∀ others, others.head? = tokens.head? → other others = read others) :
    Foresees finish phrases other tokens := by
  cases foresees with
  | takes taken rest value parts phrase settled =>
      refine .takes taken rest value parts phrase ?_
      intro others ahead
      rw [same, settled others ahead]
      rw [parts, List.head?_append, List.head?_append, ahead]
  | refuses taken rest wanted parts viable settled =>
      refine .refuses taken rest wanted parts viable ?_
      intro others ahead
      rw [same, settled others ahead]
      rw [parts, List.head?_append, List.head?_append, ahead]

/-- A program that takes a token first. -/
theorem cons {read other : Reader α} {token : Token} {rest : List Token}
    (foresees : Foresees finish phrases read rest)
    (same : ∀ others, other (token :: others) = read others) :
    Foresees finish (single token.lexeme * phrases) other (token :: rest) := by
  cases foresees with
  | takes taken behind value parts phrase settled =>
      refine .takes (token :: taken) behind value ?_ ?_ ?_
      · rw [parts, List.cons_append]
      · exact Language.mem_mul.mpr ⟨[token], ⟨token.pos, rfl⟩, taken, phrase, rfl⟩
      · intro others ahead
        rw [List.cons_append, same, settled others ahead]
  | refuses taken behind wanted parts viable settled =>
      obtain ⟨more, phrase⟩ := viable
      refine .refuses (token :: taken) behind wanted ?_ ⟨more, ?_⟩ ?_
      · rw [parts, List.cons_append]
      · exact Language.mem_mul.mpr ⟨[token], ⟨token.pos, rfl⟩, taken ++ more, phrase, rfl⟩
      · intro others ahead
        rw [List.cons_append, same, settled others ahead]

/-- Alternatives that are told apart by the next token. -/
theorem ifNext {lexeme : Lexeme} {found : Position → Reader α} {other : Reader α}
    (yes : ∀ pos rest, tokens = ⟨lexeme, pos⟩ :: rest → Foresees finish phrases (found pos) rest)
    (no : ¬ Starts lexeme tokens → Foresees finish further other tokens) :
    Foresees finish (single lexeme * phrases + further) (ifNext lexeme found other) tokens := by
  by_cases starts : Starts lexeme tokens
  · cases tokens with
    | nil => contradiction
    | cons token rest =>
        rw [starts_cons] at starts
        subst starts
        refine ((yes token.pos rest rfl).cons ?_).mono le_sup_left
        intro others
        exact if_pos rfl
  · refine ((no starts).congr ?_).mono le_sup_right
    intro others ahead
    cases others with
    | nil => rfl
    | cons token rest =>
        apply if_neg
        intro same
        apply starts
        rw [Starts, ← ahead, List.head?_cons, Option.map_some, same]

/-- Alternatives that are told apart by whether there is a next token. -/
theorem ifEnd {ended other : Reader α}
    (yes : tokens = [] → Foresees finish phrases ended tokens)
    (no : tokens ≠ [] → Foresees finish phrases other tokens) :
    Foresees finish phrases (ifEnd ended other) tokens := by
  by_cases empty : tokens = []
  · refine (yes empty).congr ?_
    intro others ahead
    rw [empty, List.head?_nil, List.head?_eq_none_iff] at ahead
    rw [ahead]
    rfl
  · refine (no empty).congr ?_
    intro others ahead
    cases others with
    | nil => exact absurd (List.head?_eq_none_iff.mp ahead.symm) empty
    | cons token rest => rfl

/-- A program that repeats itself does so on fewer tokens. -/
theorem ofShorter {read : Reader α}
    (step : ∀ tokens : List Token,
      (∀ rest : List Token, rest.length < tokens.length → Foresees finish phrases read rest) →
        Foresees finish phrases read tokens)
    (tokens : List Token) : Foresees finish phrases read tokens :=
  step tokens fun rest _ => ofShorter step rest
termination_by tokens.length

end Foresees

end DomainGen.Ddef
