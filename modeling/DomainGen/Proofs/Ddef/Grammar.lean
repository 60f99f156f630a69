import DomainGen.Proofs.Ddef.Phrase

/-!
# Properties of the grammar

The grammar is unambiguous: a derivation is determined by its tokens
(`tokensOf_injective`).  Each rule contributes that a phrase can be told from
what follows it, as long as what follows cannot continue the phrase.

Whether tokens have a derivation does not depend on their places
(`exists_tokensOf_eq`).
-/

namespace DomainGen.Ddef

variable {α β : Type}

/-- Whether the first of some tokens is a certain one. -/
def Starts (lexeme : Lexeme) (tokens : List Token) : Prop :=
  tokens.head?.map (·.lexeme) = some lexeme

@[simp] theorem starts_nil (lexeme : Lexeme) : ¬ Starts lexeme [] := by simp [Starts]

@[simp] theorem starts_cons (lexeme : Lexeme) (token : Token) (rest : List Token) :
    Starts lexeme (token :: rest) ↔ token.lexeme = lexeme := by simp [Starts]

theorem Starts.not_starts {lexeme other : Lexeme} {tokens : List Token}
    (starts : Starts lexeme tokens) (differ : lexeme ≠ other) : ¬ Starts other tokens := by
  intro starts'
  exact differ (Option.some.inj (starts.symm.trans starts'))

/-! ## Unambiguity -/

/-- A phrase can be told from the tokens behind it when these are of the given
kind. -/
def Delimited (spell : α → List Token) (follows : List Token → Prop) : Prop :=
  ∀ left right after behind, follows after → follows behind →
    spell left ++ after = spell right ++ behind → left = right ∧ after = behind

namespace Delimited

variable {spell : α → List Token} {follows : List Token → Prop}

/-- Repeated phrases are delimited by what does not start another one. -/
theorem many (item : Delimited spell follows) (stops : List Token → Prop)
    (opens : ∀ phrase rest, ¬ stops (spell phrase ++ rest))
    (goesOn : ∀ phrase rest, follows (spell phrase ++ rest))
    (ends : ∀ rest, stops rest → follows rest) :
    Delimited (fun phrases : List α => phrases.flatMap spell) stops := by
  have followed : ∀ (phrases : List α) rest, stops rest →
      follows (phrases.flatMap spell ++ rest) := by
    intro phrases rest stopped
    cases phrases with
    | nil => exact ends rest stopped
    | cons phrase phrases =>
        rw [List.flatMap_cons, List.append_assoc]
        exact goesOn phrase _
  intro left
  induction left with
  | nil =>
      intro right after behind stoppedLeft stoppedRight equal
      cases right with
      | nil => exact ⟨rfl, equal⟩
      | cons phrase phrases =>
          simp only [List.flatMap_nil, List.nil_append, List.flatMap_cons,
            List.append_assoc] at equal
          exact absurd (equal ▸ stoppedLeft) (opens phrase _)
  | cons first firsts ih =>
      intro right after behind stoppedLeft stoppedRight equal
      cases right with
      | nil =>
          simp only [List.flatMap_nil, List.nil_append, List.flatMap_cons,
            List.append_assoc] at equal
          exact absurd (equal ▸ stoppedRight) (opens first _)
      | cons phrase phrases =>
          simp only [List.flatMap_cons, List.append_assoc] at equal
          obtain ⟨rfl, rests⟩ := item first phrase _ _
            (followed firsts after stoppedLeft) (followed phrases behind stoppedRight) equal
          rcases ih phrases after behind stoppedLeft stoppedRight rests with ⟨rfl, rfl⟩
          exact ⟨rfl, rfl⟩

/-- A list of phrases between marks is delimited by what is neither a mark nor
continues the last phrase. -/
theorem separated {mark : Symbol} (item : Delimited spell follows)
    (marked : ∀ pos rest, follows (⟨.symbol mark, pos⟩ :: rest)) :
    Delimited (Separated.tokens mark spell)
      (fun rest => follows rest ∧ ¬ Starts (.symbol mark) rest) := by
  have next : Delimited (Separated.nextTokens mark spell) follows := by
    rintro ⟨leftPos, left⟩ ⟨rightPos, right⟩ after behind followsLeft followsRight equal
    simp only [Separated.nextTokens, List.cons_append, List.cons.injEq, Token.mk.injEq,
      true_and] at equal
    rcases item left right after behind followsLeft followsRight equal.2 with ⟨rfl, rfl⟩
    exact ⟨by rw [equal.1], rfl⟩
  have tail := next.many (fun rest => follows rest ∧ ¬ Starts (.symbol mark) rest)
    (fun phrase rest => by simp [Separated.nextTokens])
    (fun phrase rest => marked phrase.1 _) (fun rest stopped => stopped.1)
  have followed : ∀ (phrases : List (Position × α)) rest, follows rest →
      follows (phrases.flatMap (Separated.nextTokens mark spell) ++ rest) := by
    intro phrases rest stopped
    cases phrases with
    | nil => exact stopped
    | cons phrase phrases => exact marked phrase.1 _
  rintro ⟨left, lefts⟩ ⟨right, rights⟩ after behind followsLeft followsRight equal
  simp only [Separated.tokens, List.append_assoc] at equal
  obtain ⟨rfl, rests⟩ := item left right _ _ (followed lefts after followsLeft.1)
    (followed rights behind followsRight.1) equal
  rcases tail lefts rights after behind followsLeft followsRight rests with ⟨rfl, rfl⟩
  exact ⟨rfl, rfl⟩

end Delimited

theorem NamePhrase.delimited :
    Delimited (fun name : NamePhrase => [name.token]) (fun _ => True) := by
  rintro ⟨left, leftPos⟩ ⟨right, rightPos⟩ after behind _ _ equal
  simpa [NamePhrase.token, and_assoc] using equal

theorem QualifiedPhrase.delimited :
    Delimited QualifiedPhrase.tokens (fun rest => ¬ Starts (.symbol .dot) rest) := by
  intro left right after behind stopsLeft stopsRight equal
  exact NamePhrase.delimited.separated (fun _ _ => trivial) left right after behind
    ⟨trivial, stopsLeft⟩ ⟨trivial, stopsRight⟩ equal

/-- The members of a union end where neither a dot nor a bar follows. -/
theorem members_delimited :
    Delimited (Separated.tokens .bar QualifiedPhrase.tokens)
      (fun rest => ¬ Starts (.symbol .dot) rest ∧ ¬ Starts (.symbol .bar) rest) :=
  QualifiedPhrase.delimited.separated fun _ _ => by simp

/-- What cannot continue an element: the end of the source, another element, or
the end of a package. -/
def Closed (rest : List Token) : Prop :=
  ¬ Starts (.symbol .dot) rest ∧ ¬ Starts (.symbol .bar) rest ∧ ¬ Starts (.symbol .equals) rest

theorem DataTypePhrase.delimited : Delimited DataTypePhrase.tokens Closed := by
  rintro ⟨leftPos, ⟨leftName, leftNamePos⟩, left⟩ ⟨rightPos, ⟨rightName, rightNamePos⟩, right⟩
    after behind closedLeft closedRight equal
  simp only [DataTypePhrase.tokens, NamePhrase.token, List.cons_append, List.cons.injEq,
    Token.mk.injEq, Lexeme.name.injEq, true_and] at equal
  rcases equal with ⟨rfl, ⟨rfl, rfl⟩, equal⟩
  cases left with
  | none =>
      cases right with
      | none => exact ⟨rfl, equal⟩
      | some right =>
          subst equal
          simp [Closed, DataTypePhrase.unionTokens] at closedLeft
  | some left =>
      cases right with
      | none =>
          subst equal
          simp [Closed, DataTypePhrase.unionTokens] at closedRight
      | some right =>
          rcases left with ⟨leftEquals, left⟩
          rcases right with ⟨rightEquals, right⟩
          simp only [Option.elim_some, DataTypePhrase.unionTokens, List.cons_append,
            List.cons.injEq, Token.mk.injEq, true_and] at equal
          rcases equal with ⟨rfl, equal⟩
          obtain ⟨rfl, rfl⟩ := members_delimited left right after behind
            ⟨closedLeft.1, closedLeft.2.1⟩ ⟨closedRight.1, closedRight.2.1⟩ equal
          exact ⟨rfl, rfl⟩

/-- Modifiers end at a name. -/
theorem ModifiersPhrase.delimited :
    Delimited ModifiersPhrase.tokens (fun rest => ∃ text, Starts (.name text) rest) := by
  have marks : Delimited (fun mark => [Modifier.token mark]) (fun _ => True) := by
    rintro ⟨left, leftPos⟩ ⟨right, rightPos⟩ after behind _ _ equal
    cases left <;> cases right <;> simp_all [Modifier.token, Modifier.keyword]
  have all := marks.many (fun rest => ∃ text, Starts (.name text) rest)
    (fun mark rest => by simp [Modifier.token]) (fun _ _ => trivial) (fun _ _ => trivial)
  rintro ⟨left, _⟩ ⟨right, _⟩ after behind stopsLeft stopsRight equal
  simp only [ModifiersPhrase.tokens, List.map_eq_flatMap] at equal
  rcases all left right after behind stopsLeft stopsRight equal with ⟨rfl, rfl⟩
  exact ⟨rfl, rfl⟩

theorem FeaturePhrase.delimited :
    Delimited FeaturePhrase.tokens (fun rest => ¬ Starts (.symbol .dot) rest) := by
  rintro ⟨leftModifiers, ⟨leftName, leftPos⟩, leftColon, left⟩
    ⟨rightModifiers, ⟨rightName, rightPos⟩, rightColon, right⟩
    after behind stopsLeft stopsRight equal
  simp only [FeaturePhrase.tokens, List.append_assoc] at equal
  obtain ⟨rfl, rests⟩ := ModifiersPhrase.delimited leftModifiers rightModifiers _ _
    ⟨leftName, by simp [NamePhrase.token]⟩ ⟨rightName, by simp [NamePhrase.token]⟩ equal
  simp only [NamePhrase.token, List.cons_append, List.cons.injEq, Token.mk.injEq,
    Lexeme.name.injEq, true_and] at rests
  rcases rests with ⟨⟨rfl, rfl⟩, rfl, rests⟩
  rcases QualifiedPhrase.delimited left right after behind stopsLeft stopsRight rests with
    ⟨rfl, rfl⟩
  exact ⟨rfl, rfl⟩

/-- A feature starts with a keyword or a name, never with a symbol. -/
theorem FeaturePhrase.not_starts_symbol (phrase : FeaturePhrase) (mark : Symbol)
    (rest : List Token) : ¬ Starts (.symbol mark) (phrase.tokens ++ rest) := by
  rcases phrase with ⟨⟨marks, _⟩, name, colon, type⟩
  cases marks <;>
    simp [FeaturePhrase.tokens, ModifiersPhrase.tokens, Modifier.token, NamePhrase.token]

/-- The features of an entity end at its closing brace. -/
theorem features_delimited :
    Delimited (fun features : List FeaturePhrase => features.flatMap (·.tokens))
      (Starts (.symbol .closeBrace)) :=
  FeaturePhrase.delimited.many _
    (fun phrase rest => phrase.not_starts_symbol .closeBrace rest)
    (fun phrase rest => phrase.not_starts_symbol .dot rest)
    (fun _ closed => closed.not_starts (by simp))

theorem EntityPhrase.delimited : Delimited EntityPhrase.tokens (fun _ => True) := by
  rintro ⟨leftPos, ⟨leftName, leftNamePos⟩, leftSuper, leftOpening, left, leftClosing⟩
    ⟨rightPos, ⟨rightName, rightNamePos⟩, rightSuper, rightOpening, right, rightClosing⟩
    after behind _ _ equal
  simp only [EntityPhrase.tokens, NamePhrase.token, List.cons_append, List.append_assoc,
    List.nil_append, List.cons.injEq, Token.mk.injEq, Lexeme.name.injEq, true_and] at equal
  rcases equal with ⟨rfl, ⟨rfl, rfl⟩, equal⟩
  -- The supertypes agree because neither a keyword nor a dot can open the body.
  have supers : leftSuper = rightSuper := by
    cases leftSuper <;> cases rightSuper
    case none.none => rfl
    case none.some => simp [EntityPhrase.superTokens] at equal
    case some.none => simp [EntityPhrase.superTokens] at equal
    case some.some leftSuper rightSuper =>
      rcases leftSuper with ⟨leftExtends, leftType⟩
      rcases rightSuper with ⟨rightExtends, rightType⟩
      simp only [Option.elim_some, EntityPhrase.superTokens, List.cons_append,
        List.cons.injEq, Token.mk.injEq, true_and] at equal
      rcases equal with ⟨rfl, equal⟩
      obtain ⟨rfl, -⟩ := QualifiedPhrase.delimited leftType rightType _ _
        (by simp) (by simp) equal
      rfl
  subst supers
  have bodies := List.append_cancel_left equal
  simp only [List.cons.injEq, Token.mk.injEq, true_and] at bodies
  rcases bodies with ⟨rfl, bodies⟩
  rcases features_delimited left right _ _ (by simp) (by simp) bodies with ⟨rfl, ends⟩
  simp only [List.cons.injEq, Token.mk.injEq, true_and] at ends
  rcases ends with ⟨rfl, rfl⟩
  exact ⟨rfl, rfl⟩

/-- What does not go on with a comma and a name. -/
def EndsLiterals (rest : List Token) : Prop :=
  ∀ (next : Position × NamePhrase) (more : List Token),
    rest ≠ Separated.nextTokens .comma (fun name => [name.token]) next ++ more

/-- A comma in front of a closing brace is not followed by a name. -/
theorem endsLiterals_trailing (trailing : Option Position) (rest : List Token)
    (closed : Starts (.symbol .closeBrace) rest) :
    EndsLiterals (trailing.toList.map (fun pos => (⟨.symbol .comma, pos⟩ : Token)) ++ rest) := by
  intro next more equal
  cases trailing with
  | none =>
      rw [show rest = _ from equal] at closed
      simp [Separated.nextTokens] at closed
  | some pos =>
      simp only [Option.toList_some, List.map_cons, List.map_nil, List.cons_append,
        List.nil_append, Separated.nextTokens, List.cons.injEq] at equal
      rw [equal.2] at closed
      simp [NamePhrase.token] at closed

/-- Literals end at the closing brace.  A comma belongs to the list when a name
follows it, and is the trailing one otherwise. -/
theorem LiteralsPhrase.delimited :
    Delimited LiteralsPhrase.tokens (Starts (.symbol .closeBrace)) := by
  have item : Delimited (Separated.nextTokens .comma fun name : NamePhrase => [name.token])
      (fun _ => True) := by
    rintro ⟨leftPos, left⟩ ⟨rightPos, right⟩ after behind _ _ equal
    simp only [Separated.nextTokens, List.cons_append, List.nil_append, List.cons.injEq,
      Token.mk.injEq, true_and] at equal
    obtain ⟨rfl, rfl⟩ := NamePhrase.delimited left right after behind trivial trivial
      (by simpa using equal.2)
    exact ⟨by rw [equal.1], rfl⟩
  have tail := item.many EndsLiterals
    (fun next rest stopped => stopped next rest rfl) (fun _ _ => trivial) (fun _ _ => trivial)
  rintro ⟨⟨⟨leftName, leftPos⟩, left⟩, leftTrailing⟩
    ⟨⟨⟨rightName, rightPos⟩, right⟩, rightTrailing⟩ after behind closedLeft closedRight equal
  simp only [LiteralsPhrase.tokens, Separated.tokens, NamePhrase.token, List.cons_append,
    List.nil_append, List.append_assoc, List.cons.injEq, Token.mk.injEq, Lexeme.name.injEq]
    at equal
  rcases equal with ⟨⟨rfl, rfl⟩, equal⟩
  obtain ⟨rfl, ends⟩ := tail left right _ _ (endsLiterals_trailing leftTrailing after closedLeft)
    (endsLiterals_trailing rightTrailing behind closedRight) equal
  cases leftTrailing <;> cases rightTrailing
  case none.none => exact ⟨rfl, by simpa using ends⟩
  case none.some =>
    rw [show after = _ from ends] at closedLeft
    simp at closedLeft
  case some.none =>
    rw [show behind = _ from ends.symm] at closedRight
    simp at closedRight
  case some.some =>
    simp only [Option.toList_some, List.map_cons, List.map_nil, List.cons_append,
      List.nil_append, List.cons.injEq, Token.mk.injEq, true_and] at ends
    rcases ends with ⟨rfl, rfl⟩
    exact ⟨rfl, rfl⟩

theorem EnumPhrase.delimited : Delimited EnumPhrase.tokens (fun _ => True) := by
  rintro ⟨leftPos, ⟨leftName, leftNamePos⟩, leftOpening, left, leftClosing⟩
    ⟨rightPos, ⟨rightName, rightNamePos⟩, rightOpening, right, rightClosing⟩
    after behind _ _ equal
  simp only [EnumPhrase.tokens, NamePhrase.token, List.cons_append, List.append_assoc,
    List.nil_append, List.cons.injEq, Token.mk.injEq, Lexeme.name.injEq, true_and] at equal
  rcases equal with ⟨rfl, ⟨rfl, rfl⟩, rfl, equal⟩
  have literals : left = right := by
    cases left <;> cases right
    case none.none => rfl
    case none.some =>
      simp [LiteralsPhrase.tokens, Separated.tokens, NamePhrase.token] at equal
    case some.none =>
      simp [LiteralsPhrase.tokens, Separated.tokens, NamePhrase.token] at equal
    case some.some left right =>
      rcases LiteralsPhrase.delimited left right _ _ (by simp) (by simp) equal with ⟨rfl, -⟩
      rfl
  subst literals
  have ends := List.append_cancel_left equal
  simp only [List.cons.injEq, Token.mk.injEq, true_and] at ends
  rcases ends with ⟨rfl, rfl⟩
  exact ⟨rfl, rfl⟩

/-- Every element starts with a keyword. -/
theorem ElementPhrase.starts_keyword (phrase : ElementPhrase) (rest : List Token) :
    ∃ word, Starts (.keyword word) (phrase.tokens ++ rest) := by
  cases phrase with
  | package => exact ⟨.package, by simp [ElementPhrase.tokens]⟩
  | dataType => exact ⟨.datatype, by simp [ElementPhrase.tokens, DataTypePhrase.tokens]⟩
  | entity => exact ⟨.entity, by simp [ElementPhrase.tokens, EntityPhrase.tokens]⟩
  | enum => exact ⟨.enum, by simp [ElementPhrase.tokens, EnumPhrase.tokens]⟩

/-- Where a list of elements ends: at the end of the source or of a package. -/
def Ended (rest : List Token) : Prop := rest = [] ∨ Starts (.symbol .closeBrace) rest

theorem Ended.closed {rest : List Token} (ended : Ended rest) : Closed rest := by
  rcases ended with rfl | closing
  · simp [Closed]
  · exact ⟨closing.not_starts (by simp), closing.not_starts (by simp),
      closing.not_starts (by simp)⟩

theorem closed_of_starts_keyword {rest : List Token} {word : Keyword}
    (starts : Starts (.keyword word) rest) : Closed rest :=
  ⟨starts.not_starts (by simp), starts.not_starts (by simp), starts.not_starts (by simp)⟩

theorem not_ended_of_starts_keyword {rest : List Token} {word : Keyword}
    (starts : Starts (.keyword word) rest) : ¬ Ended rest := by
  rintro (rfl | closing)
  · exact starts_nil _ starts
  · exact starts.not_starts (by simp) closing

/-- What follows an element in a list of them cannot continue it. -/
theorem closed_tokensOf (phrases : List ElementPhrase) (rest : List Token)
    (closed : Closed rest) : Closed (tokensOf phrases ++ rest) := by
  cases phrases with
  | nil => exact closed
  | cons phrase phrases =>
      rw [tokensOf, List.append_assoc]
      rcases phrase.starts_keyword (tokensOf phrases ++ rest) with ⟨word, starts⟩
      exact closed_of_starts_keyword starts

mutual

theorem ElementPhrase.delimited (left right : ElementPhrase) (after behind : List Token)
    (closedLeft : Closed after) (closedRight : Closed behind)
    (equal : left.tokens ++ after = right.tokens ++ behind) :
    left = right ∧ after = behind := by
  cases left with
  | package leftPos leftName leftOpening lefts leftClosing =>
      cases right with
      | package rightPos rightName rightOpening rights rightClosing =>
          simp only [ElementPhrase.tokens, List.cons_append, List.append_assoc,
            List.nil_append, List.cons.injEq, Token.mk.injEq, true_and] at equal
          rcases equal with ⟨rfl, equal⟩
          obtain ⟨rfl, bodies⟩ := QualifiedPhrase.delimited leftName rightName _ _
            (by simp) (by simp) equal
          simp only [List.cons.injEq, Token.mk.injEq, true_and] at bodies
          rcases bodies with ⟨rfl, bodies⟩
          obtain ⟨rfl, ends⟩ := tokensOf_delimited lefts rights _ _
            (.inr (by simp)) (.inr (by simp)) bodies
          simp only [List.cons.injEq, Token.mk.injEq, true_and] at ends
          rcases ends with ⟨rfl, rfl⟩
          exact ⟨rfl, rfl⟩
      | dataType | entity | enum =>
          simp [ElementPhrase.tokens, DataTypePhrase.tokens, EntityPhrase.tokens,
            EnumPhrase.tokens] at equal
  | dataType left =>
      cases right with
      | dataType right =>
          obtain ⟨rfl, rfl⟩ := DataTypePhrase.delimited left right after behind
            closedLeft closedRight equal
          exact ⟨rfl, rfl⟩
      | package | entity | enum =>
          simp [ElementPhrase.tokens, DataTypePhrase.tokens, EntityPhrase.tokens,
            EnumPhrase.tokens] at equal
  | entity left =>
      cases right with
      | entity right =>
          obtain ⟨rfl, rfl⟩ := EntityPhrase.delimited left right after behind
            trivial trivial equal
          exact ⟨rfl, rfl⟩
      | package | dataType | enum =>
          simp [ElementPhrase.tokens, DataTypePhrase.tokens, EntityPhrase.tokens,
            EnumPhrase.tokens] at equal
  | enum left =>
      cases right with
      | enum right =>
          obtain ⟨rfl, rfl⟩ := EnumPhrase.delimited left right after behind
            trivial trivial equal
          exact ⟨rfl, rfl⟩
      | package | dataType | entity =>
          simp [ElementPhrase.tokens, DataTypePhrase.tokens, EntityPhrase.tokens,
            EnumPhrase.tokens] at equal

theorem tokensOf_delimited (lefts rights : List ElementPhrase) (after behind : List Token)
    (endedLeft : Ended after) (endedRight : Ended behind)
    (equal : tokensOf lefts ++ after = tokensOf rights ++ behind) :
    lefts = rights ∧ after = behind := by
  cases lefts with
  | nil =>
      cases rights with
      | nil => exact ⟨rfl, equal⟩
      | cons right rights =>
          rw [tokensOf, tokensOf, List.nil_append, List.append_assoc] at equal
          rcases right.starts_keyword (tokensOf rights ++ behind) with ⟨word, starts⟩
          exact absurd (equal ▸ endedLeft) (not_ended_of_starts_keyword starts)
  | cons left lefts =>
      cases rights with
      | nil =>
          rw [tokensOf, tokensOf, List.nil_append, List.append_assoc] at equal
          rcases left.starts_keyword (tokensOf lefts ++ after) with ⟨word, starts⟩
          exact absurd (equal ▸ endedRight) (not_ended_of_starts_keyword starts)
      | cons right rights =>
          rw [tokensOf, tokensOf, List.append_assoc, List.append_assoc] at equal
          obtain ⟨rfl, rests⟩ := left.delimited right _ _
            (closed_tokensOf lefts after endedLeft.closed)
            (closed_tokensOf rights behind endedRight.closed) equal
          obtain ⟨rfl, rfl⟩ := tokensOf_delimited lefts rights after behind
            endedLeft endedRight rests
          exact ⟨rfl, rfl⟩

end

/-- Two documents with the same tokens are the same. -/
theorem tokensOf_injective : Function.Injective tokensOf := by
  intro left right equal
  exact (tokensOf_delimited left right [] [] (.inl rfl) (.inl rfl) (by simpa using equal)).1

/-! ## Places -/

/-- Tokens that read like those of a phrase are, whatever their places, those of
some phrase of the same kind. -/
def Placeless (spell : α → List Token) : Prop :=
  ∀ phrase tokens, tokens.map (·.lexeme) = (spell phrase).map (·.lexeme) →
    ∃ other, spell other = tokens

theorem exists_token_of_map_eq_cons {tokens : List Token} {lexeme : Lexeme}
    {lexemes : List Lexeme} (equal : tokens.map (·.lexeme) = lexeme :: lexemes) :
    ∃ pos rest, tokens = ⟨lexeme, pos⟩ :: rest ∧ rest.map (·.lexeme) = lexemes := by
  rcases List.map_eq_cons_iff.mp equal with ⟨⟨_, pos⟩, rest, rfl, rfl, more⟩
  exact ⟨pos, rest, rfl, more⟩

namespace Placeless

variable {spell : α → List Token}

/-- The part of some tokens that reads like a phrase, and the part behind it. -/
theorem split (placeless : Placeless spell) {phrase : α} {tokens : List Token}
    {lexemes : List Lexeme}
    (equal : tokens.map (·.lexeme) = (spell phrase).map (·.lexeme) ++ lexemes) :
    ∃ other rest, tokens = spell other ++ rest ∧ rest.map (·.lexeme) = lexemes := by
  rcases List.map_eq_append_iff.mp equal with ⟨front, rest, rfl, same, more⟩
  rcases placeless phrase front same with ⟨other, rfl⟩
  exact ⟨other, rest, rfl, more⟩

theorem many (placeless : Placeless spell) :
    Placeless (fun phrases : List α => phrases.flatMap spell) := by
  intro phrases
  induction phrases with
  | nil =>
      intro tokens equal
      simp only [List.flatMap_nil, List.map_nil, List.map_eq_nil_iff] at equal
      exact ⟨[], equal.symm⟩
  | cons phrase phrases ih =>
      intro tokens equal
      simp only [List.flatMap_cons, List.map_append] at equal
      rcases placeless.split equal with ⟨other, rest, rfl, more⟩
      rcases ih rest more with ⟨others, rfl⟩
      exact ⟨other :: others, List.flatMap_cons⟩

theorem separated (placeless : Placeless spell) (mark : Symbol) :
    Placeless (Separated.tokens mark spell) := by
  have next : Placeless (Separated.nextTokens mark spell) := by
    rintro ⟨_, phrase⟩ tokens equal
    rcases exists_token_of_map_eq_cons equal with ⟨pos, rest, rfl, more⟩
    rcases placeless phrase rest more with ⟨other, rfl⟩
    exact ⟨(pos, other), rfl⟩
  rintro ⟨first, rest⟩ tokens equal
  simp only [Separated.tokens, List.map_append] at equal
  rcases placeless.split equal with ⟨other, back, rfl, more⟩
  rcases next.many rest back more with ⟨others, rfl⟩
  exact ⟨⟨other, others⟩, rfl⟩

theorem optional (placeless : Placeless spell) :
    Placeless (fun phrase : Option α => phrase.elim [] spell) := by
  intro phrase tokens equal
  cases phrase with
  | none => exact ⟨none, (List.map_eq_nil_iff.mp equal).symm⟩
  | some phrase =>
      rcases placeless phrase tokens equal with ⟨other, rfl⟩
      exact ⟨some other, rfl⟩

end Placeless

theorem NamePhrase.placeless : Placeless (fun name : NamePhrase => [name.token]) := by
  rintro ⟨text, _⟩ tokens equal
  rcases exists_token_of_map_eq_cons equal with ⟨pos, rest, rfl, more⟩
  rcases List.map_eq_nil_iff.mp more with rfl
  exact ⟨⟨text, pos⟩, rfl⟩

theorem QualifiedPhrase.placeless : Placeless QualifiedPhrase.tokens :=
  NamePhrase.placeless.separated .dot

theorem DataTypePhrase.placeless : Placeless DataTypePhrase.tokens := by
  have union : Placeless DataTypePhrase.unionTokens := by
    rintro ⟨_, members⟩ tokens equal
    rcases exists_token_of_map_eq_cons equal with ⟨pos, rest, rfl, afterKeyword⟩
    rcases (QualifiedPhrase.placeless.separated .bar) members rest afterKeyword with ⟨others, rfl⟩
    exact ⟨(pos, others), rfl⟩
  rintro ⟨_, ⟨name, _⟩, members⟩ tokens equal
  rcases exists_token_of_map_eq_cons equal with ⟨pos, rest, rfl, afterKeyword⟩
  rcases exists_token_of_map_eq_cons afterKeyword with ⟨namePos, rest, rfl, afterName⟩
  rcases union.optional members rest afterName with ⟨others, rfl⟩
  exact ⟨⟨pos, ⟨name, namePos⟩, others⟩, rfl⟩

theorem ModifiersPhrase.placeless : Placeless ModifiersPhrase.tokens := by
  have marks : ∀ (marks : List (Modifier × Position)) (tokens : List Token),
      tokens.map (·.lexeme) = (marks.map Modifier.token).map (·.lexeme) →
        ∃ others : List (Modifier × Position),
          others.map (·.1) = marks.map (·.1) ∧ others.map Modifier.token = tokens := by
    intro marks
    induction marks with
    | nil =>
        intro tokens equal
        exact ⟨[], rfl, (List.map_eq_nil_iff.mp equal).symm⟩
    | cons mark marks ih =>
        intro tokens equal
        rcases exists_token_of_map_eq_cons equal with ⟨pos, rest, rfl, afterKeyword⟩
        rcases ih rest afterKeyword with ⟨others, same, rfl⟩
        exact ⟨(mark.1, pos) :: others, by simp [same], rfl⟩
  rintro ⟨given, distinct⟩ tokens equal
  rcases marks given tokens equal with ⟨others, same, rfl⟩
  exact ⟨⟨others, same ▸ distinct⟩, rfl⟩

theorem FeaturePhrase.placeless : Placeless FeaturePhrase.tokens := by
  rintro ⟨modifiers, ⟨name, _⟩, _, type⟩ tokens equal
  simp only [FeaturePhrase.tokens, List.map_append] at equal
  rcases ModifiersPhrase.placeless.split equal with ⟨marks, rest, rfl, afterMarks⟩
  rcases exists_token_of_map_eq_cons afterMarks with ⟨namePos, rest, rfl, afterName⟩
  rcases exists_token_of_map_eq_cons afterName with ⟨colon, rest, rfl, afterColon⟩
  rcases QualifiedPhrase.placeless type rest afterColon with ⟨other, rfl⟩
  exact ⟨⟨marks, ⟨name, namePos⟩, colon, other⟩, rfl⟩

theorem EntityPhrase.placeless : Placeless EntityPhrase.tokens := by
  have super : Placeless EntityPhrase.superTokens := by
    rintro ⟨_, type⟩ tokens equal
    rcases exists_token_of_map_eq_cons equal with ⟨pos, rest, rfl, afterKeyword⟩
    rcases QualifiedPhrase.placeless type rest afterKeyword with ⟨other, rfl⟩
    exact ⟨(pos, other), rfl⟩
  rintro ⟨_, ⟨name, _⟩, supertype, _, features, _⟩ tokens equal
  simp only [EntityPhrase.tokens, List.map_cons, List.map_append] at equal
  rcases exists_token_of_map_eq_cons equal with ⟨pos, rest, rfl, afterKeyword⟩
  rcases exists_token_of_map_eq_cons afterKeyword with ⟨namePos, rest, rfl, afterName⟩
  rcases super.optional.split afterName with ⟨other, rest, rfl, afterType⟩
  rcases exists_token_of_map_eq_cons afterType with ⟨opening, rest, rfl, afterOpening⟩
  rcases FeaturePhrase.placeless.many.split afterOpening with ⟨others, rest, rfl, afterItems⟩
  rcases exists_token_of_map_eq_cons afterItems with ⟨closing, rest, rfl, afterClosing⟩
  rcases List.map_eq_nil_iff.mp afterClosing with rfl
  exact ⟨⟨pos, ⟨name, namePos⟩, other, opening, others, closing⟩, rfl⟩

theorem LiteralsPhrase.placeless : Placeless LiteralsPhrase.tokens := by
  rintro ⟨names, trailing⟩ tokens equal
  simp only [LiteralsPhrase.tokens, List.map_append] at equal
  rcases (NamePhrase.placeless.separated .comma).split equal with ⟨others, rest, rfl, afterItems⟩
  cases trailing with
  | none =>
      rcases List.map_eq_nil_iff.mp afterItems with rfl
      exact ⟨⟨others, none⟩, rfl⟩
  | some =>
      rcases exists_token_of_map_eq_cons afterItems with ⟨pos, rest, rfl, afterKeyword⟩
      rcases List.map_eq_nil_iff.mp afterKeyword with rfl
      exact ⟨⟨others, some pos⟩, rfl⟩

theorem EnumPhrase.placeless : Placeless EnumPhrase.tokens := by
  rintro ⟨_, ⟨name, _⟩, _, literals, _⟩ tokens equal
  simp only [EnumPhrase.tokens, List.map_cons, List.map_append] at equal
  rcases exists_token_of_map_eq_cons equal with ⟨pos, rest, rfl, afterKeyword⟩
  rcases exists_token_of_map_eq_cons afterKeyword with ⟨namePos, rest, rfl, afterName⟩
  rcases exists_token_of_map_eq_cons afterName with ⟨opening, rest, rfl, afterOpening⟩
  rcases LiteralsPhrase.placeless.optional.split afterOpening with ⟨others, rest, rfl, afterItems⟩
  rcases exists_token_of_map_eq_cons afterItems with ⟨closing, rest, rfl, afterClosing⟩
  rcases List.map_eq_nil_iff.mp afterClosing with rfl
  exact ⟨⟨pos, ⟨name, namePos⟩, opening, others, closing⟩, rfl⟩

mutual

theorem ElementPhrase.exists_tokens_eq (phrase : ElementPhrase) (tokens : List Token)
    (equal : tokens.map (·.lexeme) = phrase.tokens.map (·.lexeme)) :
    ∃ other : ElementPhrase, other.tokens = tokens := by
  cases phrase with
  | package _ name _ elements _ =>
      simp only [ElementPhrase.tokens, List.map_cons, List.map_append] at equal
      rcases exists_token_of_map_eq_cons equal with ⟨pos, rest, rfl, afterKeyword⟩
      rcases QualifiedPhrase.placeless.split afterKeyword with ⟨other, rest, rfl, afterType⟩
      rcases exists_token_of_map_eq_cons afterType with ⟨opening, rest, rfl, afterOpening⟩
      rcases List.map_eq_append_iff.mp afterOpening with ⟨inner, rest, rfl, same, afterInner⟩
      rcases exists_tokensOf_eq elements inner same with ⟨others, rfl⟩
      rcases exists_token_of_map_eq_cons afterInner with ⟨closing, rest, rfl, afterClosing⟩
      rcases List.map_eq_nil_iff.mp afterClosing with rfl
      exact ⟨.package pos other opening others closing, by rw [ElementPhrase.tokens]⟩
  | dataType phrase =>
      rcases DataTypePhrase.placeless phrase tokens equal with ⟨other, rfl⟩
      exact ⟨.dataType other, by rw [ElementPhrase.tokens]⟩
  | entity phrase =>
      rcases EntityPhrase.placeless phrase tokens equal with ⟨other, rfl⟩
      exact ⟨.entity other, by rw [ElementPhrase.tokens]⟩
  | enum phrase =>
      rcases EnumPhrase.placeless phrase tokens equal with ⟨other, rfl⟩
      exact ⟨.enum other, by rw [ElementPhrase.tokens]⟩

/-- Tokens that read like those of a document are those of a document. -/
theorem exists_tokensOf_eq (phrases : List ElementPhrase) (tokens : List Token)
    (equal : tokens.map (·.lexeme) = (tokensOf phrases).map (·.lexeme)) :
    ∃ others : List ElementPhrase, tokensOf others = tokens := by
  cases phrases with
  | nil => exact ⟨[], (List.map_eq_nil_iff.mp equal).symm⟩
  | cons phrase phrases =>
      simp only [tokensOf, List.map_append] at equal
      rcases List.map_eq_append_iff.mp equal with ⟨front, rest, rfl, same, more⟩
      rcases phrase.exists_tokens_eq front same with ⟨other, rfl⟩
      rcases exists_tokensOf_eq phrases rest more with ⟨others, rfl⟩
      exact ⟨other :: others, by rw [tokensOf]⟩

end

end DomainGen.Ddef
