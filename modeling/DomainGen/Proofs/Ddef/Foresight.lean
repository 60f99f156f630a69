import DomainGen.Proofs.Ddef.Lookahead

/-!
# Reading phrases with foresight

Rule by rule of the grammar: the function that reads a phrase takes phrases or beginnings of
phrases, and it decides by the next token alone (`foresees_…`).  The tokens of the phrases
are described as languages, by concatenation and union, and each rule says that what its
parts spell is spelled by it.
-/

namespace DomainGen.Ddef

variable (finish : Position) (role : NameRole) (tokens : List Token)

theorem exists_mem_mul {phrases further : Language Token} (one : ∃ more, more ∈ phrases)
    (two : ∃ more, more ∈ further) : ∃ more, more ∈ phrases * further := by
  obtain ⟨front, phrase⟩ := one
  obtain ⟨back, phraseBack⟩ := two
  exact ⟨front ++ back, Language.mem_mul.mpr ⟨front, phrase, back, phraseBack, rfl⟩⟩

/-! ## Names and symbols -/

theorem exists_mem_namePhrases : ∃ more, more ∈ namePhrases := ⟨_, mem_spelled _ ⟨"", {}⟩⟩

theorem exists_mem_single (lexeme : Lexeme) : ∃ more, more ∈ single lexeme :=
  ⟨_, mem_single lexeme {}⟩

theorem foresees_readName : Foresees finish namePhrases (readName finish role) tokens := by
  have refused : (∀ name rest, tokens ≠ NamePhrase.token name :: rest) →
      Foresees finish namePhrases (readName finish role) tokens := by
    intro noName
    refine (Foresees.refuse exists_mem_namePhrases (.name role) tokens).congr ?_
    intro others ahead
    rw [readName.eq_def]
    split
    · next text pos rest =>
      cases tokens with
      | nil => contradiction
      | cons token behind =>
          cases ahead
          exact absurd rfl (noName ⟨text, pos⟩ behind)
    · rfl
  cases tokens with
  | nil => exact refused nofun
  | cons token rest =>
      obtain ⟨lexeme, pos⟩ := token
      cases lexeme with
      | name text =>
          refine ((Foresees.pure (text, pos) rest).cons fun _ => rfl).mono ?_
          rw [mul_one]
          rintro _ ⟨place, rfl⟩
          exact mem_spelled _ (⟨text, place⟩ : NamePhrase)
      | keyword word => exact refused nofun
      | symbol mark => exact refused nofun

theorem foresees_takeSymbol (mark : Symbol) :
    Foresees finish (single (.symbol mark)) (takeSymbol finish mark) tokens := by
  rw [takeSymbol_eq]
  refine (Foresees.ifNext (fun _ rest _ => .pure () rest)
    fun _ => .refuse (exists_mem_single (.symbol mark)) _ tokens).mono ?_
  rw [mul_one, add_idem]

/-! ## Dotted names -/

/-- The further parts of dotted names. -/
def dottedTails : Language Token :=
  spelled fun parts : List (Position × NamePhrase) =>
    parts.flatMap (Separated.nextTokens .dot fun name => [name.token])

theorem foresees_readDottedTail :
    Foresees finish dottedTails (readDottedTail finish role) tokens := by
  apply Foresees.ofShorter
  intro tokens shorter
  rw [readDottedTail_eq]
  apply Foresees.mono
  · apply Foresees.ifNext
    · intro pos rest parts
      apply (foresees_readName finish role rest).bind
      · intro name taken after _ divided
        apply Foresees.map
        apply shorter
        simp only [parts, divided, List.length_cons, List.length_append]
        omega
      · exact ⟨[], mem_spelled _ []⟩
    · intro _
      exact .pure [] tokens
  · rintro _ (⟨_, ⟨pos, rfl⟩, _, ⟨_, ⟨name, rfl⟩, _, ⟨tail, rfl⟩, rfl⟩, rfl⟩ | rfl)
    · exact mem_spelled _ ((pos, name) :: tail)
    · exact mem_spelled _ []

/-- Dotted names. -/
def qualifiedNames : Language Token := spelled QualifiedPhrase.tokens

theorem exists_mem_qualifiedNames : ∃ more, more ∈ qualifiedNames :=
  ⟨_, mem_spelled _ ⟨⟨"", {}⟩, []⟩⟩

theorem foresees_readQualifiedName :
    Foresees finish qualifiedNames (readQualifiedName finish role) tokens := by
  rw [readQualifiedName_eq]
  refine ((foresees_readName finish role tokens).bind (fun name _ rest _ _ =>
    (foresees_readDottedTail finish role rest).map _) ⟨[], mem_spelled _ []⟩).mono ?_
  rintro _ ⟨_, ⟨name, rfl⟩, _, ⟨tail, rfl⟩, rfl⟩
  exact mem_spelled QualifiedPhrase.tokens ⟨name, tail⟩

theorem foresees_readRef : Foresees finish qualifiedNames (readRef finish role) tokens := by
  rw [readRef_eq]
  exact (foresees_readQualifiedName finish role tokens).map _

/-! ## Datatypes -/

/-- The members of unions. -/
def unionMembers : Language Token := spelled (Separated.tokens .bar QualifiedPhrase.tokens)

theorem foresees_readMembers : Foresees finish unionMembers (readMembers finish) tokens := by
  apply Foresees.ofShorter
  intro tokens shorter
  rw [readMembers_eq]
  apply Foresees.mono
  · apply (foresees_readRef finish .unionMember tokens).bind
    · intro ref taken rest _ parts
      apply Foresees.ifNext
      · intro pos after divided
        apply Foresees.map
        apply shorter
        simp only [parts, divided, List.length_cons, List.length_append]
        omega
      · intro _
        exact .pure [ref] rest
    · exact ⟨[], .inr rfl⟩
  · rintro _ ⟨_, ⟨first, rfl⟩, _, ⟨_, ⟨pos, rfl⟩, _, ⟨members, rfl⟩, rfl⟩ | rfl, rfl⟩
    · exact mem_spelled (Separated.tokens .bar QualifiedPhrase.tokens)
        ⟨first, (pos, members.first) :: members.rest⟩
    · exact mem_spelled (Separated.tokens .bar QualifiedPhrase.tokens) ⟨first, []⟩

theorem foresees_readDataType (pos : Position) :
    Foresees finish (namePhrases * (single (.symbol .equals) * unionMembers + 1))
      (readDataType finish pos) tokens := by
  rw [readDataType_eq]
  apply (foresees_readName finish .datatype tokens).bind
  · intro name taken rest _ _
    apply Foresees.ifNext
    · intro place after _
      apply Foresees.map
      exact foresees_readMembers finish after
    · intro _
      exact .pure _ rest
  · exact ⟨[], .inr rfl⟩

/-! ## Entities -/

theorem foresees_nextPlace : Foresees finish 1 (nextPlace finish) tokens := by
  refine .takes [] tokens (startOf finish tokens) rfl rfl ?_
  intro others ahead
  cases others with
  | nil =>
      rw [List.head?_eq_none_iff.mp ahead.symm]
      rfl
  | cons token rest =>
      cases tokens with
      | nil => contradiction
      | cons first behind =>
          cases ahead
          rfl

theorem foresees_takeModifiers :
    Foresees finish (spelled ModifiersPhrase.tokens) (takeModifiers false false) tokens := by
  -- A modifier that was read is not looked for again, so there are two rounds at most.
  have both : ∀ rest, Foresees finish 1 (takeModifiers true true) rest := by
    intro rest
    rw [takeModifiers_eq]
    exact .pure _ rest
  have afterMany : ∀ rest, Foresees finish (single (.keyword .nonNullable) * 1 + 1)
      (takeModifiers true false) rest := by
    intro rest
    rw [takeModifiers_eq]
    exact .ifNext (fun _ after _ => both after) fun _ => .pure _ rest
  have afterNonNullable : ∀ rest, Foresees finish (single (.keyword .many) * 1 + 1)
      (takeModifiers false true) rest := by
    intro rest
    rw [takeModifiers_eq]
    exact .ifNext (fun _ after _ => both after) fun _ => .pure _ rest
  rw [takeModifiers_eq, if_neg Bool.false_ne_true, if_neg Bool.false_ne_true]
  apply Foresees.mono
  · apply Foresees.ifNext
    · intro _ rest _
      exact afterMany rest
    · intro _
      apply Foresees.ifNext
      · intro _ rest _
        exact afterNonNullable rest
      · intro _
        exact .pure _ tokens
  · rintro _ (⟨_, ⟨first, rfl⟩, _, ⟨_, ⟨second, rfl⟩, _, rfl, rfl⟩ | rfl, rfl⟩ |
      ⟨_, ⟨first, rfl⟩, _, ⟨_, ⟨second, rfl⟩, _, rfl, rfl⟩ | rfl, rfl⟩ | rfl)
    · exact mem_spelled ModifiersPhrase.tokens
        ⟨[(.many, first), (.nonNullable, second)], by simp⟩
    · exact mem_spelled ModifiersPhrase.tokens ⟨[(.many, first)], by simp⟩
    · exact mem_spelled ModifiersPhrase.tokens
        ⟨[(.nonNullable, first), (.many, second)], by simp⟩
    · exact mem_spelled ModifiersPhrase.tokens ⟨[(.nonNullable, first)], by simp⟩
    · exact mem_spelled ModifiersPhrase.tokens ⟨[], by simp⟩

/-- Features. -/
def featurePhrases : Language Token := spelled FeaturePhrase.tokens

theorem foresees_readFeature : Foresees finish featurePhrases (readFeature finish) tokens := by
  have typed := exists_mem_mul (exists_mem_single (.symbol .colon)) exists_mem_qualifiedNames
  have named := exists_mem_mul exists_mem_namePhrases typed
  have marked := exists_mem_mul ⟨_, mem_spelled ModifiersPhrase.tokens ⟨[], List.nodup_nil⟩⟩ named
  rw [readFeature_eq]
  apply Foresees.mono
  · apply (foresees_nextPlace finish tokens).bind
    · intro pos _ rest _ _
      apply (foresees_takeModifiers finish rest).bind
      · intro flags _ rest _ _
        apply Foresees.bind
        · apply Foresees.ifEnd
          · intro _
            exact .refuse exists_mem_namePhrases _ rest
          · intro _
            exact foresees_readName finish .feature rest
        · intro name _ rest _ _
          apply (foresees_takeSymbol finish rest .colon).bind
          · intro _ _ rest _ _
            exact (foresees_readRef finish .featureType rest).map _
          · exact exists_mem_qualifiedNames
        · exact typed
      · exact named
    · exact marked
  · rintro _ ⟨_, rfl, _, ⟨_, ⟨marks, rfl⟩, _, ⟨_, ⟨name, rfl⟩, _, ⟨_, ⟨colon, rfl⟩, _,
      ⟨type, rfl⟩, rfl⟩, rfl⟩, rfl⟩, rfl⟩
    exact mem_spelled FeaturePhrase.tokens ⟨marks, name, colon, type⟩

/-- Features, through the brace behind them. -/
def featureBodies : Language Token :=
  spelled (fun phrases : List FeaturePhrase => phrases.flatMap (·.tokens)) *
    single (.symbol .closeBrace)

theorem exists_mem_featureBodies : ∃ more, more ∈ featureBodies :=
  exists_mem_mul ⟨[], mem_spelled _ []⟩ (exists_mem_single _)

theorem foresees_readFeatures : Foresees finish featureBodies (readFeatures finish) tokens := by
  apply Foresees.ofShorter
  intro tokens shorter
  rw [readFeatures_eq]
  apply Foresees.mono
  · apply Foresees.ifNext
    · intro _ rest _
      exact .pure [] rest
    · intro _
      apply (foresees_readFeature finish tokens).bind
      · intro feature taken rest phrase parts
        apply Foresees.map
        apply shorter
        obtain ⟨⟨marks, name, colon, type⟩, rfl⟩ := phrase
        simp only [parts, FeaturePhrase.tokens, List.length_append, List.length_cons]
        omega
      · exact exists_mem_featureBodies
  · rintro _ (⟨_, closing, _, rfl, rfl⟩ | ⟨_, ⟨phrase, rfl⟩, _, ⟨_, ⟨phrases, rfl⟩, last, closing,
      rfl⟩, rfl⟩)
    · exact Language.mem_mul.mpr ⟨[], mem_spelled _ [], _, closing, (List.append_nil _).symm⟩
    · refine Language.mem_mul.mpr ⟨_, mem_spelled _ (phrase :: phrases), last, closing, ?_⟩
      rw [List.flatMap_cons, List.append_assoc]

theorem foresees_readSupertype :
    Foresees finish (single (.keyword .extending) * qualifiedNames + 1) (readSupertype finish)
      tokens := by
  rw [readSupertype_eq]
  apply Foresees.ifNext
  · intro _ rest _
    exact (foresees_readRef finish .supertype rest).map _
  · intro _
    exact .pure none tokens

/-- Entities without their keyword. -/
def entityBodies : Language Token :=
  namePhrases * ((single (.keyword .extending) * qualifiedNames + 1) *
    (single (.symbol .openBrace) * featureBodies))

theorem foresees_readEntity (pos : Position) :
    Foresees finish entityBodies (readEntity finish pos) tokens := by
  have body := exists_mem_mul (exists_mem_single (.symbol .openBrace)) exists_mem_featureBodies
  rw [readEntity_eq]
  apply (foresees_readName finish .entity tokens).bind
  · intro name _ rest _ _
    apply (foresees_readSupertype finish rest).bind
    · intro super _ rest _ _
      apply (foresees_takeSymbol finish rest .openBrace).bind
      · intro _ _ rest _ _
        exact (foresees_readFeatures finish rest).map _
      · exact exists_mem_featureBodies
    · exact body
  · exact exists_mem_mul ⟨[], .inr rfl⟩ body

/-! ## Enums -/

/-- The literals of enums, through the brace behind them. -/
def literalBodies : Language Token :=
  spelled (fun phrase : Option LiteralsPhrase => phrase.elim [] (·.tokens)) *
    single (.symbol .closeBrace)

theorem exists_mem_literalBodies : ∃ more, more ∈ literalBodies :=
  exists_mem_mul ⟨[], mem_spelled _ none⟩ (exists_mem_single _)

theorem closing_le_literalBodies : single (.symbol .closeBrace) ≤ literalBodies := by
  intro closing brace
  exact Language.mem_mul.mpr ⟨[], mem_spelled _ none, closing, brace, rfl⟩

/-- A comma goes on with literals, or it is the trailing one. -/
theorem comma_le_literalBodies :
    namePhrases * (single (.symbol .comma) * literalBodies) ≤ literalBodies := by
  rintro _ ⟨_, ⟨name, rfl⟩, _, ⟨_, ⟨comma, rfl⟩, _, ⟨_, ⟨phrase, rfl⟩, closing, brace, rfl⟩, rfl⟩,
    rfl⟩
  cases phrase with
  | none =>
      exact Language.mem_mul.mpr
        ⟨_, mem_spelled _ (some ⟨⟨name, []⟩, some comma⟩), closing, brace, rfl⟩
  | some phrase =>
      refine Language.mem_mul.mpr ⟨_, mem_spelled _ (some
        ⟨⟨name, (comma, phrase.names.first) :: phrase.names.rest⟩, phrase.trailing⟩),
        closing, brace, ?_⟩
      simp [LiteralsPhrase.tokens, Separated.tokens, Separated.nextTokens]

theorem last_le_literalBodies :
    namePhrases * single (.symbol .closeBrace) ≤ literalBodies := by
  rintro _ ⟨_, ⟨name, rfl⟩, closing, brace, rfl⟩
  exact Language.mem_mul.mpr ⟨_, mem_spelled _ (some ⟨⟨name, []⟩, none⟩), closing, brace, rfl⟩

theorem foresees_readLiterals : Foresees finish literalBodies (readLiterals finish) tokens := by
  apply Foresees.ofShorter
  intro tokens shorter
  rw [readLiterals_eq]
  apply Foresees.mono
  · apply Foresees.ifNext
    · intro _ rest _
      exact .pure [] rest
    · intro _
      apply (foresees_readName finish .literal tokens).bind
      · intro name taken rest _ parts
        apply Foresees.ifNext
        · intro place after divided
          apply Foresees.map
          apply shorter
          simp only [parts, divided, List.length_append, List.length_cons]
          omega
        · intro _
          apply Foresees.ifNext
          · intro _ after _
            exact .pure _ after
          · intro _
            exact .refuse (exists_mem_single (.symbol .closeBrace)) _ rest
      · exact ⟨_, .inr (.inr (mem_single (.symbol .closeBrace) {}))⟩
  · rw [mul_one, add_idem, mul_add]
    exact sup_le closing_le_literalBodies
      (sup_le comma_le_literalBodies last_le_literalBodies)

/-- Enums without their keyword. -/
def enumBodies : Language Token := namePhrases * (single (.symbol .openBrace) * literalBodies)

theorem foresees_readEnum (pos : Position) :
    Foresees finish enumBodies (readEnum finish pos) tokens := by
  rw [readEnum_eq]
  apply (foresees_readName finish .enum tokens).bind
  · intro name _ rest _ _
    apply (foresees_takeSymbol finish rest .openBrace).bind
    · intro _ _ rest _ _
      exact (foresees_readLiterals finish rest).map _
    · exact exists_mem_literalBodies
  · exact exists_mem_mul (exists_mem_single _) exists_mem_literalBodies

/-! ## Elements -/

/-- Elements. -/
def elementPhrases : Language Token := spelled ElementPhrase.tokens

theorem dataType_le_elementPhrases :
    single (.keyword .datatype) * (namePhrases * (single (.symbol .equals) * unionMembers + 1)) ≤
      elementPhrases := by
  rintro _ ⟨_, ⟨pos, rfl⟩, _, ⟨_, ⟨name, rfl⟩, _, ⟨_, ⟨equals, rfl⟩, _, ⟨members, rfl⟩, rfl⟩ | rfl,
    rfl⟩, rfl⟩
  · exact ⟨.dataType ⟨pos, name, some (equals, members)⟩, by
      simp [ElementPhrase.tokens, DataTypePhrase.tokens, DataTypePhrase.unionTokens]⟩
  · exact ⟨.dataType ⟨pos, name, none⟩, by simp [ElementPhrase.tokens, DataTypePhrase.tokens]⟩

theorem entity_le_elementPhrases :
    single (.keyword .entity) * entityBodies ≤ elementPhrases := by
  rintro _ ⟨_, ⟨pos, rfl⟩, _, ⟨_, ⟨name, rfl⟩, _, ⟨_, super, _, ⟨_, ⟨opening, rfl⟩, _,
    ⟨_, ⟨phrases, rfl⟩, _, ⟨closing, rfl⟩, rfl⟩, rfl⟩, rfl⟩, rfl⟩, rfl⟩
  rcases super with ⟨_, ⟨extending, rfl⟩, _, ⟨type, rfl⟩, rfl⟩ | rfl
  · exact ⟨.entity ⟨pos, name, some (extending, type), opening, phrases, closing⟩, by
      simp [ElementPhrase.tokens, EntityPhrase.tokens, EntityPhrase.superTokens]⟩
  · exact ⟨.entity ⟨pos, name, none, opening, phrases, closing⟩, by
      simp [ElementPhrase.tokens, EntityPhrase.tokens]⟩

theorem enum_le_elementPhrases : single (.keyword .enum) * enumBodies ≤ elementPhrases := by
  rintro _ ⟨_, ⟨pos, rfl⟩, _, ⟨_, ⟨name, rfl⟩, _, ⟨_, ⟨opening, rfl⟩, _,
    ⟨_, ⟨literals, rfl⟩, _, ⟨closing, rfl⟩, rfl⟩, rfl⟩, rfl⟩, rfl⟩
  exact ⟨.enum ⟨pos, name, opening, literals, closing⟩, by
    simp [ElementPhrase.tokens, EnumPhrase.tokens]⟩

theorem exists_mem_elementPhrases : ∃ more, more ∈ elementPhrases :=
  ⟨_, mem_spelled _ (.dataType ⟨{}, ⟨"", {}⟩, none⟩)⟩

theorem length_pos_of_mem_elementPhrases {taken : List Token} (phrase : taken ∈ elementPhrases) :
    0 < taken.length := by
  obtain ⟨phrase, rfl⟩ := phrase
  obtain ⟨word, starts⟩ := phrase.starts_keyword []
  rw [List.append_nil] at starts
  cases spelling : phrase.tokens with
  | nil => simp [spelling] at starts
  | cons token rest => exact Nat.succ_pos _

theorem foresees_readDecl : Foresees finish elementPhrases (readDecl finish) tokens := by
  rw [readDecl_eq]
  apply Foresees.mono
  · apply Foresees.ifNext
    · intro pos rest _
      exact (foresees_readDataType finish rest pos).map _
    · intro _
      apply Foresees.ifNext
      · intro pos rest _
        exact (foresees_readEntity finish rest pos).map _
      · intro _
        apply Foresees.ifNext
        · intro pos rest _
          exact (foresees_readEnum finish rest pos).map _
        · intro _
          exact .refuse exists_mem_elementPhrases _ tokens
  · refine sup_le dataType_le_elementPhrases (sup_le entity_le_elementPhrases ?_)
    exact sup_le enum_le_elementPhrases le_rfl

/-- Elements, through the brace behind them if they are in a package. -/
def elementBodies (nested : Bool) : Language Token :=
  spelled tokensOf * if nested then single (.symbol .closeBrace) else 1

theorem exists_mem_elementBodies (nested : Bool) : ∃ more, more ∈ elementBodies nested := by
  apply exists_mem_mul ⟨[], mem_spelled tokensOf []⟩
  cases nested with
  | true => exact exists_mem_single _
  | false => exact ⟨[], rfl⟩

/-- An element in front of elements. -/
theorem elementPhrases_mul_le (nested : Bool) :
    elementPhrases * elementBodies nested ≤ elementBodies nested := by
  rintro _ ⟨_, ⟨phrase, rfl⟩, _, ⟨_, ⟨phrases, rfl⟩, last, closing, rfl⟩, rfl⟩
  refine Language.mem_mul.mpr ⟨_, mem_spelled tokensOf (phrase :: phrases), last, closing, ?_⟩
  rw [tokensOf, List.append_assoc]

/-- A package is an element. -/
theorem package_le_elementPhrases :
    single (.keyword .package) * (qualifiedNames *
      (single (.symbol .openBrace) * elementBodies true)) ≤ elementPhrases := by
  rintro _ ⟨_, ⟨pos, rfl⟩, _, ⟨_, ⟨name, rfl⟩, _, ⟨_, ⟨opening, rfl⟩, _,
    ⟨_, ⟨phrases, rfl⟩, _, ⟨closing, rfl⟩, rfl⟩, rfl⟩, rfl⟩, rfl⟩
  exact ⟨.package pos name opening phrases closing, by simp [ElementPhrase.tokens]⟩

theorem foresees_takeElementAndMore (nested : Bool)
    (shorter : ∀ (rest : List Token) (nested : Bool), rest.length < tokens.length →
      Foresees finish (elementBodies nested) (takeElements finish nested) rest) :
    Foresees finish (elementBodies nested) (takeElementAndMore finish nested) tokens := by
  have inner := exists_mem_mul (exists_mem_elementBodies true) (exists_mem_elementBodies nested)
  apply Foresees.mono
  · apply Foresees.ifNext
    · intro pos rest starts
      apply (foresees_readQualifiedName finish .package rest).bind
      · intro name taken afterName _ named
        apply (foresees_takeSymbol finish afterName .openBrace).bind
        · intro _ brace body _ opened
          apply (shorter body true ?_).bind
          · intro inside taken after _ closed
            apply Foresees.map
            apply shorter
            simp only [starts, named, opened, closed, List.length_cons, List.length_append]
            omega
          · exact exists_mem_elementBodies nested
          · simp only [starts, named, opened, List.length_cons, List.length_append]
            omega
        · exact inner
      · exact exists_mem_mul (exists_mem_single _) inner
    · intro _
      apply (foresees_readDecl finish tokens).bind
      · intro decl taken rest phrase parts
        apply Foresees.map
        apply shorter
        have taken := length_pos_of_mem_elementPhrases phrase
        simp only [parts, List.length_append]
        omega
      · exact exists_mem_elementBodies nested
  · apply sup_le
    · calc
        _ = single (.keyword .package) * (qualifiedNames *
            (single (.symbol .openBrace) * elementBodies true)) * elementBodies nested := by
          simp only [mul_assoc]
        _ ≤ elementPhrases * elementBodies nested :=
          mul_le_mul_left package_le_elementPhrases _
        _ ≤ elementBodies nested := elementPhrases_mul_le nested
    · exact elementPhrases_mul_le nested

theorem foresees_takeElements (nested : Bool) (tokens : List Token) :
    Foresees finish (elementBodies nested) (takeElements finish nested) tokens := by
  have next := foresees_takeElementAndMore finish tokens nested
    fun rest nested _ => foresees_takeElements nested rest
  rw [takeElements_eq]
  cases nested with
  | true =>
      apply Foresees.ifEnd
      · intro _
        exact .refuse (exists_mem_elementBodies true) _ tokens
      · intro _
        apply Foresees.mono
        · apply Foresees.ifNext
          · intro _ rest _
            exact .pure [] rest
          · intro _
            exact next
        · apply sup_le
          · rw [mul_one]
            intro closing brace
            exact Language.mem_mul.mpr ⟨[], mem_spelled tokensOf [], closing, brace, rfl⟩
          · exact le_rfl
  | false =>
      apply Foresees.ifEnd
      · intro _
        apply (Foresees.pure [] tokens).mono
        rintro _ rfl
        exact Language.mem_mul.mpr ⟨[], mem_spelled tokensOf [], [], rfl, rfl⟩
      · intro _
        exact next
termination_by tokens.length

end DomainGen.Ddef
