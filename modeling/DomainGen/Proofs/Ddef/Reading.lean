import DomainGen.Model.Refs
import DomainGen.Proofs.Ddef.Grammar
import DomainGen.Proofs.Outcome

/-!
# Reading follows the grammar

Each function that reads a phrase is compared with the derivations of that
phrase, in both directions.  What is read has a derivation
(`exists_…_of_read…`), and every derivation is read, up to the tokens that
follow it (`read…_tokens`).

Together they say what a source text means: the tree of its only derivation
(`parse_eq_ok_iff`).
-/

namespace DomainGen.Ddef

variable {finish : Position} {role : NameRole}

/-! ## Names -/

@[simp] theorem readName_token (name : NamePhrase) (rest : List Token) :
    readName finish role (name.token :: rest) = .ok ((name.text, name.pos), rest) := rfl

theorem exists_name_of_readName {tokens rest : List Token} {text : String} {pos : Position}
    (read : readName finish role tokens = .ok ((text, pos), rest)) :
    tokens = (⟨text, pos⟩ : NamePhrase).token :: rest := by
  unfold readName at read
  split at read
  · cases read
    rfl
  · contradiction

@[simp] theorem readSymbol_token (mark : Symbol) (pos : Position) (rest : List Token) :
    readSymbol finish mark (⟨.symbol mark, pos⟩ :: rest) = .ok rest := by
  simp [readSymbol]

theorem exists_pos_of_readSymbol {mark : Symbol} {tokens rest : List Token}
    (read : readSymbol finish mark tokens = .ok rest) :
    ∃ pos, tokens = ⟨.symbol mark, pos⟩ :: rest := by
  unfold readSymbol at read
  split at read
  · next found pos after =>
    split at read
    · next same =>
      cases read
      exact ⟨pos, by rw [same]⟩
    · contradiction
  · contradiction

/-! ## Dotted names -/

@[simp] theorem readDottedTail_dot (pos : Position) (name : NamePhrase) (rest : List Token) :
    readDottedTail finish role (⟨.symbol .dot, pos⟩ :: name.token :: rest) =
      match readDottedTail finish role rest with
      | .ok (parts, rest) => .ok (name.text :: parts, rest)
      | .error error => .error error := rfl

theorem readDottedTail_tokens (names : List (Position × NamePhrase)) (rest : List Token)
    (stops : ¬ Starts (.symbol .dot) rest) :
    readDottedTail finish role
        (names.flatMap (Separated.nextTokens .dot fun name => [name.token]) ++ rest) =
      .ok (names.map (·.2.text), rest) := by
  induction names with
  | nil =>
      rw [List.flatMap_nil, List.nil_append, readDottedTail.eq_def]
      split
      · simp at stops
      · simp at stops
      · rfl
  | cons name names ih =>
      simp only [List.flatMap_cons, Separated.nextTokens, List.cons_append, List.nil_append,
        readDottedTail_dot, List.map_cons]
      rw [ih]

theorem exists_names_of_readDottedTail {tokens rest : List Token} {texts : List String}
    (read : readDottedTail finish role tokens = .ok (texts, rest)) :
    ∃ names : List (Position × NamePhrase), names.map (·.2.text) = texts ∧
      tokens = names.flatMap (Separated.nextTokens .dot fun name => [name.token]) ++ rest := by
  fun_induction readDottedTail finish role tokens generalizing texts rest with
  | case1 dotPos text namePos _ parts after tail ih =>
      cases read
      rcases ih tail with ⟨names, rfl, rfl⟩
      exact ⟨(dotPos, ⟨text, namePos⟩) :: names, rfl, rfl⟩
  | case2 => contradiction
  | case3 => contradiction
  | case4 =>
      cases read
      exact ⟨[], rfl, rfl⟩

@[simp] theorem firstPos_qualified (phrase : QualifiedPhrase) :
    firstPos phrase.tokens = phrase.first.pos := rfl

theorem readQualifiedName_tokens (finish : Position) (role : NameRole)
    (phrase : QualifiedPhrase) (rest : List Token) (stops : ¬ Starts (.symbol .dot) rest) :
    readQualifiedName finish role (phrase.tokens ++ rest) =
      .ok ((phrase.text, firstPos phrase.tokens), rest) := by
  rcases phrase with ⟨first, names⟩
  simp only [readQualifiedName, QualifiedPhrase.tokens, Separated.tokens, List.cons_append,
    List.nil_append, readName_token, readDottedTail_tokens names rest stops]
  simp [QualifiedPhrase.text, Separated.toList, NamePhrase.token, Function.comp_def]

theorem exists_qualified_of_readQualifiedName {tokens rest : List Token} {text : String}
    {pos : Position} (read : readQualifiedName finish role tokens = .ok ((text, pos), rest)) :
    ∃ phrase : QualifiedPhrase, phrase.text = text ∧ firstPos phrase.tokens = pos ∧
      tokens = phrase.tokens ++ rest := by
  unfold readQualifiedName at read
  split at read
  · contradiction
  · next first pos after named =>
    split at read
    · contradiction
    · next tail =>
      cases read
      rcases exists_name_of_readName named with rfl
      rcases exists_names_of_readDottedTail tail with ⟨names, rfl, rfl⟩
      refine ⟨⟨⟨first, pos⟩, names⟩, ?_, rfl, rfl⟩
      simp [QualifiedPhrase.text, Separated.toList, Function.comp_def]

theorem readRef_tokens (finish : Position) (role : NameRole) (phrase : QualifiedPhrase)
    (rest : List Token) (stops : ¬ Starts (.symbol .dot) rest) :
    readRef finish role (phrase.tokens ++ rest) = .ok (phrase.ref, rest) := by
  simp only [readRef, readQualifiedName_tokens finish role phrase rest stops]
  rfl

theorem exists_qualified_of_readRef {tokens rest : List Token} {ref : Ref}
    (read : readRef finish role tokens = .ok (ref, rest)) :
    ∃ phrase : QualifiedPhrase, phrase.ref = ref ∧ tokens = phrase.tokens ++ rest := by
  unfold readRef at read
  split at read
  · contradiction
  · next named =>
    cases read
    rcases exists_qualified_of_readQualifiedName named with ⟨phrase, rfl, rfl, rfl⟩
    exact ⟨phrase, rfl, rfl⟩

/-! ## Datatypes -/

theorem readMembers_tokens (finish : Position) (first : QualifiedPhrase)
    (more : List (Position × QualifiedPhrase)) (rest : List Token)
    (stopsDot : ¬ Starts (.symbol .dot) rest) (stopsBar : ¬ Starts (.symbol .bar) rest) :
    readMembers finish (Separated.tokens .bar QualifiedPhrase.tokens ⟨first, more⟩ ++ rest) =
      .ok ((Separated.mk first more).toList.map (·.ref), rest) := by
  induction more generalizing first with
  | nil =>
      have read := readRef_tokens finish .unionMember first rest stopsDot
      simp only [Separated.tokens, List.flatMap_nil, List.append_nil]
      rw [readMembers.eq_def]
      split
      · next failed => simp [read] at failed
      · next found =>
        rw [read] at found
        cases found
        simp at stopsBar
      · next found =>
        rw [read] at found
        cases found
        rfl
  | cons next more ih =>
      have read := readRef_tokens finish .unionMember first
        (⟨.symbol .bar, next.1⟩ ::
          (Separated.tokens .bar QualifiedPhrase.tokens ⟨next.2, more⟩ ++ rest)) (by simp)
      simp only [Separated.tokens, List.flatMap_cons, Separated.nextTokens, List.cons_append,
        List.append_assoc] at read ih ⊢
      rw [readMembers.eq_def]
      split
      · next failed => simp [read] at failed
      · next found =>
        rw [read] at found
        cases found
        rw [ih next.2]
        rfl
      · next other found =>
        rw [read] at found
        cases found
        exact absurd rfl (other _ _)

theorem exists_members_of_readMembers {tokens rest : List Token} {refs : List Ref}
    (read : readMembers finish tokens = .ok (refs, rest)) :
    ∃ members : Separated QualifiedPhrase, members.toList.map (·.ref) = refs ∧
      tokens = members.tokens .bar QualifiedPhrase.tokens ++ rest := by
  fun_induction readMembers finish tokens generalizing refs rest with
  | case1 => contradiction
  | case2 => contradiction
  | case3 _ ref bar _ first refs after more ih =>
      cases read
      rcases exists_qualified_of_readRef first with ⟨phrase, rfl, rfl⟩
      rcases ih more with ⟨⟨second, members⟩, rfl, rfl⟩
      refine ⟨⟨phrase, (bar, second) :: members⟩, rfl, ?_⟩
      simp [Separated.tokens, Separated.nextTokens]
  | case4 _ ref _ _ first =>
      cases read
      rcases exists_qualified_of_readRef first with ⟨phrase, rfl, rfl⟩
      exact ⟨⟨phrase, []⟩, rfl, by simp [Separated.tokens]⟩

theorem readDataType_tokens (phrase : DataTypePhrase) (rest : List Token)
    (closed : Closed rest) :
    readDecl finish (phrase.tokens ++ rest) = .ok (.dataType phrase.tree, rest) := by
  rcases phrase with ⟨pos, name, union⟩
  rcases closed with ⟨stopsDot, stopsBar, stopsEquals⟩
  cases union with
  | none =>
      have read : readDataType finish pos (name.token :: rest) =
          .ok ({ name := name.text, pos }, rest) := by
        rw [readDataType.eq_def, readName_token]
        split
        · contradiction
        · next found =>
          cases found
          simp at stopsEquals
        · next found =>
          cases found
          rfl
      simp only [DataTypePhrase.tokens, Option.elim_none, List.cons_append, List.nil_append,
        readDecl, read]
      rfl
  | some union =>
      rcases union with ⟨equals, first, more⟩
      have members := readMembers_tokens finish first more rest stopsDot stopsBar
      simp only [DataTypePhrase.tokens, DataTypePhrase.unionTokens, Option.elim_some,
        List.cons_append, readDecl, readDataType, readName_token, members]
      rfl

theorem exists_dataType_of_readDataType {pos : Position} {tokens rest : List Token}
    {type : DataType} (read : readDataType finish pos tokens = .ok (type, rest)) :
    ∃ phrase : DataTypePhrase, phrase.tree = type ∧
      ⟨.keyword .datatype, pos⟩ :: tokens = phrase.tokens ++ rest := by
  unfold readDataType at read
  split at read
  · contradiction
  · next name namePos equals after named =>
    split at read
    · contradiction
    · next listed =>
      cases read
      rcases exists_name_of_readName named with rfl
      rcases exists_members_of_readMembers listed with ⟨members, rfl, rfl⟩
      exact ⟨⟨pos, ⟨name, namePos⟩, some (equals, members)⟩, rfl, rfl⟩
  · next name namePos after _ named =>
    cases read
    rcases exists_name_of_readName named with rfl
    exact ⟨⟨pos, ⟨name, namePos⟩, none⟩, rfl, rfl⟩

/-! ## Features -/

/-- Modifiers are read in any order, as long as none is repeated. -/
theorem readModifiers_tokens (marks : List (Modifier × Position)) (many nonNullable : Bool)
    (rest : List Token) (stops : ∃ text, Starts (.name text) rest)
    (distinct : (marks.map (·.1)).Nodup)
    (newMany : many = true → Modifier.many ∉ marks.map (·.1))
    (newNonNullable : nonNullable = true → Modifier.nonNullable ∉ marks.map (·.1)) :
    readModifiers many nonNullable (marks.map Modifier.token ++ rest) =
      ((many || (marks.map (·.1)).contains .many,
        nonNullable || (marks.map (·.1)).contains .nonNullable), rest) := by
  induction marks generalizing many nonNullable with
  | nil =>
      rcases stops with ⟨text, starts⟩
      rw [List.map_nil, List.nil_append, readModifiers.eq_def]
      split
      · simp at starts
      · simp at starts
      · simp
  | cons mark marks ih =>
      rcases mark with ⟨modifier, pos⟩
      simp only [List.map_cons, List.nodup_cons] at distinct
      cases modifier with
      | many =>
          have unset : many = false := by
            simpa using newMany
          subst unset
          simp only [List.map_cons, List.cons_append, Modifier.token, Modifier.keyword,
            readModifiers]
          rw [if_neg (by simp), ih true nonNullable distinct.2 (fun _ => distinct.1)
            (fun set => by simpa using newNonNullable set)]
          rfl
      | nonNullable =>
          have unset : nonNullable = false := by
            simpa using newNonNullable
          subst unset
          simp only [List.map_cons, List.cons_append, Modifier.token, Modifier.keyword,
            readModifiers]
          rw [if_neg (by simp), ih many true distinct.2
            (fun set => by simpa using newMany set) (fun _ => distinct.1)]
          rfl

theorem exists_marks_of_readModifiers (many nonNullable : Bool) (tokens : List Token) :
    ∃ marks : List (Modifier × Position),
      tokens = marks.map Modifier.token ++ (readModifiers many nonNullable tokens).2 ∧
      (marks.map (·.1)).Nodup ∧
      (many = true → Modifier.many ∉ marks.map (·.1)) ∧
      (nonNullable = true → Modifier.nonNullable ∉ marks.map (·.1)) ∧
      (readModifiers many nonNullable tokens).1 =
        (many || (marks.map (·.1)).contains .many,
          nonNullable || (marks.map (·.1)).contains .nonNullable) := by
  fun_induction readModifiers many nonNullable tokens with
  | case1 => exact ⟨[], by simp_all⟩
  | case2 _ _ pos _ unset ih =>
      rcases ih with ⟨marks, spelled, distinct, newMany, newNonNullable, flags⟩
      refine ⟨(.many, pos) :: marks, congrArg (_ :: ·) spelled, ?_, ?_, ?_, ?_⟩
      · exact List.nodup_cons.mpr ⟨newMany rfl, distinct⟩
      · simp [unset]
      · simpa using newNonNullable
      · rw [flags, Bool.eq_false_iff.mpr unset]
        rfl
  | case3 => exact ⟨[], by simp_all⟩
  | case4 _ _ pos _ unset ih =>
      rcases ih with ⟨marks, spelled, distinct, newMany, newNonNullable, flags⟩
      refine ⟨(.nonNullable, pos) :: marks, congrArg (_ :: ·) spelled, ?_, ?_, ?_, ?_⟩
      · exact List.nodup_cons.mpr ⟨newNonNullable rfl, distinct⟩
      · simpa using newMany
      · simp [unset]
      · rw [flags, Bool.eq_false_iff.mpr unset]
        rfl
  | case5 => exact ⟨[], by simp⟩

/-- A feature starts where its first token does, with or without modifiers. -/
theorem startOf_feature (finish : Position) (phrase : FeaturePhrase) (rest : List Token) :
    startOf finish (phrase.tokens ++ rest) = firstPos phrase.tokens := by
  rcases phrase with ⟨⟨marks, distinct⟩, name, colon, type⟩
  cases marks <;> rfl

theorem readFeature_tokens (finish : Position) (phrase : FeaturePhrase) (rest : List Token)
    (stops : ¬ Starts (.symbol .dot) rest) :
    readFeature finish (phrase.tokens ++ rest) = .ok (phrase.tree, rest) := by
  have start := startOf_feature finish phrase rest
  rcases phrase with ⟨⟨marks, distinct⟩, name, colon, type⟩
  have modifiers := readModifiers_tokens marks false false
    (name.token :: ⟨.symbol .colon, colon⟩ :: (type.tokens ++ rest))
    ⟨name.text, by simp [NamePhrase.token]⟩ distinct (by simp) (by simp)
  unfold readFeature
  rw [start]
  simp only [FeaturePhrase.tokens, ModifiersPhrase.tokens, List.append_assoc,
    List.cons_append, modifiers, List.isEmpty_cons, Bool.false_eq_true, if_false,
    readName_token, readSymbol_token, readRef_tokens finish .featureType type rest stops]
  rfl

theorem exists_feature_of_readFeature {tokens rest : List Token} {feature : Feature}
    (read : readFeature finish tokens = .ok (feature, rest)) :
    ∃ phrase : FeaturePhrase, phrase.tree = feature ∧ tokens = phrase.tokens ++ rest := by
  rcases exists_marks_of_readModifiers false false tokens with
    ⟨marks, spelled, distinct, -, -, flags⟩
  unfold readFeature at read
  split at read
  next many nonNullable after modified =>
  rw [modified] at spelled flags
  split at read
  · contradiction
  split at read
  · contradiction
  next name namePos afterName named =>
  split at read
  · contradiction
  next afterColon separated =>
  split at read
  · contradiction
  next type rest typed =>
  cases read
  rcases exists_name_of_readName named with rfl
  rcases exists_pos_of_readSymbol separated with ⟨colon, rfl⟩
  rcases exists_qualified_of_readRef typed with ⟨ref, rfl, rfl⟩
  have tokensEq : tokens =
      (⟨⟨marks, distinct⟩, ⟨name, namePos⟩, colon, ref⟩ : FeaturePhrase).tokens ++ rest := by
    simpa [FeaturePhrase.tokens, ModifiersPhrase.tokens] using spelled
  refine ⟨⟨⟨marks, distinct⟩, ⟨name, namePos⟩, colon, ref⟩, ?_, tokensEq⟩
  rw [tokensEq, startOf_feature]
  simp only [Prod.mk.injEq] at flags
  rw [flags.1, flags.2]
  rfl

theorem readFeatures_tokens (finish : Position) (phrases : List FeaturePhrase)
    (closing : Position) (rest : List Token) :
    readFeatures finish
        (phrases.flatMap (·.tokens) ++ ⟨.symbol .closeBrace, closing⟩ :: rest) =
      .ok (phrases.map (·.tree), rest) := by
  induction phrases with
  | nil => rw [List.flatMap_nil, List.nil_append, readFeatures.eq_def]; rfl
  | cons phrase phrases ih =>
      have stops : ¬ Starts (.symbol .dot)
          (phrases.flatMap (·.tokens) ++ ⟨.symbol .closeBrace, closing⟩ :: rest) := by
        cases phrases with
        | nil => simp
        | cons next phrases =>
            rw [List.flatMap_cons, List.append_assoc]
            exact next.not_starts_symbol .dot _
      have read := readFeature_tokens finish phrase _ stops
      rw [List.flatMap_cons, List.append_assoc, readFeatures.eq_def]
      split
      · next closed =>
        have opens := phrase.not_starts_symbol .closeBrace
          (phrases.flatMap (·.tokens) ++ ⟨.symbol .closeBrace, closing⟩ :: rest)
        rw [closed] at opens
        simp at opens
      · split
        · next failed => simp [read] at failed
        · next found =>
          rw [read] at found
          cases found
          rw [ih]
          rfl

theorem exists_features_of_readFeatures {tokens rest : List Token} {features : List Feature}
    (read : readFeatures finish tokens = .ok (features, rest)) :
    ∃ (phrases : List FeaturePhrase) (closing : Position), phrases.map (·.tree) = features ∧
      tokens = phrases.flatMap (·.tokens) ++ ⟨.symbol .closeBrace, closing⟩ :: rest := by
  fun_induction readFeatures finish tokens generalizing features rest with
  | case1 pos _ =>
      cases read
      exact ⟨[], pos, rfl, rfl⟩
  | case2 => contradiction
  | case3 => contradiction
  | case4 _ _ feature _ first features after more ih =>
      cases read
      rcases exists_feature_of_readFeature first with ⟨phrase, rfl, rfl⟩
      rcases ih more with ⟨phrases, closing, rfl, rfl⟩
      exact ⟨phrase :: phrases, closing, rfl, by simp⟩

/-! ## Entities -/

theorem readSupertype_tokens (finish : Position) (super : Option (Position × QualifiedPhrase))
    (opening : Position) (rest : List Token) :
    readSupertype finish
        (super.elim [] EntityPhrase.superTokens ++ ⟨.symbol .openBrace, opening⟩ :: rest) =
      .ok (super.map (·.2.ref), ⟨.symbol .openBrace, opening⟩ :: rest) := by
  cases super with
  | none => rfl
  | some super =>
      simp only [Option.elim_some, EntityPhrase.superTokens, List.cons_append, readSupertype]
      rw [readRef_tokens finish .supertype super.2 _ (by simp)]
      rfl

theorem exists_super_of_readSupertype {tokens rest : List Token} {super : Option Ref}
    (read : readSupertype finish tokens = .ok (super, rest)) :
    ∃ phrase : Option (Position × QualifiedPhrase), phrase.map (·.2.ref) = super ∧
      tokens = phrase.elim [] EntityPhrase.superTokens ++ rest := by
  unfold readSupertype at read
  split at read
  · next pos after =>
    split at read
    · contradiction
    · next typed =>
      cases read
      rcases exists_qualified_of_readRef typed with ⟨type, rfl, rfl⟩
      exact ⟨some (pos, type), rfl, rfl⟩
  · cases read
    exact ⟨none, rfl, rfl⟩

theorem readEntity_tokens (phrase : EntityPhrase) (rest : List Token) :
    readDecl finish (phrase.tokens ++ rest) = .ok (.entity phrase.tree, rest) := by
  rcases phrase with ⟨pos, name, super, opening, features, closing⟩
  simp only [EntityPhrase.tokens, List.cons_append, List.append_assoc, List.nil_append,
    readDecl, readEntity, readName_token, readSupertype_tokens, readSymbol_token,
    readFeatures_tokens]
  rfl

theorem exists_entity_of_readEntity {pos : Position} {tokens rest : List Token}
    {type : Entity} (read : readEntity finish pos tokens = .ok (type, rest)) :
    ∃ phrase : EntityPhrase, phrase.tree = type ∧
      ⟨.keyword .entity, pos⟩ :: tokens = phrase.tokens ++ rest := by
  unfold readEntity at read
  split at read
  · contradiction
  next name namePos afterName named =>
  split at read
  · contradiction
  next super afterSuper extended =>
  split at read
  · contradiction
  next body opened =>
  split at read
  · contradiction
  next features afterFeatures listed =>
  cases read
  rcases exists_name_of_readName named with rfl
  rcases exists_super_of_readSupertype extended with ⟨supertype, rfl, rfl⟩
  rcases exists_pos_of_readSymbol opened with ⟨opening, rfl⟩
  rcases exists_features_of_readFeatures listed with ⟨phrases, closing, rfl, rfl⟩
  refine ⟨⟨pos, ⟨name, namePos⟩, supertype, opening, phrases, closing⟩, rfl, ?_⟩
  simp [EntityPhrase.tokens]

/-! ## Enums -/

theorem readLiterals_tokens (first : NamePhrase) (more : List (Position × NamePhrase))
    (trailing : Option Position) (closing : Position) (rest : List Token) :
    readLiterals finish
        ((⟨⟨first, more⟩, trailing⟩ : LiteralsPhrase).tokens ++
          ⟨.symbol .closeBrace, closing⟩ :: rest) =
      .ok ((Separated.mk first more).toList.map (·.literal), rest) := by
  induction more generalizing first with
  | nil =>
      cases trailing with
      | none => rfl
      | some => rfl
  | cons next more ih =>
      have later := ih next.2
      simp only [LiteralsPhrase.tokens, Separated.tokens, List.flatMap_cons,
        Separated.nextTokens, List.cons_append, List.nil_append, List.append_assoc]
        at later ⊢
      rw [NamePhrase.token, readLiterals, later]
      rfl

theorem exists_literals_of_readLiterals {tokens rest : List Token} {literals : List Literal}
    (read : readLiterals finish tokens = .ok (literals, rest)) :
    ∃ (phrase : Option LiteralsPhrase) (closing : Position),
      (phrase.elim [] fun literals => literals.names.toList.map (·.literal)) = literals ∧
      tokens = phrase.elim [] (·.tokens) ++ ⟨.symbol .closeBrace, closing⟩ :: rest := by
  fun_induction readLiterals finish tokens generalizing literals rest with
  | case1 pos _ =>
      cases read
      exact ⟨none, pos, rfl, rfl⟩
  | case2 => contradiction
  | case3 name pos comma _ literals after more ih =>
      cases read
      rcases ih more with ⟨phrase, closing, rfl, rfl⟩
      -- The comma is trailing exactly when no literal was read behind it.
      cases phrase with
      | none => exact ⟨some ⟨⟨⟨name, pos⟩, []⟩, some comma⟩, closing, rfl, rfl⟩
      | some phrase =>
          rcases phrase with ⟨⟨second, names⟩, trailing⟩
          refine ⟨some ⟨⟨⟨name, pos⟩, (comma, second) :: names⟩, trailing⟩, closing, rfl, ?_⟩
          simp [LiteralsPhrase.tokens, Separated.tokens, Separated.nextTokens,
            NamePhrase.token]
  | case4 name pos closing _ =>
      cases read
      exact ⟨some ⟨⟨⟨name, pos⟩, []⟩, none⟩, closing, rfl, rfl⟩
  | case5 => contradiction
  | case6 => contradiction

theorem readEnum_tokens (phrase : EnumPhrase) (rest : List Token) :
    readDecl finish (phrase.tokens ++ rest) = .ok (.enum phrase.tree, rest) := by
  rcases phrase with ⟨pos, name, opening, literals, closing⟩
  cases literals with
  | none => rfl
  | some literals =>
      rcases literals with ⟨⟨first, more⟩, trailing⟩
      simp only [EnumPhrase.tokens, Option.elim_some, List.cons_append, List.append_assoc,
        List.nil_append, readDecl, readEnum, readName_token, readSymbol_token,
        readLiterals_tokens]
      rfl

theorem exists_enum_of_readEnum {pos : Position} {tokens rest : List Token}
    {type : Enum} (read : readEnum finish pos tokens = .ok (type, rest)) :
    ∃ phrase : EnumPhrase, phrase.tree = type ∧
      ⟨.keyword .enum, pos⟩ :: tokens = phrase.tokens ++ rest := by
  unfold readEnum at read
  split at read
  · contradiction
  next name namePos afterName named =>
  split at read
  · contradiction
  next body opened =>
  split at read
  · contradiction
  next literals afterLiterals listed =>
  cases read
  rcases exists_name_of_readName named with rfl
  rcases exists_pos_of_readSymbol opened with ⟨opening, rfl⟩
  rcases exists_literals_of_readLiterals listed with ⟨phrase, closing, rfl, rfl⟩
  refine ⟨⟨pos, ⟨name, namePos⟩, opening, phrase, closing⟩, rfl, ?_⟩
  simp [EnumPhrase.tokens]

/-! ## Elements -/

theorem exists_element_of_readDecl {tokens rest : List Token} {decl : TypeDecl}
    (read : readDecl finish tokens = .ok (decl, rest)) :
    ∃ phrase : ElementPhrase, phrase.tree = .type decl ∧ tokens = phrase.tokens ++ rest := by
  unfold readDecl at read
  split at read
  · next pos after =>
    rcases exists_of_map_eq_ok read with ⟨⟨type, left⟩, inner, same⟩
    cases same
    rcases exists_dataType_of_readDataType inner with ⟨phrase, rfl, spelled⟩
    exact ⟨.dataType phrase, rfl, spelled⟩
  · next pos after =>
    rcases exists_of_map_eq_ok read with ⟨⟨type, left⟩, inner, same⟩
    cases same
    rcases exists_entity_of_readEntity inner with ⟨phrase, rfl, spelled⟩
    exact ⟨.entity phrase, rfl, spelled⟩
  · next pos after =>
    rcases exists_of_map_eq_ok read with ⟨⟨type, left⟩, inner, same⟩
    cases same
    rcases exists_enum_of_readEnum inner with ⟨phrase, rfl, spelled⟩
    exact ⟨.enum phrase, rfl, spelled⟩
  · contradiction

/-- What reading elements yields, without the bound on the tokens that are left. -/
def ReadsElements (finish : Position) (nested : Bool) (tokens : List Token)
    (elements : List Element) (left : List Token) : Prop :=
  (readElements finish nested tokens).map (·.val) = .ok (elements, left)

namespace ReadsElements

variable {nested : Bool} {elements : List Element} {tokens left : List Token}

theorem atEnd (finish : Position) : ReadsElements finish false [] [] [] := by
  rw [ReadsElements, readElements.eq_def]
  rfl

theorem atBrace (pos : Position) (rest : List Token) :
    ReadsElements finish true (⟨.symbol .closeBrace, pos⟩ :: rest) [] rest := by
  rw [ReadsElements, readElements.eq_def]
  rfl

theorem decl {decl : TypeDecl} {after : List Token}
    (declared : readDecl finish tokens = .ok (decl, after))
    (more : ReadsElements finish nested after elements left) :
    ReadsElements finish nested tokens (.type decl :: elements) left := by
  rcases exists_of_map_eq_ok more with ⟨⟨_, shorter⟩, more, rfl⟩
  rw [ReadsElements, readElements.eq_def]
  split
  · simp [readDecl] at declared
  · simp [readDecl] at declared
  · simp [readDecl] at declared
  · split
    · next failed => simp [declared] at failed
    · next found =>
      rw [declared] at found
      cases found
      rw [more]
      rfl

theorem package (keyword opening : Position) (name : QualifiedPhrase)
    {body after : List Token} {inner : List Element}
    (inside : ReadsElements finish true body inner after)
    (more : ReadsElements finish nested after elements left) :
    ReadsElements finish nested
      (⟨.keyword .package, keyword⟩ ::
        (name.tokens ++ ⟨.symbol .openBrace, opening⟩ :: body))
      (.package name.text keyword inner :: elements) left := by
  rcases exists_of_map_eq_ok inside with ⟨⟨_, insideShorter⟩, inside, rfl⟩
  rcases exists_of_map_eq_ok more with ⟨⟨_, shorter⟩, more, rfl⟩
  have named := readQualifiedName_tokens finish .package name
    (⟨.symbol .openBrace, opening⟩ :: body) (by simp)
  rw [ReadsElements, readElements.eq_def]
  simp only
  split
  · next failed => simp [named] at failed
  · next found =>
    rw [named] at found
    cases found
    split
    · next failed => simp at failed
    · next opened =>
      rw [readSymbol_token] at opened
      cases opened
      rw [inside]
      simp only
      rw [more]
      rfl

end ReadsElements

mutual

theorem ElementPhrase.readsElements (phrase : ElementPhrase) (rest : List Token)
    {nested : Bool} {left : List Token} {elements : List Element} (closed : Closed rest)
    (more : ReadsElements finish nested rest elements left) :
    ReadsElements finish nested (phrase.tokens ++ rest) (phrase.tree :: elements) left := by
  cases phrase with
  | package keyword name opening phrases closing =>
      have inside := readsElements_tokensOf phrases (⟨.symbol .closeBrace, closing⟩ :: rest)
        (by simp [Closed]) (.atBrace closing rest)
      simp only [List.append_nil] at inside
      simpa [ElementPhrase.tokens, ElementPhrase.tree] using
        ReadsElements.package keyword opening name inside more
  | dataType phrase => exact .decl (readDataType_tokens phrase rest closed) more
  | entity phrase => exact .decl (readEntity_tokens phrase rest) more
  | enum phrase => exact .decl (readEnum_tokens phrase rest) more

theorem readsElements_tokensOf (phrases : List ElementPhrase) (rest : List Token)
    {nested : Bool} {left : List Token} {elements : List Element} (closed : Closed rest)
    (more : ReadsElements finish nested rest elements left) :
    ReadsElements finish nested (tokensOf phrases ++ rest) (treesOf phrases ++ elements)
      left := by
  cases phrases with
  | nil => exact more
  | cons phrase phrases =>
      rw [tokensOf, treesOf, List.append_assoc, List.cons_append]
      exact phrase.readsElements _ (closed_tokensOf phrases rest closed)
        (readsElements_tokensOf phrases rest closed more)

end

/-- Where reading elements ends: behind the closing brace of a package, or at the
end of the source. -/
def EndsAt (nested : Bool) (rest left : List Token) : Prop :=
  if nested then ∃ pos, rest = ⟨.symbol .closeBrace, pos⟩ :: left else rest = [] ∧ left = []

theorem exists_elements_of_readsElements {nested : Bool} {tokens left : List Token}
    {elements : List Element} (read : ReadsElements finish nested tokens elements left) :
    ∃ (phrases : List ElementPhrase) (rest : List Token), treesOf phrases = elements ∧
      tokens = tokensOf phrases ++ rest ∧ EndsAt nested rest left := by
  unfold ReadsElements at read
  fun_induction readElements finish nested tokens generalizing elements left with
  | case1 => contradiction
  | case2 nested top =>
      cases read
      exact ⟨[], [], rfl, rfl, by simp [EndsAt, top]⟩
  | case3 pos rest =>
      cases read
      exact ⟨[], _, rfl, rfl, by simp [EndsAt]⟩
  | case4 => contradiction
  | case5 => contradiction
  | case6 => contradiction
  | case7 => contradiction
  | case8 => contradiction
  | case9 nested pos _ name _ _ named _ opened _ inner afterPackage _ inside more left _ after
      insideIH moreIH =>
      cases read
      rcases exists_qualified_of_readQualifiedName named with ⟨phrase, rfl, -, rfl⟩
      rcases exists_pos_of_readSymbol opened with ⟨opening, rfl⟩
      rcases insideIH (by rw [inside]; rfl) with ⟨inners, _, rfl, rfl, closing, rfl⟩
      rcases moreIH (by rw [after]; rfl) with ⟨phrases, rest, rfl, rfl, ends⟩
      refine ⟨.package pos phrase opening inners closing :: phrases, rest, rfl, ?_, ends⟩
      simp [tokensOf, ElementPhrase.tokens]
  | case10 => contradiction
  | case11 => contradiction
  | case12 nested _ _ _ _ decl afterDecl declared more left _ after ih =>
      cases read
      rcases exists_element_of_readDecl declared with ⟨phrase, same, spelled⟩
      rcases ih (by rw [after]; rfl) with ⟨phrases, rest, rfl, rfl, ends⟩
      refine ⟨phrase :: phrases, rest, ?_, ?_, ends⟩
      · rw [treesOf, same]
      · rw [spelled, tokensOf, List.append_assoc]

/-- Reading a whole source yields the tree of a derivation of its tokens. -/
theorem readsElements_iff {tokens left : List Token} {elements : List Element} :
    ReadsElements finish false tokens elements left ↔
      left = [] ∧ ∃ document, tokensOf document = tokens ∧ treesOf document = elements := by
  constructor
  · intro read
    rcases exists_elements_of_readsElements read with ⟨phrases, _, rfl, rfl, rfl, rfl⟩
    exact ⟨rfl, phrases, by simp, rfl⟩
  · rintro ⟨rfl, document, rfl, rfl⟩
    have read := readsElements_tokensOf document [] (by simp [Closed]) (.atEnd finish)
    simpa using read

theorem parse_eq_ok_iff_reads {source : List Char} {list : TokenList} {defs : Definitions}
    (cut : lex source = .ok list) :
    parse source = .ok defs ↔
      ∃ elements left, ReadsElements list.finish false list.tokens elements left ∧
        defs = { elements } := by
  simp only [parse, cut, ReadsElements]
  split
  · next failed => simp [failed, Except.map]
  · next elements left _ found => simp [found, Except.map, eq_comm]

/-- A source text means the tree of a derivation of its tokens. -/
theorem parse_eq_ok_iff {source : List Char} {list : TokenList} {defs : Definitions}
    (cut : lex source = .ok list) :
    parse source = .ok defs ↔
      ∃ document, tokensOf document = list.tokens ∧ defs = { elements := treesOf document } := by
  rw [parse_eq_ok_iff_reads cut]
  constructor
  · rintro ⟨elements, left, read, rfl⟩
    rcases readsElements_iff.mp read with ⟨-, document, spelled, rfl⟩
    exact ⟨document, spelled, rfl⟩
  · rintro ⟨document, spelled, rfl⟩
    exact ⟨treesOf document, [], readsElements_iff.mpr ⟨rfl, document, spelled, rfl⟩, rfl⟩

/-! ## What a tree holds -/

mutual

theorem ElementPhrase.exists_phrase_of_mem_visits (phrase : ElementPhrase)
    (path : List String) (visit : Visit) (member : visit ∈ phrase.tree.visits path) :
    ∃ inner : ElementPhrase, visit.element = inner.tree ∧ inner.tokens ⊆ phrase.tokens := by
  cases phrase with
  | package keyword name opening phrases closing =>
      rw [ElementPhrase.tree, Element.visits, List.mem_cons] at member
      rcases member with rfl | member
      · exact ⟨.package keyword name opening phrases closing, by rw [ElementPhrase.tree],
          fun _ => id⟩
      · rcases exists_phrase_of_mem_visitsIn phrases _ visit member with ⟨inner, same, within⟩
        refine ⟨inner, same, fun token found => ?_⟩
        simp only [ElementPhrase.tokens, List.mem_cons, List.mem_append]
        exact .inr (.inr (.inr (.inl (within found))))
  | dataType phrase =>
      rw [ElementPhrase.tree, Element.visits, List.mem_singleton] at member
      exact ⟨.dataType phrase, by rw [member, ElementPhrase.tree], fun _ => id⟩
  | entity phrase =>
      rw [ElementPhrase.tree, Element.visits, List.mem_singleton] at member
      exact ⟨.entity phrase, by rw [member, ElementPhrase.tree], fun _ => id⟩
  | enum phrase =>
      rw [ElementPhrase.tree, Element.visits, List.mem_singleton] at member
      exact ⟨.enum phrase, by rw [member, ElementPhrase.tree], fun _ => id⟩

/-- Whatever is visited in the tree of a document is the tree of a phrase of the
document. -/
theorem exists_phrase_of_mem_visitsIn (phrases : List ElementPhrase) (path : List String)
    (visit : Visit) (member : visit ∈ visitsIn path (treesOf phrases)) :
    ∃ inner : ElementPhrase, visit.element = inner.tree ∧ inner.tokens ⊆ tokensOf phrases := by
  cases phrases with
  | nil => simp [treesOf, visitsIn] at member
  | cons phrase phrases =>
      rw [treesOf, visitsIn, List.mem_append] at member
      rw [tokensOf]
      rcases member with member | member
      · rcases phrase.exists_phrase_of_mem_visits path visit member with ⟨inner, same, within⟩
        exact ⟨inner, same, List.subset_append_of_subset_left _ within⟩
      · rcases exists_phrase_of_mem_visitsIn phrases path visit member with ⟨inner, same, within⟩
        exact ⟨inner, same, List.subset_append_of_subset_right _ within⟩

end

theorem exists_phrase_of_mem_locatedTypes {document : List ElementPhrase}
    {path : List String} {decl : TypeDecl}
    (member : (path, decl) ∈ Definitions.locatedTypes { elements := treesOf document }) :
    ∃ phrase : ElementPhrase, phrase.tree = .type decl ∧
      phrase.tokens ⊆ tokensOf document := by
  simp only [Definitions.locatedTypes, Definitions.visits, List.mem_filterMap,
    Option.map_eq_some_iff, Prod.mk.injEq] at member
  rcases member with ⟨visit, visited, _, declared, -, rfl⟩
  rcases exists_phrase_of_mem_visitsIn document [] visit visited with ⟨phrase, same, within⟩
  refine ⟨phrase, ?_, within⟩
  rw [← same]
  generalize visit.element = element at declared
  cases element with
  | package => simp [Element.decl?] at declared
  | type => rw [Option.some.inj declared]
  | foreign => simp [Element.decl?] at declared

/-- The tokens of separated phrases are those of each phrase and the marks. -/
theorem Separated.tokens_subset {α : Type} (phrases : Separated α) (mark : Symbol)
    (spell : α → List Token) {phrase : α} (listed : phrase ∈ phrases.toList) :
    spell phrase ⊆ phrases.tokens mark spell := by
  intro token found
  rw [Separated.tokens, List.mem_append]
  rw [Separated.toList, List.mem_cons, List.mem_map] at listed
  rcases listed with rfl | ⟨next, listed, rfl⟩
  · exact .inl found
  · exact .inr (List.mem_flatMap.mpr ⟨next, listed, List.mem_cons_of_mem _ found⟩)

/-- Each reference of a declaration that was read is a dotted name of its phrase. -/
theorem exists_qualified_of_mem_refs {phrase : ElementPhrase} {decl : TypeDecl}
    (declared : phrase.tree = .type decl) {use : RefUse} {ref : Ref}
    (member : (use, ref) ∈ decl.refs) :
    ∃ name : QualifiedPhrase, name.ref = ref ∧ name.tokens ⊆ phrase.tokens := by
  cases phrase with
  | package => simp [ElementPhrase.tree] at declared
  | dataType phrase =>
      rcases Element.type.inj declared with rfl
      rcases phrase with ⟨pos, name, _ | ⟨equals, members⟩⟩
      · simp [TypeDecl.refs, DataTypePhrase.tree] at member
      · simp only [TypeDecl.refs, DataTypePhrase.tree, Option.elim_some, List.map_map,
          List.mem_map] at member
        rcases member with ⟨member, listed, same⟩
        cases same
        refine ⟨member, rfl, fun token found => ?_⟩
        simp only [ElementPhrase.tokens, DataTypePhrase.tokens, Option.elim_some,
          DataTypePhrase.unionTokens, List.mem_cons]
        exact .inr (.inr (.inr (members.tokens_subset _ _ listed found)))
  | entity phrase =>
      rcases Element.type.inj declared with rfl
      rcases phrase with ⟨pos, name, super, opening, features, closing⟩
      simp only [TypeDecl.refs, EntityPhrase.tree, List.map_map, List.mem_append, List.mem_map,
        Option.mem_toList, Option.map_eq_some_iff] at member
      rcases member with ⟨super, ⟨⟨extending, type⟩, rfl, rfl⟩, same⟩ | ⟨feature, listed, same⟩
      · cases same
        refine ⟨type, rfl, fun token found => ?_⟩
        simp [ElementPhrase.tokens, EntityPhrase.tokens, EntityPhrase.superTokens, found]
      · cases same
        refine ⟨feature.type, rfl, fun token found => ?_⟩
        have inFeature : token ∈ feature.tokens := by
          simp [FeaturePhrase.tokens, found]
        have inFeatures : token ∈ features.flatMap (·.tokens) :=
          List.mem_flatMap.mpr ⟨feature, listed, inFeature⟩
        simp [ElementPhrase.tokens, EntityPhrase.tokens, inFeatures]
  | enum phrase =>
      rcases Element.type.inj declared with rfl
      simp [TypeDecl.refs] at member

/-- A datatype that was read stands for the primitive of its name. -/
theorem primitive_of_tree {phrase : ElementPhrase} {type : DataType}
    (declared : phrase.tree = .type (.dataType type)) :
    type.primitive = Primitive.classify type.name := by
  cases phrase with
  | dataType phrase =>
      cases declared
      rfl
  | package => simp [ElementPhrase.tree] at declared
  | entity phrase => cases declared
  | enum phrase => cases declared

/-- The language that is read is exactly the one of the grammar, and what is read
is the tree of the only derivation. -/
theorem parse_iff_isSentence (source : List Char) (list : TokenList)
    (cut : lex source = .ok list) :
    ((∃ defs, parse source = .ok defs) ↔ IsSentence (list.tokens.map (·.lexeme))) ∧
      ∀ defs, parse source = .ok defs →
        (∃ document, defs = { elements := treesOf document } ∧
          tokensOf document = list.tokens ∧
          ∀ other, tokensOf other = list.tokens → other = document) ∧
        (∀ use ref, (use, ref) ∈ defs.refs → ref.target = none) ∧
        (∀ type ∈ defs.dataTypes, type.primitive = Primitive.classify type.name) := by
  refine ⟨⟨?_, ?_⟩, ?_⟩
  · rintro ⟨defs, parsed⟩
    rcases (parse_eq_ok_iff cut).mp parsed with ⟨document, spelled, -⟩
    exact ⟨document, by rw [spelled]⟩
  · rintro ⟨document, spelled⟩
    rcases exists_tokensOf_eq document list.tokens spelled.symm with ⟨placed, spelled⟩
    exact ⟨_, (parse_eq_ok_iff cut).mpr ⟨placed, spelled, rfl⟩⟩
  · intro defs parsed
    rcases (parse_eq_ok_iff cut).mp parsed with ⟨document, spelled, rfl⟩
    refine ⟨⟨document, rfl, spelled, ?_⟩, ?_, ?_⟩
    · intro other same
      exact tokensOf_injective (same.trans spelled.symm)
    · intro use ref member
      simp only [Definitions.refs, Definitions.types, List.mem_flatMap, List.mem_map] at member
      rcases member with ⟨_, ⟨⟨path, decl⟩, located, rfl⟩, member⟩
      rcases exists_phrase_of_mem_locatedTypes located with ⟨phrase, declared, -⟩
      rcases exists_qualified_of_mem_refs declared member with ⟨name, rfl, -⟩
      rfl
    · intro type listed
      rcases List.mem_filterMap.mp listed with ⟨decl, member, kind⟩
      rcases TypeDecl.dataType?_eq_some_iff.mp kind with rfl
      rcases List.mem_map.mp member with ⟨⟨path, _⟩, located, rfl⟩
      rcases exists_phrase_of_mem_locatedTypes located with ⟨phrase, declared, -⟩
      exact primitive_of_tree declared

/-- A model with an escaped keyword as a name, modifiers and a comma behind the last
literal. -/
def sampleSource : List Char :=
  "package a.b \x7b entity ^many \x7b nonNullable many x: b.C \x7d enum D \x7b E, \x7d \x7d".toList

theorem parse_iff_isSentence_sample :
    ∃ list, lex sampleSource = .ok list ∧ IsSentence (list.tokens.map (·.lexeme)) ∧
      ∃ document, tokensOf document = list.tokens ∧
        ∀ other, tokensOf other = list.tokens → other = document := by
  obtain ⟨list, cut⟩ : ∃ list, lex sampleSource = .ok list :=
    exists_eq_ok_of_isSome (by decide +kernel)
  obtain ⟨defs, parsed⟩ : ∃ defs, parse sampleSource = .ok defs :=
    exists_eq_ok_of_isSome (by decide +kernel)
  have meaning := parse_iff_isSentence sampleSource list cut
  rcases meaning.2 defs parsed with ⟨⟨document, -, spelled, only⟩, -⟩
  exact ⟨list, cut, meaning.1.mp ⟨defs, parsed⟩, document, spelled, only⟩

end DomainGen.Ddef
