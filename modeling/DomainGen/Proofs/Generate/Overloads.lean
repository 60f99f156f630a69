import DomainGen.Proofs.Analysis.Membership
import DomainGen.Proofs.Generate.Mentions
import DomainGen.Proofs.Generate.Splitting
import Mathlib.Data.Finset.Card

/-!
# The accessors for the members of a union

A class has one more setter and one more getter of a feature for each primitive that the
members of its union stand for.  Members that mean the same type are counted once by the
analysis, and members that mean different types for the same primitive, such as `string`
and `String`, once by the class.  Together this leaves the primitives of the members, each
at its first occurrence (`map_primitive_aliasesOf`).

The types of these setters differ, and so do the names of these getters, although a getter
is named by the own spelling of a member, as long as the spellings agree with what the members
stand for.  What is not told apart is the type of the feature itself: a union that is called
like the type for one of its members has two setters for it (`nodup_signatures_iff`).
-/

namespace DomainGen

/-! ## Lists without repetition -/

section FirstOccurrences

variable {α β γ : Type} [BEq γ]

/-- For each entry there is one with the same key that is kept. -/
theorem any_firstOccurrences [ReflBEq γ] {key : α → γ} {entries : List α} {entry : α}
    (listed : entry ∈ entries) :
    (firstOccurrences key entries).any (key · == key entry) := by
  induction entries using List.reverseRecOn with
  | nil => contradiction
  | append_singleton entries last ih =>
      rw [firstOccurrences_append_singleton]
      rw [List.mem_append, List.mem_singleton] at listed
      split
      · next present =>
        obtain earlier | rfl := listed
        · exact ih earlier
        · exact present
      · rw [List.any_append, Bool.or_eq_true]
        obtain earlier | rfl := listed
        · exact .inl (ih earlier)
        · simp

/-- Entries that have been seen make no difference to the images that are kept. -/
theorem firstOccurrences_filterMap_firstOccurrences [DecidableEq α] [ReflBEq γ] (key : β → γ)
    (image : α → Option β) (entries : List α) :
    firstOccurrences key ((firstOccurrences id entries).filterMap image) =
      firstOccurrences key (entries.filterMap image) := by
  induction entries using List.reverseRecOn with
  | nil => rfl
  | append_singleton entries last ih =>
      rw [firstOccurrences_id_concat, List.filterMap_append]
      split
      · next seen =>
        cases found : image last with
        | none => simpa [found] using ih
        | some value =>
            have listed : value ∈ entries.filterMap image :=
              List.mem_filterMap.mpr ⟨last, seen, found⟩
            simp only [List.filterMap_cons, found, List.filterMap_nil]
            rw [firstOccurrences_append_singleton, if_pos (any_firstOccurrences listed), ih]
      · rw [List.filterMap_append]
        cases found : image last with
        | none => simpa [found] using ih
        | some value =>
            simp only [List.filterMap_cons, found, List.filterMap_nil]
            rw [firstOccurrences_append_singleton, firstOccurrences_append_singleton, ih]

theorem firstOccurrences_id_eq_eraseDups [DecidableEq α] (entries : List α) :
    firstOccurrences id entries = entries.eraseDups := by
  induction entries using List.reverseRecOn with
  | nil => rfl
  | append_singleton entries last ih =>
      rw [firstOccurrences_id_concat, List.eraseDups_append, ih]
      by_cases seen : last ∈ entries
      · simp [List.removeAll, seen]
      · simp [List.removeAll, seen, List.eraseDups_cons]

theorem nodup_eraseDups [DecidableEq α] (entries : List α) : entries.eraseDups.Nodup := by
  rw [← firstOccurrences_id_eq_eraseDups]
  induction entries using List.reverseRecOn with
  | nil => exact List.nodup_nil
  | append_singleton entries last ih =>
      rw [firstOccurrences_id_concat]
      split
      · exact ih
      · next fresh =>
        rw [← mem_firstOccurrences_id] at fresh
        exact ih.append (List.nodup_singleton last) (List.disjoint_singleton.mpr fresh)

theorem length_eraseDups [DecidableEq α] (entries : List α) :
    entries.eraseDups.length = entries.toFinset.card := by
  rw [← List.toFinset_card_of_nodup (nodup_eraseDups entries)]
  congr 1
  ext entry
  simp

end FirstOccurrences

/-! ## Spellings of primitives -/

/-- The word for a primitive is known without its first letter. -/
theorem Primitive.eq_of_tail_eq {one other : Primitive}
    (same : one.name.toList.tail = other.name.toList.tail) : one = other := by
  have found : ∀ primitive : Primitive, Primitive.all.find?
      (fun candidate => candidate.name.toList.tail = primitive.name.toList.tail) =
        some primitive := by
    rintro ⟨⟩ <;> rfl
  have foundOne := found one
  rw [same, found other] at foundOne
  exact (Option.some_inj.mp foundOne).symm

theorem Primitive.map_lower_of_classify {name : String} {primitive : Primitive}
    (stands : Primitive.classify name = some primitive) :
    name.toList.map Text.lower = primitive.name.toList := by
  have same := List.find?_some stands
  rw [beq_iff_eq] at same
  rw [same, Text.lowerCase, String.toList_map]

theorem Text.tail_upperFirst (text : String) :
    (Text.upperFirst text).toList.tail = text.toList.tail := by
  rw [Text.upperFirst]
  split
  · rfl
  · next first rest split => rw [split, String.toList_ofList, List.tail_cons, List.tail_cons]

/-- Spellings of different primitives differ also with a capital, whichever their letters
are. -/
theorem Primitive.eq_of_upperFirst_eq {one other : String} {primitive another : Primitive}
    (stands : Primitive.classify one = some primitive)
    (standsOther : Primitive.classify other = some another)
    (same : Text.upperFirst one = Text.upperFirst other) : primitive = another := by
  apply Primitive.eq_of_tail_eq
  rw [← map_lower_of_classify stands, ← map_lower_of_classify standsOther, ← List.map_tail,
    ← List.map_tail, ← Text.tail_upperFirst one, ← Text.tail_upperFirst other, same]

namespace Java

theorem boxedName_injective : Function.Injective boxedName := by
  have found : ∀ primitive, Primitive.all.find? (boxedName · = boxedName primitive) =
      some primitive := by
    rintro ⟨⟩ <;> rfl
  intro one other same
  have foundOne := found one
  rw [same, found other] at foundOne
  exact (Option.some_inj.mp foundOne).symm

/-- The type for a primitive is not one of arrays. -/
theorem boxedName_ne_array (primitive : Primitive) (name : String) :
    boxedName primitive ≠ name ++ "[]" := by
  intro same
  have last : (boxedName primitive).toList.getLast? = some ']' := by
    rw [same, String.toList_append, List.getLast?_append]
    rfl
  cases primitive <;> exact absurd last (by decide)

end Java

/-! ## The primitives of the members of a union -/

section Tags

variable (scope : Scope)

/-- The primitive that a member of a union stands for, if there are accessors for it. -/
def Scope.aliasTag? (member : Ref) : Option Primitive :=
  ((scope.dataType? member).bind (·.primitive)).filter (·.isAliasable)

/-- The primitives that the members of the type of a feature stand for, in order. -/
def Scope.aliasTags (feature : Feature) : List Primitive :=
  ((scope.dataType? feature.type).elim [] (·.members)).filterMap scope.aliasTag?

end Tags

namespace Java

/-- The datatypes that the members of a union mean, as far as there are accessors for them,
stand for the primitives of the members. -/
theorem map_primitive_members (scope : Scope) (members : List Ref) :
    (((members.filterMap (·.target)).filter scope.isAliasable).filterMap fun id =>
      (scope.type? id).bind (·.dataType?)).map (·.primitive) =
        (members.filterMap scope.aliasTag?).map some := by
  rw [List.filterMap_filter, List.filterMap_filterMap, List.map_filterMap, List.map_filterMap]
  apply List.filterMap_congr
  intro member _
  rw [Scope.aliasTag?, Scope.dataType?, Scope.target?]
  cases member.target with
  | none => rfl
  | some id =>
      cases found : (scope.type? id).bind (·.dataType?) with
      | none => simp [Scope.isAliasable, found]
      | some type =>
          cases stands : type.primitive with
          | none => simp [Scope.isAliasable, DataType.isAliasable, found, stands]
          | some primitive =>
              cases offered : primitive.isAliasable with
              | false => simp [Scope.isAliasable, DataType.isAliasable, found, stands, offered]
              | true => simp [Scope.isAliasable, DataType.isAliasable, found, stands, offered]

/-- If some datatypes stand for primitives, then so does each of them. -/
theorem exists_primitive_of_mem {types : List DataType} {tags : List Primitive}
    (stand : types.map (·.primitive) = tags.map some) {type : DataType} (listed : type ∈ types) :
    ∃ tag, type.primitive = some tag := by
  have stands := List.mem_map_of_mem (f := (·.primitive)) listed
  rw [stand, List.mem_map] at stands
  obtain ⟨tag, -, same⟩ := stands
  exact ⟨tag, same.symm⟩

/-- The primitive members of a union stand for the primitives of its members, each at its
first occurrence. -/
theorem map_primitive_primitives (scope : Scope) (union : DataType) :
    (primitives scope (.dataType union)).map (·.primitive) =
      (union.members.filterMap scope.aliasTag?).eraseDups.map some := by
  have members := map_primitive_members scope union.members
  rw [primitives, firstOccurrences_filterMap_firstOccurrences, TypeDecl.targets]
  generalize ((union.members.filterMap (·.target)).filter scope.isAliasable).filterMap
    (fun id => (scope.type? id).bind (·.dataType?)) = types at members ⊢
  -- The types of the members differ where their primitives do.
  have keys : firstOccurrences aliasType types = firstOccurrences (id ∘ (·.primitive)) types := by
    apply firstOccurrences_congr
    intro one member other listed
    obtain ⟨primitive, standsOne⟩ := exists_primitive_of_mem members member
    obtain ⟨another, standsOther⟩ := exists_primitive_of_mem members listed
    rw [Bool.eq_iff_iff, beq_iff_eq, beq_iff_eq]
    simp [aliasType, standsOne, standsOther, boxedName_injective.eq_iff]
  have tags : firstOccurrences (id ∘ some) (union.members.filterMap scope.aliasTag?) =
      (union.members.filterMap scope.aliasTag?).eraseDups := by
    rw [← firstOccurrences_id_eq_eraseDups]
    apply firstOccurrences_congr
    intro one _ other _
    rfl
  rw [keys, ← firstOccurrences_map, members, firstOccurrences_map, tags]

/-- The primitives that the members of the type of a feature stand for, as they are known
where classes are generated for the document at a position: a union of another document
has no members there. -/
def knownTags (docs : List Document) (position : Nat) (feature : Feature) : List Primitive :=
  if feature.type.target.any (·.document = position) then
    (Scope.ofDocuments docs).aliasTags feature
  else []

/-- The primitive members of the type of a feature stand for the known primitives, each at
its first occurrence. -/
theorem map_primitive_aliasesOf (docs : List Document) (position : Nat) (feature : Feature) :
    (aliasesOf (Scope.ofDocuments docs) (analysisAt docs position) feature).map (·.primitive) =
      (knownTags docs position feature).eraseDups.map some := by
  rw [aliasesOf_analysisAt, knownTags, Scope.aliasTags, Scope.dataType?, Scope.target?]
  cases feature.type.target with
  | none => rfl
  | some target =>
      rw [Option.filter_some, Option.any_some, Option.bind_some]
      split
      · rw [Option.elim_some]
        cases (Scope.ofDocuments docs).type? target with
        | none => rfl
        | some decl =>
            cases decl with
            | dataType union => exact map_primitive_primitives (Scope.ofDocuments docs) union
            | entity type => rfl
            | enum type => rfl
            | foreign name => rfl
      · rfl

/-- In a document that is linked alone, every union is known. -/
theorem knownTags_link (doc : Document) (feature : Feature) :
    knownTags (link [0] [doc]) 0 feature =
      (Scope.ofDocuments (link [0] [doc])).aliasTags feature := by
  rw [knownTags]
  split
  · rfl
  · next elsewhere =>
    rw [Scope.aliasTags]
    cases found : (Scope.ofDocuments (link [0] [doc])).dataType? feature.type with
    | none => rfl
    | some union =>
        simp only [Scope.dataType?, Scope.target?, Option.bind_eq_some_iff] at found
        obtain ⟨decl, ⟨target, means, declared⟩, -⟩ := found
        have inside : target.document < [doc].length := document_lt_of_type? declared
        rw [means, Option.any_some, decide_eq_true_eq] at elsewhere
        exact absurd (Nat.lt_one_iff.mp inside) elsewhere

/-- The primitive members of a union are marked as in their documents. -/
theorem primitive_of_mem_aliasesOf {docs : List Document} (tagged : ∀ doc ∈ docs, doc.IsTagged)
    {position : Nat} {feature : Feature} {type : DataType}
    (member : type ∈ aliasesOf (Scope.ofDocuments docs) (analysisAt docs position) feature) :
    type.primitive = Primitive.classify type.name := by
  rw [aliasesOf_analysisAt] at member
  cases target : feature.type.target.filter (·.document = position) with
  | none =>
      rw [target] at member
      contradiction
  | some id =>
      rw [target, Option.elim_some] at member
      cases found : (Scope.ofDocuments docs).type? id with
      | none =>
          rw [found] at member
          contradiction
      | some decl =>
          rw [found, Option.elim_some] at member
          obtain ⟨other, -, declared⟩ :=
            List.mem_filterMap.mp (mem_of_mem_firstOccurrences member)
          obtain ⟨_, known, shape⟩ := Option.bind_eq_some_iff.mp declared
          rw [TypeDecl.dataType?_eq_some_iff.mp shape, Scope.type?_definitionsAt] at known
          exact primitive_of_mem_types tagged (List.mem_of_getElem? known)

/-! ## Types and names for different primitives -/

section Distinct

variable {types : List DataType} {tags : List Primitive}
  (stand : types.map (·.primitive) = tags.map some)
include stand

theorem map_aliasType_of_primitive : types.map aliasType = tags.map boxedName := by
  induction types generalizing tags with
  | nil =>
      cases tags with
      | nil => rfl
      | cons tag tags => contradiction
  | cons type types ih =>
      cases tags with
      | nil => contradiction
      | cons tag tags =>
          rw [List.map_cons, List.map_cons, List.cons.injEq] at stand
          rw [List.map_cons, List.map_cons, ih stand.2, aliasType, stand.1]
          rfl

/-- Datatypes that are named for different primitives have different names, also with a
capital. -/
theorem nodup_upperFirst_of_primitive
    (named : ∀ type ∈ types, type.primitive = Primitive.classify type.name)
    (distinct : tags.Nodup) : (types.map fun type => Text.upperFirst type.name).Nodup := by
  have apart : (types.map (·.primitive)).Nodup := by
    rw [stand]
    exact distinct.map (Option.some_injective _)
  rw [List.Nodup, List.pairwise_map] at apart ⊢
  apply apart.imp_of_mem
  intro one other member listed different same
  obtain ⟨primitive, standsOne⟩ := exists_primitive_of_mem stand member
  obtain ⟨another, standsOther⟩ := exists_primitive_of_mem stand listed
  have equal := Primitive.eq_of_upperFirst_eq ((named one member).symm.trans standsOne)
    ((named other listed).symm.trans standsOther) same
  exact different (by rw [standsOne, standsOther, equal])

end Distinct

/-! ## Clashes -/

/-- What tells overloads apart: the name of a method and the type of its parameter. -/
def Method.signature (method : Method) : String × Option String :=
  (method.name, method.parameter.map (·.1))

namespace Accessors

variable (accessors : Accessors)

theorem signature_setter (type : String) :
    (accessors.setter type).signature = ("set" ++ accessors.capitalized, some type) := rfl

theorem signature_getter :
    accessors.getter.signature = ("get" ++ accessors.capitalized, none) := rfl

theorem signature_aliasGetter (type : DataType) :
    (accessors.aliasGetter type).signature =
      ("get" ++ accessors.capitalized ++ "As" ++ Text.upperFirst type.name, none) := rfl

variable {accessors}

/-- A setter is told apart from another by its type only. -/
theorem nodup_signature_setters {types : List String} :
    (types.map fun type => (accessors.setter type).signature).Nodup ↔ types.Nodup := by
  apply List.nodup_map_iff
  intro one other same
  simp only [signature_setter, Prod.mk.injEq, Option.some_inj, true_and] at same
  exact same

/-- A getter is told apart from another by the name of the primitive member only. -/
theorem nodup_signature_getters :
    ((accessors.getter :: accessors.aliases.map accessors.aliasGetter).map
      (·.signature)).Nodup ↔
        (accessors.aliases.map fun type => Text.upperFirst type.name).Nodup := by
  have apart : accessors.getter.signature ∉
      (accessors.aliases.map accessors.aliasGetter).map (·.signature) := by
    intro listed
    simp only [List.map_map, List.mem_map, Function.comp_apply, signature_aliasGetter,
      signature_getter, Prod.mk.injEq, and_true] at listed
    obtain ⟨type, -, same⟩ := listed
    have lengths := congrArg String.length same
    have word : "As".length = 2 := by decide
    simp only [String.length_append, word] at lengths
    omega
  rw [List.map_cons, List.nodup_cons, and_iff_right apart, List.map_map, List.Nodup, List.Nodup,
    List.pairwise_map, List.pairwise_map]
  simp only [Function.comp_apply, signature_aliasGetter, ne_eq, Prod.mk.injEq,
    String.append_right_inj, and_true]

/-- If the primitive members have different types, then the setter for the type of the feature
is the only setter that can clash, and a getter clashes only with one for a member of the same
name. -/
theorem nodup_signatures (types : (accessors.aliases.map aliasType).Nodup) :
    (accessors.methods.map (·.signature)).Nodup ↔
      accessors.type ∉ accessors.aliases.map aliasType ∧
        (accessors.aliases.map fun type => Text.upperFirst type.name).Nodup := by
  have split : accessors.methods.map (·.signature) =
      ((accessors.type :: accessors.aliases.map aliasType).map
        fun type => (accessors.setter type).signature) ++
      (accessors.getter :: accessors.aliases.map accessors.aliasGetter).map (·.signature) := by
    simp [methods]
  -- A setter has a parameter, a getter has none.
  have apart : ∀ stored ∈ (accessors.type :: accessors.aliases.map aliasType).map
      (fun type => (accessors.setter type).signature),
      ∀ read ∈ (accessors.getter :: accessors.aliases.map accessors.aliasGetter).map
        (·.signature), stored ≠ read := by
    intro stored setter read getter same
    obtain ⟨type, -, rfl⟩ := List.mem_map.mp setter
    simp only [List.map_cons, List.map_map, List.mem_cons, List.mem_map,
      Function.comp_apply, signature_getter, signature_aliasGetter] at getter
    rw [signature_setter] at same
    obtain rfl | ⟨member, -, rfl⟩ := getter
    · cases congrArg Prod.snd same
    · cases congrArg Prod.snd same
  rw [split, List.nodup_append, nodup_signature_setters, List.nodup_cons,
    nodup_signature_getters]
  constructor
  · rintro ⟨⟨fresh, -⟩, names, -⟩
    exact ⟨fresh, names⟩
  · rintro ⟨fresh, names⟩
    exact ⟨⟨fresh, types⟩, names, apart⟩

end Accessors

/-- No two methods for a feature have the same name and the same type of parameter, unless
the feature holds one value and its type is spelled like that for one of the primitives
which the members of its union stand for, or two of these members have the same name.  The
latter does not happen where every datatype is marked as its name says. -/
theorem nodup_signatures_iff (docs : List Document) (position : Nat) (feature : Feature) :
    let accessors := accessorsAt docs position feature
    let names := accessors.aliases.map fun type => Text.upperFirst type.name
    ((accessors.methods.map (·.signature)).Nodup ↔
      ¬ (feature.many = false ∧ ∃ tag ∈ knownTags docs position feature,
          boxedName tag = (Scope.ofDocuments docs).typeName builtins feature.type) ∧
        names.Nodup) ∧
      ((∀ doc ∈ docs, doc.IsTagged) → names.Nodup) := by
  intro accessors names
  have stand : (accessorsAt docs position feature).aliases.map (·.primitive) =
      (knownTags docs position feature).eraseDups.map some :=
    map_primitive_aliasesOf docs position feature
  have distinct := nodup_eraseDups (knownTags docs position feature)
  have spelled := map_aliasType_of_primitive stand
  have types : ((accessorsAt docs position feature).aliases.map aliasType).Nodup := by
    rw [spelled]
    exact distinct.map boxedName_injective
  refine ⟨?_, fun tagged => nodup_upperFirst_of_primitive stand
    (fun type member => primitive_of_mem_aliasesOf tagged member) distinct⟩
  rw [Accessors.nodup_signatures types, spelled, and_congr_left_iff]
  intro _
  rw [not_iff_not, List.mem_map]
  have own : (accessorsAt docs position feature).type =
      (Scope.ofDocuments docs).featureType builtins feature := rfl
  rw [own, Scope.featureType]
  simp only [List.mem_eraseDups]
  cases feature.many with
  | false => simp
  | true => simp [boxedName_ne_array]

/-- A union that is called like the type for its member. -/
def boxedUnionDoc : Document :=
  .ofSource "datatype int\ndatatype Integer = int\nentity A \x7b x: Integer \x7d\n"

/-- The setter for the feature and the one for the member of its union clash. -/
theorem not_nodup_signatures_boxedUnionDoc :
    ∃ path type feature,
      (definitionsAt (link [0] [boxedUnionDoc]) 0).locatedTypes[2]? =
        some (path, .entity type) ∧
      feature ∈ type.features ∧ boxedUnionDoc.IsRead ∧
      (accessorsAt (link [0] [boxedUnionDoc]) 0 feature).methods.map (·.signature) =
        [("setX", some "Integer"), ("setX", some "Integer"), ("getX", none),
          ("getXAsInt", none)] ∧
      ¬ ((accessorsAt (link [0] [boxedUnionDoc]) 0 feature).methods.map (·.signature)).Nodup := by
  have computed : ((definitionsAt (link [0] [boxedUnionDoc]) 0).locatedTypes[2]?).any
      fun located => located.2.entity?.any fun type => type.features.any fun feature =>
        (accessorsAt (link [0] [boxedUnionDoc]) 0 feature).methods.map (·.signature) =
          [("setX", some "Integer"), ("setX", some "Integer"), ("getX", none),
            ("getXAsInt", none)] := by
    decide +kernel
  simp only [Option.any_eq_true, List.any_eq_true, decide_eq_true_eq,
    TypeDecl.entity?_eq_some_iff] at computed
  obtain ⟨⟨path, _⟩, located, type, rfl, feature, member, signatures⟩ := computed
  refine ⟨path, type, feature, located, member, Document.isRead_ofSource _, signatures, ?_⟩
  rw [signatures]
  decide

/-! ## Accessors that follow a union -/

/-- The type for a primitive. -/
def TypeUse.boxed (primitive : Primitive) : TypeUse := { name := boxedName primitive }

theorem TypeUse.boxed_injective : Function.Injective TypeUse.boxed := by
  intro one other same
  exact boxedName_injective (congrArg TypeUse.name same)

section Follow

variable {types : List DataType} {tags : List Primitive}
  (stand : types.map (·.primitive) = tags.map some)
include stand

theorem map_ofAlias_of_primitive : types.map TypeUse.ofAlias = tags.map TypeUse.boxed := by
  have spelled := congrArg (List.map fun name => ({ name } : TypeUse))
    (map_aliasType_of_primitive stand)
  rw [List.map_map, List.map_map] at spelled
  exact spelled

theorem isEmpty_of_primitive : (!types.isEmpty) = decide (0 < tags.length) := by
  have lengths := congrArg List.length stand
  rw [List.length_map, List.length_map] at lengths
  rw [← lengths]
  cases types with
  | nil => rfl
  | cons type types => simp

/-- Result, parameter and statement of a getter for a member are those for its primitive. -/
theorem map_aliasGetterSource_of_primitive (feature : Feature) :
    (types.map (aliasGetterSource feature)).map
        (fun getter => (getter.result, getter.parameter, getter.statement)) =
      tags.map fun tag => (some (.boxed tag), none, .fetchIf (.boxed tag) (.boxed tag)) := by
  have view : (fun getter : MethodSource => (getter.result, getter.parameter, getter.statement)) ∘
      aliasGetterSource feature =
        (fun use : TypeUse => (some use, none, .fetchIf use use)) ∘ TypeUse.ofAlias := rfl
  rw [List.map_map, view, ← List.map_map, map_ofAlias_of_primitive stand, List.map_map]
  rfl

theorem nodup_name_aliasGetterSource
    (named : ∀ type ∈ types, type.primitive = Primitive.classify type.name) (feature : Feature)
    (distinct : tags.Nodup) : ((types.map (aliasGetterSource feature)).map (·.name)).Nodup := by
  have names := nodup_upperFirst_of_primitive stand named distinct
  rw [List.Nodup, List.pairwise_map] at names
  rw [List.map_map, List.Nodup, List.pairwise_map]
  apply names.imp
  intro one other different same
  simp only [Function.comp_apply, aliasGetterSource, String.append_right_inj] at same
  exact different same

end Follow

/-- The class of an entity that is linked alone has for each feature a setter and a getter
of the type of the feature, and one more of each for every primitive that the members of
its union stand for, in the order in which these first occur.  The setters and getters for
primitives come with the same types, which are all different, and the names of the getters
are different, although they spell the names of the members, if these are marked as their names
say.

The field is an object instead of a value of the type of the feature, and the getter has a
cast, exactly if there is any such primitive.  (The field for a type that is itself called
`Object` reads the same, but its getter has no cast.) -/
theorem methodSources_follow_union (doc : Document) (options : GenerateOptions) (index : Nat)
    (path : List String) (type : Entity)
    (located : (definitionsAt (link [0] [doc]) 0).locatedTypes[index]? =
      some (path, .entity type))
    (feature : Feature) (member : feature ∈ type.features) :
    let docs := link [0] [doc]
    let scope := Scope.ofDocuments docs
    let source := ClassSource.ofEntity scope (analysisAt docs 0) ⟨0, index⟩ type
    let package := rootPath options ++ path
    let own := TypeUse.ofFeature scope feature
    let field := fieldUse scope (analysisAt docs 0) feature
    let methods := methodSources scope (analysisAt docs 0) feature
    let tags := (scope.aliasTags feature).eraseDups
    let k := (scope.aliasTags feature).toFinset.card
    .file (Text.join "/" (sourceNames package type.name)) (renderFile package source.text) ∈
        artifactsAt .java options docs 0 ∧
      (field, feature.name) ∈ source.fields ∧ methods <:+: source.methods ∧
      tags.length = k ∧
      ∃ aliases : List DataType, aliases.map (·.primitive) = tags.map some ∧
        methods = setterSource feature own :: tags.map (setterSource feature ∘ .boxed) ++
          getterSource feature own (0 < k) :: aliases.map (aliasGetterSource feature) ∧
        (aliases.map (aliasGetterSource feature)).map
            (fun getter => (getter.result, getter.parameter, getter.statement)) =
          tags.map (fun tag => (some (.boxed tag), none, .fetchIf (.boxed tag) (.boxed tag))) ∧
        (tags.map TypeUse.boxed).Nodup ∧
        (doc.IsTagged → ((aliases.map (aliasGetterSource feature)).map (·.name)).Nodup) ∧
        field = (if 0 < k then { name := "Object" } else own) ∧
        ((field.text = "Object" ∧
          (getterSource feature own (0 < k)).statement = .fetch (some own)) ↔ 0 < k) := by
  intro docs scope source package own field methods tags k
  have length : tags.length = k := length_eraseDups (scope.aliasTags feature)
  have distinct : tags.Nodup := nodup_eraseDups (scope.aliasTags feature)
  have stand : (aliasesOf scope (analysisAt docs 0) feature).map (·.primitive) =
      tags.map some := by
    rw [map_primitive_aliasesOf, knownTags_link]
  have filled := isEmpty_of_primitive stand
  rw [length] at filled
  have stored : field = (if 0 < k then { name := "Object" } else own) := by
    change (if (aliasesOf scope (analysisAt docs 0) feature).isEmpty then own else _) = _
    by_cases some : 0 < k
    · rw [decide_eq_true some, Bool.not_eq_true'] at filled
      rw [if_pos some, filled]
      rfl
    · rw [decide_eq_false some, Bool.not_eq_false'] at filled
      rw [if_neg some, if_pos filled]
  refine ⟨?_, ?_, ?_, length, aliasesOf scope (analysisAt docs 0) feature, stand, ?_,
    map_aliasGetterSource_of_primitive stand feature, distinct.map TypeUse.boxed_injective,
    ?_, stored, ?_⟩
  · have rendered : renderType? scope (analysisAt docs 0) ⟨0, index⟩ (.entity type) =
        some source.text := by
      rw [text_ofEntity]
      rfl
    exact file_mem_artifactsAt located rendered
  · exact List.mem_map_of_mem member
  · change methods <:+: type.features.flatMap (methodSources scope (analysisAt docs 0))
    rw [List.flatMap_def]
    exact List.infix_of_mem_flatten (List.mem_map_of_mem member)
  · rw [← filled, ← List.map_map, ← map_ofAlias_of_primitive stand, List.map_map]
    rfl
  · intro tagged
    have linked : ∀ other ∈ docs, other.IsTagged :=
      isTagged_link (by decide) (by simpa using tagged)
    exact nodup_name_aliasGetterSource stand
      (fun type listed => primitive_of_mem_aliasesOf linked listed) feature distinct
  · rw [stored]
    by_cases some : 0 < k
    · simp [some, TypeUse.text, getterSource]
    · simp [some, getterSource]

/-- A union with two members for one primitive, one for another, one that means nothing and
one that is an entity. -/
def repeatedMemberDoc : Document :=
  .ofSource ("datatype string datatype String datatype int " ++
    "datatype U = String | Ghost | string | A | int entity A\x7bx: U\x7d")

theorem methodSources_follow_union_repeatedMemberDoc :
    ∃ path type feature, (definitionsAt (link [0] [repeatedMemberDoc]) 0).locatedTypes[4]? =
        some (path, .entity type) ∧ feature ∈ type.features ∧
      let scope := Scope.ofDocuments (link [0] [repeatedMemberDoc])
      let analysis := analysisAt (link [0] [repeatedMemberDoc]) 0
      scope.aliasTags feature = [.string, .string, .int] ∧
      fieldUse scope analysis feature = { name := "Object" } ∧
      ∃ aliases : List DataType, aliases.map (·.primitive) = [some .string, some .int] ∧
        methodSources scope analysis feature =
          [setterSource feature { name := "U" }, setterSource feature { name := "String" },
            setterSource feature { name := "Integer" },
            getterSource feature { name := "U" } true] ++
          aliases.map (aliasGetterSource feature) ∧
        ((aliases.map (aliasGetterSource feature)).map (·.name)).Nodup := by
  have computed : ((definitionsAt (link [0] [repeatedMemberDoc]) 0).locatedTypes[4]?).any
      fun located => located.2.entity?.any fun type => type.features.any fun feature =>
        (Scope.ofDocuments (link [0] [repeatedMemberDoc])).aliasTags feature =
          [.string, .string, .int] &&
        TypeUse.ofFeature (Scope.ofDocuments (link [0] [repeatedMemberDoc])) feature =
          { name := "U" } := by
    decide +kernel
  simp only [Option.any_eq_true, List.any_eq_true, Bool.and_eq_true, decide_eq_true_eq,
    TypeDecl.entity?_eq_some_iff] at computed
  obtain ⟨⟨path, _⟩, located, type, rfl, feature, member, tags, own⟩ := computed
  obtain ⟨-, -, -, -, aliases, stand, methods, -, -, names, field, -⟩ :=
    methodSources_follow_union repeatedMemberDoc {} 4 path type located feature member
  have count : (Scope.aliasTags (.ofDocuments (link [0] [repeatedMemberDoc])) feature).toFinset.card
      = 2 := by
    rw [tags]
    decide
  have distinct : [Primitive.string, .string, .int].eraseDups = [.string, .int] := by decide
  rw [tags, distinct] at stand
  rw [tags, distinct, ← tags, count, own] at methods
  rw [count] at field
  have tagged : repeatedMemberDoc.IsTagged := (Document.isRead_ofSource _).isTagged
  exact ⟨path, type, feature, located, member, tags, field, aliases, stand, methods, names tagged⟩

end Java

end DomainGen
