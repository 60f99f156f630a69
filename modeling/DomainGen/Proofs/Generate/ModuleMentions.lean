import DomainGen.Proofs.Generate.DeclaredTypes
import DomainGen.Proofs.Generate.Extension
import DomainGen.Proofs.Generate.Overloads

/-!
# The types that generated modules mention

Where every reference of a model is resolved to a type of the same model, the module for it
mentions, behind `extends`, as the type of a property or as an alternative of a union, only
types that the language has, types that the module declares, and datatypes without members
(`declared_of_mentioned`).  The latter are left to whoever uses the module.

What is declared depends on the kind of the declaration, and what is mentioned on what
the references mean.  The two agree because both treat a datatype as built in by its name
alone: a union with the name of a built-in type is neither declared nor mentioned.
-/

namespace DomainGen

/-- The entries that are kept stand in the order in which they first occur. -/
theorem pairwise_idxOf_firstOccurrences {α : Type} [DecidableEq α] (entries : List α) :
    (firstOccurrences id entries).Pairwise fun one other =>
      entries.idxOf one < entries.idxOf other := by
  have ordered := pairwise_firstOccurrences (entries.map some) fun _ => true
  have same : ((entries.map some).filterMap id).filter (fun _ => true) = entries := by
    simp [List.filterMap_map]
  have position : ∀ entry, (entries.map some).idxOf (some entry) = entries.idxOf entry := by
    intro entry
    simp only [List.idxOf, List.findIdx_map]
    congr 1
  rw [same] at ordered
  simpa only [position] using ordered

namespace TypeScript

/-- The names of types that an interface mentions: the interface that it extends, and the
types of its properties. -/
def InterfaceSource.mentions (source : InterfaceSource) : List String :=
  source.super.toList ++ source.properties.map (·.type)

/-- The module for the model at a position. -/
def moduleAt (docs : List Document) (position : Nat) : List Item :=
  items (Scope.ofDocuments docs) position (definitionsAt docs position)

/-- How a module can mention a name. -/
inductive Mentionable (docs : List Document) (position : Nat) (name : String) : Prop where
  /-- It is the language's own name for a built-in type of the model. -/
  | builtin (type : DataType) (declared : .dataType type ∈ (definitionsAt docs position).types)
      (spelled : type.primitive.bind builtins = some name)
      (own : name ∈ ["boolean", "number", "string"])
  /-- The module declares a type of this name. -/
  | declared (item : Item) (member : item ∈ moduleAt docs position)
      (named : item.typeName? = some name)
  /-- It is the name of a datatype without members that is not built in. -/
  | bare (type : DataType) (declared : .dataType type ∈ (definitionsAt docs position).types)
      (foreign : ¬ type.isBuiltin) (empty : type.members = []) (named : type.name = name)

/-- The alternatives are the spellings of the members of a union, each of them once, in the
order in which they first occur. -/
structure AlternativesOf (scope : Scope) (union : DataType) (arms : List String) : Prop where
  some : arms ≠ []
  nodup : arms.Nodup
  ordered : arms.Pairwise fun one other =>
    (union.members.map (scope.typeName builtins)).idxOf one <
      (union.members.map (scope.typeName builtins)).idxOf other
  mem_iff : ∀ arm, arm ∈ arms ↔ ∃ member ∈ union.members, scope.typeName builtins member = arm

theorem alternativesOf_unionArms (scope : Scope) {union : DataType} (isUnion : union.isUnion) :
    AlternativesOf scope union (unionArms scope union) := by
  have ordered := pairwise_idxOf_firstOccurrences (union.members.map (scope.typeName builtins))
  constructor
  · intro empty
    rw [unionArms, firstOccurrences_eq_nil_iff, List.map_eq_nil_iff] at empty
    simp [DataType.isUnion, empty] at isUnion
  · exact ordered.imp fun earlier same => absurd (same ▸ earlier) (Nat.lt_irrefl _)
  · exact ordered
  · intro arm
    rw [unionArms, mem_firstOccurrences_id, List.mem_map]

/-- The language has a name of its own for each built-in type. -/
theorem exists_builtins_of_isBuiltin {primitive : Primitive} (builtin : primitive.isBuiltin) :
    ∃ name ∈ ["boolean", "number", "string"], builtins primitive = some name := by
  cases primitive <;> simp_all [builtins, Primitive.isBuiltin]

section Module

theorem artifactsAt_moduleAt (options : GenerateOptions) (docs : List Document)
    (position : Nat) :
    artifactsAt .typeScript options docs position =
      [.file (moduleName options ++ ".ts")
        (Text.join "\n" ((moduleAt docs position).map Item.text))] := by
  rw [artifactsAt, Target.generate, generate, renderModule_eq]
  rfl

variable {docs : List Document} {position : Nat}

theorem mem_moduleAt_iff {item : Item} :
    item ∈ moduleAt docs position ↔ ∃ index decl,
      (definitionsAt docs position).types[index]? = some decl ∧
        item ∈ itemsOf (Scope.ofDocuments docs)
          ((subtypes (Scope.ofDocuments docs) position (definitionsAt docs position)).of
            ⟨position, index⟩) decl := by
  rw [moduleAt, items, List.mem_flatMap]
  constructor
  · rintro ⟨⟨decl, index⟩, placed, member⟩
    exact ⟨index, decl, List.mem_zipIdx_iff_getElem?.mp placed, member⟩
  · rintro ⟨index, decl, placed, member⟩
    exact ⟨⟨decl, index⟩, List.mem_zipIdx_iff_getElem?.mpr placed, member⟩

/-- A type of the model that has a source and is no bare datatype is declared. -/
theorem mentionable_name {decl : TypeDecl}
    (declared : decl ∈ (definitionsAt docs position).types) (source : Java.hasSource decl)
    (closed : ¬ decl.isOpen) : Mentionable docs position decl.name := by
  have listed : decl.name ∈ (moduleAt docs position).filterMap Item.typeName? := by
    rw [moduleAt, typeNames_items]
    refine List.mem_map_of_mem (List.mem_filter.mpr ⟨List.mem_filter.mpr ⟨declared, source⟩, ?_⟩)
    simpa using closed
  obtain ⟨item, member, named⟩ := List.mem_filterMap.mp listed
  exact .declared item member named

end Module

section SelfContained

variable {docs : List Document} {position : Nat} (contained : SelfContained docs position)
include contained

/-- A reference is spelled by a name that the module can mention. -/
theorem mentionable_typeName {decl : TypeDecl}
    (declared : decl ∈ (definitionsAt docs position).types) (use : RefUse) {ref : Ref}
    (member : (use, ref) ∈ decl.refs) :
    Mentionable docs position ((Scope.ofDocuments docs).typeName builtins ref) := by
  obtain ⟨id, target, resolved, found, inside⟩ := contained.inside decl declared use ref member
  have means : (Scope.ofDocuments docs).target? ref = some target := by
    rw [Scope.target?, resolved, Option.bind_some, found]
  simp only [Scope.typeName, Scope.nameOf, Scope.dataType?, means, Option.bind_some,
    Option.map_some, Option.getD_some]
  cases target with
  | entity type => exact mentionable_name inside rfl Bool.false_ne_true
  | enum type => exact mentionable_name inside rfl Bool.false_ne_true
  | foreign name => exact absurd rfl (contained.known _ inside name)
  | dataType type =>
      simp only [TypeDecl.dataType?, Option.bind_some]
      cases builtin : type.isBuiltin with
      | true =>
          rw [DataType.isBuiltin, Option.any_eq_true] at builtin
          obtain ⟨primitive, stands, builtin⟩ := builtin
          obtain ⟨name, own, spelled⟩ := exists_builtins_of_isBuiltin builtin
          have spelled : type.primitive.bind builtins = some name := by
            rw [stands, Option.bind_some, spelled]
          rw [if_pos rfl, spelled, Option.getD_some]
          exact .builtin type inside spelled own
      | false =>
          by_cases empty : type.members = []
          · exact .bare type inside (by simp [builtin]) empty rfl
          · refine mentionable_name inside (by simp [Java.hasSource, builtin]) ?_
            simpa [TypeDecl.isOpen, TypeDecl.dataType?, DataType.isUnion] using empty

/-- An interface mentions only names that the module can mention. -/
theorem mentionable_of_mem_mentions {type : Entity}
    (declared : .entity type ∈ (definitionsAt docs position).types) (subtypes : List TypeId)
    {name : String}
    (mentioned : name ∈
      (InterfaceSource.ofEntity (Scope.ofDocuments docs) subtypes type).mentions) :
    Mentionable docs position name := by
  rw [InterfaceSource.mentions, List.mem_append, Option.mem_toList] at mentioned
  obtain extended | property := mentioned
  · simp only [InterfaceSource.ofEntity, Option.map_eq_some_iff] at extended
    obtain ⟨⟨id, super⟩, found, rfl⟩ := extended
    exact mentionable_name (contained.super_inside declared found) rfl Bool.false_ne_true
  · simp only [InterfaceSource.ofEntity, List.map_map, List.mem_map] at property
    obtain ⟨feature, member, rfl⟩ := property
    refine mentionable_typeName contained declared .anyType ?_
    simp only [TypeDecl.refs, List.mem_append, List.mem_map]
    exact .inr ⟨feature, member, rfl⟩

/-- An alternative of a union is a name that the module can mention. -/
theorem mentionable_of_mem_unionArms {type : DataType}
    (declared : .dataType type ∈ (definitionsAt docs position).types) {arm : String}
    (listed : arm ∈ unionArms (Scope.ofDocuments docs) type) : Mentionable docs position arm := by
  rw [unionArms, mem_firstOccurrences_id, List.mem_map] at listed
  obtain ⟨member, listed, rfl⟩ := listed
  refine mentionable_typeName contained declared .anyType ?_
  simpa [TypeDecl.refs] using listed

end SelfContained

/-- Each item of a module is for a type of the model: an entity, a union or an enum. -/
theorem exists_source_of_mem_moduleAt {docs : List Document} {position : Nat} {item : Item}
    (member : item ∈ moduleAt docs position) :
    (∃ type subtypes, .entity type ∈ (definitionsAt docs position).types ∧
        (item = .interface (.ofEntity (Scope.ofDocuments docs) subtypes type) ∨
          item = .factory type.name)) ∨
      (∃ union : DataType, .dataType union ∈ (definitionsAt docs position).types ∧
        union.isUnion ∧ ¬ union.isBuiltin ∧
          item = .typeAlias union.name (unionArms (Scope.ofDocuments docs) union)) ∨
      ∃ type : Enum, .enum type ∈ (definitionsAt docs position).types ∧
        item = .typeAlias type.name (enumArms type) := by
  obtain ⟨index, decl, placed, member⟩ := mem_moduleAt_iff.mp member
  have declared := List.mem_of_getElem? placed
  cases decl with
  | entity type =>
      rw [itemsOf, List.mem_cons, List.mem_singleton] at member
      exact .inl ⟨type, _, declared, member⟩
  | dataType type =>
      rw [itemsOf] at member
      split at member
      · exact absurd member List.not_mem_nil
      · next emitted =>
        have emitted : type.isBuiltin = false ∧ type.isUnion = true := by simpa using emitted
        exact .inr (.inl ⟨type, declared, emitted.2, by simp [emitted.1],
          List.mem_singleton.mp member⟩)
  | enum type => exact .inr (.inr ⟨type, declared, List.mem_singleton.mp member⟩)
  | foreign name => exact absurd member List.not_mem_nil

end TypeScript

open TypeScript

/-- The module of a model that is linked alone, where all references are resolved, mentions
types that the language has for built-in types of the model, types that it declares, and
datatypes without members.  Its aliases are for the unions and the enums of the model.  Those
for unions list the spellings of the members, each once and in their order, and those for
enums mention no types. -/
theorem declared_of_mentioned (doc : Document) (read : doc.IsRead) (options : GenerateOptions)
    (resolved : (definitionsAt (link [0] [doc]) 0).unresolvedRefs = []) :
    let docs := link [0] [doc]
    let types := (definitionsAt docs 0).types
    artifactsAt .typeScript options docs 0 =
        [.file (moduleName options ++ ".ts")
          (Text.join "\n" ((moduleAt docs 0).map Item.text))] ∧
      (∀ source, .interface source ∈ moduleAt docs 0 →
        ∀ name ∈ source.mentions, TypeScript.Mentionable docs 0 name) ∧
      (∀ name arms, .typeAlias name arms ∈ moduleAt docs 0 →
        (∃ type : Enum, .enum type ∈ types ∧ name = type.name ∧ arms = enumArms type) ∨
          ∃ union : DataType, .dataType union ∈ types ∧ name = union.name ∧
            AlternativesOf (Scope.ofDocuments docs) union arms ∧
              ∀ arm ∈ arms, TypeScript.Mentionable docs 0 arm) ∧
      ∀ union : DataType, .dataType union ∈ types → union.isUnion → ¬ union.isBuiltin →
        ∃ arms, .typeAlias union.name arms ∈ moduleAt docs 0 ∧
          AlternativesOf (Scope.ofDocuments docs) union arms ∧
            ∀ arm ∈ arms, TypeScript.Mentionable docs 0 arm := by
  intro docs types
  have contained := selfContained_link read resolved
  refine ⟨artifactsAt_moduleAt options docs 0, ?_, ?_, ?_⟩
  · intro source member name mentioned
    obtain ⟨type, subtypes, declared, same | same⟩ | ⟨_, _, _, _, same⟩ | ⟨_, _, same⟩ :=
      exists_source_of_mem_moduleAt member
    · cases same
      exact mentionable_of_mem_mentions contained declared subtypes mentioned
    all_goals cases same
  · intro name arms member
    obtain ⟨_, _, _, same | same⟩ | ⟨union, declared, isUnion, -, same⟩ | ⟨type, declared, same⟩ :=
      exists_source_of_mem_moduleAt member
    · cases same
    · cases same
    · cases same
      exact .inr ⟨union, declared, rfl, alternativesOf_unionArms _ isUnion, fun arm listed =>
        mentionable_of_mem_unionArms contained declared listed⟩
    · cases same
      exact .inl ⟨type, declared, rfl, rfl⟩
  · intro union declared isUnion foreign
    obtain ⟨index, placed⟩ := List.mem_iff_getElem?.mp declared
    refine ⟨_, mem_moduleAt_iff.mpr ⟨index, _, placed, ?_⟩, alternativesOf_unionArms _ isUnion,
      fun arm listed => mentionable_of_mem_unionArms contained declared listed⟩
    simp [itemsOf, foreign, isUnion]

/-- A built-in type under two names, `object`, a datatype without members, a union, an enum,
a union with the name of a built-in type, and two entities. -/
def everyKindDoc : Document :=
  .ofSource ("datatype int datatype object datatype Blob datatype U = int|Blob|B|long|U " ++
    "enum E\x7ba\x7d datatype long = B entity B\x7b\x7d " ++
    "entity A extends B\x7bx:E many y:Blob z:object u:U n:long\x7d")

theorem declared_of_mentioned_everyKindDoc :
    let docs := link [0] [everyKindDoc]
    (definitionsAt docs 0).unresolvedRefs = [] ∧
      (moduleAt docs 0).filterMap Item.typeName? = ["U", "E", "B", "A"] ∧
      (∃ source, .interface source ∈ moduleAt docs 0 ∧
        source.mentions = ["B", "E", "Blob", "object", "U", "number"] ∧
        ∀ name ∈ source.mentions, TypeScript.Mentionable docs 0 name) ∧
      .typeAlias "U" ["number", "Blob", "B", "U"] ∈ moduleAt docs 0 ∧
      .typeAlias "E" ["'a'"] ∈ moduleAt docs 0 ∧
      ∀ arm ∈ ["number", "Blob", "B", "U"], TypeScript.Mentionable docs 0 arm := by
  intro docs
  let source : InterfaceSource := ⟨"A", some "B", ["A"], [⟨"x", true, "E", false⟩,
    ⟨"y", true, "Blob", true⟩, ⟨"z", true, "object", false⟩, ⟨"u", true, "U", false⟩,
    ⟨"n", true, "number", false⟩]⟩
  -- One evaluation, so that the document is read once.
  have computed : (definitionsAt docs 0).unresolvedRefs = [] ∧
      (moduleAt docs 0).filterMap Item.typeName? = ["U", "E", "B", "A"] ∧
      .interface source ∈ moduleAt docs 0 ∧
      .typeAlias "U" ["number", "Blob", "B", "U"] ∈ moduleAt docs 0 ∧
      .typeAlias "E" ["'a'"] ∈ moduleAt docs 0 ∧
      ∀ decl ∈ (definitionsAt docs 0).types, decl.name = "U" → decl.dataType?.isSome := by
    decide +kernel
  obtain ⟨resolved, names, entity, union, enum, datatype⟩ := computed
  obtain ⟨-, interfaces, aliases, -⟩ :=
    declared_of_mentioned everyKindDoc (Document.isRead_ofSource _) {} resolved
  refine ⟨resolved, names, ⟨source, entity, rfl, interfaces _ entity⟩, union, enum, ?_⟩
  obtain ⟨type, declared, named, -⟩ | ⟨_, -, -, -, mentionable⟩ := aliases "U" _ union
  · exact absurd (datatype _ declared named.symm) Bool.false_ne_true
  · exact mentionable

end DomainGen
