import DomainGen.Proofs.Analysis.Supertypes
import DomainGen.Proofs.Analysis.Unions
import DomainGen.Proofs.Generate.ClassSource
import DomainGen.Proofs.Generate.SourceTree
import DomainGen.Proofs.Link.Arrangement

/-!
# The types that generated classes mention

Where every reference of a model is resolved to a type of the same model, its classes
mention only types that the target language has and types that the output has a file
for.  In particular this holds for a model that is linked alone (`emitted_of_mentioned`).

A union becomes an interface, and an entity implements the unions that list it.  The
interface is missing if the union has the name of a built-in type, since a built-in type
has no file.  The name is in the class all the same
(`not_emitted_of_mentioned_builtinUnion`).
-/

namespace DomainGen

open Java

/-- The output for the document at a position has the file of a type. -/
def EmitsFile (options : GenerateOptions) (docs : List Document) (position : Nat)
    (decl : TypeDecl) : Prop :=
  ∃ path index content, (definitionsAt docs position).locatedTypes[index]? = some (path, decl) ∧
    renderType? (Scope.ofDocuments docs) (analysisAt docs position) ⟨position, index⟩ decl =
      some content ∧
    .file (Text.join "/" (sourceNames (rootPath options ++ path) decl.name))
      (renderFile (rootPath options ++ path) content) ∈ artifactsAt .java options docs position

section Emitted

variable {options : GenerateOptions} {docs : List Document} {position : Nat}

/-- The output has the files of the types that have a source, and of no others. -/
theorem emitsFile_iff {decl : TypeDecl} :
    EmitsFile options docs position decl ↔
      decl ∈ (definitionsAt docs position).types ∧ hasSource decl := by
  constructor
  · rintro ⟨path, index, content, located, rendered, -⟩
    constructor
    · exact List.mem_map_of_mem (f := Prod.snd) (List.mem_of_getElem? located)
    · rw [← isSome_renderType?, rendered]
      rfl
  · rintro ⟨member, source⟩
    obtain ⟨⟨path, _⟩, located, rfl⟩ := List.mem_map.mp member
    obtain ⟨index, located⟩ := List.mem_iff_getElem?.mp located
    rw [← isSome_renderType? (Scope.ofDocuments docs) (analysisAt docs position)
      ⟨position, index⟩] at source
    obtain ⟨content, rendered⟩ := Option.isSome_iff_exists.mp source
    exact ⟨path, index, content, located, rendered, file_mem_artifactsAt located rendered⟩

end Emitted

/-! ## Models that refer to themselves only -/

/-- The types of the model at a position are of known kinds, and each reference means a
type of the same model. -/
structure SelfContained (docs : List Document) (position : Nat) : Prop where
  known : ∀ decl ∈ (definitionsAt docs position).types, ∀ name, decl ≠ .foreign name
  inside : ∀ decl ∈ (definitionsAt docs position).types, ∀ use ref, (use, ref) ∈ decl.refs →
    ∃ id target, ref.target = some id ∧ (Scope.ofDocuments docs).type? id = some target ∧
      target ∈ (definitionsAt docs position).types

/-- A class can mention the name: it is that of a type of the target language, or of a type
with a file. -/
def Mentionable (options : GenerateOptions) (docs : List Document) (position : Nat)
    (name : String) : Prop :=
  (∃ primitive, name = boxedName primitive) ∨
    ∃ decl, decl.name = name ∧ EmitsFile options docs position decl

/-- A primitive member of a union is spelled by the name that the target language has for
it. -/
theorem exists_primitive_of_mem_aliasesOf {docs : List Document} {position : Nat}
    {feature : Feature} {type : DataType}
    (member : type ∈ aliasesOf (Scope.ofDocuments docs) (analysisAt docs position) feature) :
    ∃ primitive, aliasType type = boxedName primitive := by
  rw [aliasesOf, Accessors.ofFeature_eq] at member
  have member := mem_of_mem_firstOccurrences member
  simp only [List.mem_filterMap, Option.bind_eq_some_iff] at member
  obtain ⟨id, listed, decl, found, isData⟩ := member
  have aliasable : (Scope.ofDocuments docs).isAliasable id := by
    rw [aliasIds] at listed
    split at listed
    · rw [analysisAt, of_aliasesOf_analyze] at listed
      split at listed
      · exact (List.mem_filter.mp (mem_of_mem_firstOccurrences listed)).2
      · exact absurd listed List.not_mem_nil
    · exact absurd listed List.not_mem_nil
  rw [Scope.isAliasable, found, Option.bind_some, isData, Option.any_some, DataType.isAliasable,
    Option.any_eq_true] at aliasable
  obtain ⟨primitive, stands, -⟩ := aliasable
  exact ⟨primitive, by rw [aliasType, stands, Option.map_some, Option.getD_some]⟩

namespace SelfContained

variable {docs : List Document} {position : Nat} (contained : SelfContained docs position)
  (options : GenerateOptions)
include contained

/-- What an entity of the model extends belongs to the model. -/
theorem super_inside {type : Entity}
    (declared : .entity type ∈ (definitionsAt docs position).types) {id : TypeId}
    {super : Entity} (found : (Scope.ofDocuments docs).superOf? type = some (id, super)) :
    .entity super ∈ (definitionsAt docs position).types := by
  have superDeclared := Scope.type?_of_superOf? found
  obtain ⟨ref, given, target⟩ : ∃ ref, type.super = some ref ∧ ref.target = some id := by
    simp only [Scope.superOf?, Option.bind_eq_bind, Option.bind_eq_some_iff, Option.pure_def,
      Option.some.injEq, Prod.mk.injEq] at found
    obtain ⟨_, ⟨ref, given, target⟩, _, -, rfl, -⟩ := found
    exact ⟨ref, given, target⟩
  obtain ⟨_, decl, resolved, found, inside⟩ := contained.inside _ declared .supertype ref
    (by simp [TypeDecl.refs, given])
  rw [target] at resolved
  cases resolved
  rw [superDeclared] at found
  cases found
  exact inside

/-- A reference is spelled by a name that exists. -/
theorem mentionable_typeName {decl : TypeDecl}
    (declared : decl ∈ (definitionsAt docs position).types) (use : RefUse) {ref : Ref}
    (member : (use, ref) ∈ decl.refs) :
    Mentionable options docs position ((Scope.ofDocuments docs).typeName builtins ref) := by
  obtain ⟨id, target, resolved, found, inside⟩ := contained.inside decl declared use ref member
  have means : (Scope.ofDocuments docs).target? ref = some target := by
    rw [Scope.target?, resolved, Option.bind_some, found]
  -- What is not built in is spelled by its own name.
  have named : hasSource target → Mentionable options docs position target.name := fun source =>
    .inr ⟨target, rfl, emitsFile_iff.mpr ⟨inside, source⟩⟩
  simp only [Scope.typeName, Scope.nameOf, Scope.dataType?, means, Option.bind_some,
    Option.map_some, Option.getD_some]
  cases target with
  | entity type => exact named rfl
  | enum type => exact named rfl
  | foreign name => exact absurd rfl (contained.known _ inside name)
  | dataType type =>
      simp only [TypeDecl.dataType?, Option.bind_some]
      cases builtin : type.isBuiltin with
      | false => exact named (by simp [hasSource, builtin])
      | true =>
          rw [DataType.isBuiltin, Option.any_eq_true] at builtin
          obtain ⟨primitive, stands, -⟩ := builtin
          left
          exact ⟨primitive, by simp [stands, builtins]⟩

/-- Apart from the interfaces, a class mentions only names that exist. -/
theorem mentionable_of_mem_mentions {type : Entity}
    (declared : .entity type ∈ (definitionsAt docs position).types) {id : TypeId} {place : Place}
    {name : String}
    (mentioned : (place, name) ∈ (ClassSource.ofEntity (Scope.ofDocuments docs)
      (analysisAt docs position) id type).mentions)
    (apart : place ≠ .interface) : Mentionable options docs position name := by
  obtain ⟨⟨super, entity⟩, found, rfl⟩ | rfl | ⟨feature, member, same⟩ :=
    mentions_ofEntity mentioned apart
  · have inside := contained.super_inside declared found
    exact .inr ⟨.entity entity, rfl, emitsFile_iff.mpr ⟨inside, rfl⟩⟩
  · exact .inl ⟨.object, rfl⟩
  · obtain rfl | ⟨primitive, listed, rfl⟩ := same
    · refine contained.mentionable_typeName options declared .anyType ?_
      simp only [TypeDecl.refs, List.mem_append, List.mem_map]
      exact .inr ⟨feature, member, rfl⟩
    · exact .inl (exists_primitive_of_mem_aliasesOf listed)

end SelfContained

/-- An interface that a class implements is there if its name is not that of a built-in
type, and only then. -/
theorem emitsInterface_iff {docs : List Document} (tagged : ∀ doc ∈ docs, doc.IsTagged)
    {position : Nat} (options : GenerateOptions) {id : TypeId} {type : Entity} {name : String}
    (mentioned : name ∈ (ClassSource.ofEntity (Scope.ofDocuments docs)
      (analysisAt docs position) id type).interfaces) :
    (∃ union : DataType, union.name = name ∧
        EmitsFile options docs position (.dataType union)) ↔
      ¬ (Primitive.classify name).any (·.isBuiltin) := by
  constructor
  · rintro ⟨union, rfl, emitted⟩ builtin
    obtain ⟨declared, source⟩ := emitsFile_iff.mp emitted
    rw [hasSource, DataType.isBuiltin, primitive_of_mem_types tagged declared, builtin] at source
    cases source
  · intro declared
    simp only [ClassSource.ofEntity, List.mem_filterMap, Option.map_eq_some_iff] at mentioned
    obtain ⟨place, listed, decl, found, rfl⟩ := mentioned
    rw [analysisAt, of_unionsOf_analyze, mem_listing] at listed
    obtain ⟨here, other, placed, lists⟩ := listed
    rw [Scope.type?_definitionsAt, here, placed] at found
    cases found
    cases decl with
    | dataType union =>
        have inside := List.mem_of_getElem? placed
        refine ⟨union, rfl, emitsFile_iff.mpr ⟨inside, ?_⟩⟩
        have same := primitive_of_mem_types tagged inside
        simpa [hasSource, DataType.isBuiltin, same, TypeDecl.name] using declared
    | entity type => exact absurd lists List.not_mem_nil
    | enum type => exact absurd lists List.not_mem_nil
    | foreign name => exact absurd lists List.not_mem_nil

/-! ## A model that is linked alone -/

theorem Document.IsRead.ne_foreign {doc : Document} (read : doc.IsRead) {path : List String}
    {decl : TypeDecl} (located : (path, decl) ∈ doc.locatedTypes) (name : String) :
    decl ≠ .foreign name := by
  obtain ⟨source, parsed, succeeded, located⟩ := read.exists_parsed located
  exact Ddef.ne_foreign_of_parse succeeded located name

theorem selfContained_link {doc : Document} (read : doc.IsRead)
    (resolved : (definitionsAt (link [0] [doc]) 0).unresolvedRefs = []) :
    SelfContained (link [0] [doc]) 0 := by
  have distinct : [0].Nodup := by decide
  have found : [doc][0]? = some doc := rfl
  obtain ⟨linked, placed, types⟩ := exists_linked distinct (List.mem_singleton_self 0) found
  have same : (definitionsAt (link [0] [doc]) 0).types = linked.locatedTypes.map (·.2) := by
    rw [definitionsAt, placed, Option.bind_some, ← Document.types_eq_map_locatedTypes,
      Document.types]
    cases linked.definitions with
    | none => rfl
    | some defs => rfl
  -- A type of the linked model, and what it was before.
  have before : ∀ decl ∈ (definitionsAt (link [0] [doc]) 0).types, ∃ path original,
      (path, original) ∈ doc.locatedTypes ∧
        decl = original.mapRefs ((declareGroup [0] [doc]).1.resolve path) := by
    intro decl member
    rw [same, types, List.map_map] at member
    obtain ⟨⟨path, original⟩, located, rfl⟩ := List.mem_map.mp member
    exact ⟨path, original, located, rfl⟩
  constructor
  · intro decl member name foreign
    obtain ⟨path, original, located, rfl⟩ := before decl member
    cases original with
    | dataType type => cases foreign
    | entity type => cases foreign
    | enum type => cases foreign
    | foreign name => exact read.ne_foreign located name rfl
  · intro decl member use ref listed
    obtain ⟨path, original, located, rfl⟩ := before decl member
    have isResolved : ref.isResolved := by
      by_contra left
      have open_ : (use, ref) ∈ (definitionsAt (link [0] [doc]) 0).unresolvedRefs := by
        rw [Definitions.unresolvedRefs, Definitions.refs, List.mem_filter, List.mem_flatMap]
        exact ⟨⟨_, member, listed⟩, by simpa using left⟩
      rw [resolved] at open_
      exact absurd open_ List.not_mem_nil
    rw [TypeDecl.refs_mapRefs, List.mem_map] at listed
    obtain ⟨⟨use, ref⟩, listed, rfl, rfl⟩ := listed
    obtain ⟨id, found⟩ := Option.isSome_iff_exists.mp isResolved
    have fresh : ref.target = none :=
      read.isFresh path use ref (List.mem_flatMap.mpr ⟨_, located, List.mem_map_of_mem listed⟩)
    rw [Index.resolve_eq, Ref.filled, fresh, Option.none_or] at found ⊢
    obtain ⟨declaration, declared, rfl⟩ := exists_declaration_of_lookup found
    have target := type?_link distinct declared
    refine ⟨_, _, found, target, ?_⟩
    rw [Scope.type?_definitionsAt] at target
    have here : declaration.id.document = 0 := by simpa using (mem_declarations.mp declared).1
    rw [here] at target
    exact List.mem_of_getElem? target

/-- The class of an entity that is linked alone, where all references are resolved, mentions
types of the target language and types that the output has a file for.  An interface that
it implements is there exactly if it does not have the name of a built-in type. -/
theorem emitted_of_mentioned (doc : Document) (read : doc.IsRead) (options : GenerateOptions)
    (resolved : (definitionsAt (link [0] [doc]) 0).unresolvedRefs = [])
    (index : Nat) (path : List String) (type : Entity)
    (located : (definitionsAt (link [0] [doc]) 0).locatedTypes[index]? =
      some (path, .entity type)) :
    let docs := link [0] [doc]
    let source := ClassSource.ofEntity (Scope.ofDocuments docs) (analysisAt docs 0) ⟨0, index⟩ type
    let package := rootPath options ++ path
    .file (Text.join "/" (sourceNames package type.name)) (renderFile package source.text) ∈
        artifactsAt .java options docs 0 ∧
      (∀ place name, (place, name) ∈ source.mentions → place ≠ .interface →
        (∃ primitive, name = boxedName primitive) ∨
          ∃ decl, decl.name = name ∧ EmitsFile options docs 0 decl) ∧
      ∀ name, (.interface, name) ∈ source.mentions →
        ((∃ union : DataType, union.name = name ∧
            EmitsFile options docs 0 (.dataType union)) ↔
          ¬ (Primitive.classify name).any (·.isBuiltin)) := by
  intro docs source package
  constructor
  · have rendered : renderType? (Scope.ofDocuments docs) (analysisAt docs 0) ⟨0, index⟩
        (.entity type) = some source.text := by
      rw [text_ofEntity]
      rfl
    exact file_mem_artifactsAt located rendered
  constructor
  · intro place name mentioned apart
    have declared := List.mem_map_of_mem (f := Prod.snd) (List.mem_of_getElem? located)
    exact (selfContained_link read resolved).mentionable_of_mem_mentions options declared mentioned
      apart
  · intro name mentioned
    have tagged : ∀ linked ∈ docs, linked.IsTagged :=
      isTagged_link (by decide) (by simpa using read.isTagged)
    exact emitsInterface_iff tagged options (ClassSource.interface_mem_mentions_iff.mp mentioned)

/-- The class of the entity at an index of the model of a document that is linked alone. -/
def classAt? (doc : Document) (index : Nat) : Option (List String × Entity × ClassSource) :=
  let docs := link [0] [doc]
  ((definitionsAt docs 0).locatedTypes[index]?).bind fun located =>
    located.2.entity?.map fun type =>
      (located.1, type, .ofEntity (Scope.ofDocuments docs) (analysisAt docs 0) ⟨0, index⟩ type)

theorem located_of_classAt? {doc : Document} {index : Nat} {path : List String} {type : Entity}
    {source : ClassSource} (found : classAt? doc index = some (path, type, source)) :
    (definitionsAt (link [0] [doc]) 0).locatedTypes[index]? = some (path, .entity type) ∧
      source = .ofEntity (Scope.ofDocuments (link [0] [doc])) (analysisAt (link [0] [doc]) 0)
        ⟨0, index⟩ type := by
  simp only [classAt?, Option.bind_eq_some_iff, Option.map_eq_some_iff, Prod.mk.injEq,
    TypeDecl.entity?_eq_some_iff] at found
  obtain ⟨⟨_, _⟩, located, _, rfl, rfl, rfl, rfl⟩ := found
  exact ⟨located, rfl⟩

/-- An entity with a supertype in a package, a feature of a union with a primitive member,
and two unions that list it. -/
def memberDoc : Document :=
  .ofSource ("datatype string datatype U = string|A datatype boolean = A " ++
    "entity A extends p.B\x7bx:U\x7d package p\x7bentity B\x7b\x7d\x7d")

theorem emitted_of_mentioned_memberDoc :
    ∃ path type source, classAt? memberDoc 3 = some (path, type, source) ∧
      (definitionsAt (link [0] [memberDoc]) 0).unresolvedRefs = [] ∧
      source.mentions = [(.super, "B"), (.interface, "U"), (.interface, "boolean"),
        (.field, "Object"), (.parameter, "U"), (.parameter, "String"), (.result, "U"),
        (.cast, "U"), (.result, "String"), (.test, "String"), (.cast, "String")] ∧
      (∃ decl, decl.name = "B" ∧ EmitsFile {} (link [0] [memberDoc]) 0 decl) ∧
      (∃ union : DataType, union.name = "U" ∧
        EmitsFile {} (link [0] [memberDoc]) 0 (.dataType union)) ∧
      ¬ ∃ union : DataType, union.name = "boolean" ∧
        EmitsFile {} (link [0] [memberDoc]) 0 (.dataType union) := by
  have resolved : (definitionsAt (link [0] [memberDoc]) 0).unresolvedRefs = [] := by
    decide +kernel
  have computed : (classAt? memberDoc 3).any fun found =>
      found.2.2.mentions = [(.super, "B"), (.interface, "U"), (.interface, "boolean"),
        (.field, "Object"), (.parameter, "U"), (.parameter, "String"), (.result, "U"),
        (.cast, "U"), (.result, "String"), (.test, "String"), (.cast, "String")] := by
    decide +kernel
  simp only [Option.any_eq_true, decide_eq_true_eq] at computed
  obtain ⟨⟨path, type, source⟩, found, mentions⟩ := computed
  obtain ⟨located, same⟩ := located_of_classAt? found
  obtain ⟨-, existing, implemented⟩ := emitted_of_mentioned memberDoc (Document.isRead_ofSource _)
    {} resolved 3 path type located
  rw [← same, mentions] at existing implemented
  refine ⟨path, type, source, found, resolved, mentions, ?_, ?_, ?_⟩
  · obtain ⟨primitive, boxed⟩ | emitted := existing .super "B" (by decide) (by decide)
    · cases primitive <;> exact absurd boxed (by decide)
    · exact emitted
  · exact (implemented "U" (by decide)).mpr (by decide +kernel)
  · intro emitted
    exact (implemented "boolean" (by decide)).mp emitted (by decide +kernel)

/-- An entity in a union with the name of a built-in type. -/
def builtinUnionDoc : Document := .ofSource "datatype string = A\nentity A \x7b \x7d\n"

/-- The class of the entity implements an interface that is not there: no type with its name
has a file. -/
theorem not_emitted_of_mentioned_builtinUnion :
    ∃ path type source, classAt? builtinUnionDoc 1 = some (path, type, source) ∧
      (definitionsAt (link [0] [builtinUnionDoc]) 0).unresolvedRefs = [] ∧
      (.interface, "string") ∈ source.mentions ∧
      ¬ ∃ decl, decl.name = "string" ∧ EmitsFile {} (link [0] [builtinUnionDoc]) 0 decl := by
  have resolved : (definitionsAt (link [0] [builtinUnionDoc]) 0).unresolvedRefs = [] := by
    decide +kernel
  have computed : (classAt? builtinUnionDoc 1).any fun found =>
      found.2.2.mentions = [(.interface, "string")] := by
    decide +kernel
  have missing : ∀ decl ∈ (definitionsAt (link [0] [builtinUnionDoc]) 0).types,
      decl.name = "string" → ¬ hasSource decl := by
    decide +kernel
  rw [Option.any_eq_true] at computed
  obtain ⟨⟨path, type, source⟩, found, mentions⟩ := computed
  refine ⟨path, type, source, found, resolved, ?_, ?_⟩
  · rw [of_decide_eq_true mentions]
    exact List.mem_singleton_self _
  · rintro ⟨decl, named, emitted⟩
    obtain ⟨declared, source⟩ := emitsFile_iff.mp emitted
    exact missing decl declared named source

end DomainGen
