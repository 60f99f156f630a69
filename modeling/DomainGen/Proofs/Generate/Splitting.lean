import DomainGen.Proofs.Analysis.Supertypes
import DomainGen.Proofs.Generate.ClassSource
import DomainGen.Proofs.Generate.Relocation
import DomainGen.Proofs.Generate.SourceTree
import Mathlib.Algebra.Order.BigOperators.Group.List
import Mathlib.Algebra.Order.Ring.Nat

/-!
# Splitting a model over documents

The elements of a model can stand in one document or in several that are linked with each
other.  References mean the same either way, but the relations between types are those of
one document: a union is known to its members and to features only where it is generated
for the document that declares it.  The class of an entity of the first document is
therefore the same exactly if no union of another document lists the entity, and no
feature has a union of another document with primitive members as its type
(`content_merged_iff`).  The smallest model where it differs has one entity and one union
(`content_ne_merged_listedElsewhereDocs`).

Where a class differs it is shorter in the split model, since it lacks an interface or the
accessors for a member.  This is how the one direction is proved.
-/

namespace DomainGen.Java

/-! ## What a class takes from the relations -/

/-- The class of an entity, generated for the document at a position. -/
def classAt (docs : List Document) (position : Nat) (id : TypeId) (type : Entity) : ClassSource :=
  .ofEntity (Scope.ofDocuments docs) (analysisAt docs position) id type

/-- What is rendered for a feature, generated for the document at a position. -/
def accessorsAt (docs : List Document) (position : Nat) (feature : Feature) : Accessors :=
  .ofFeature (Scope.ofDocuments docs) (analysisAt docs position) feature

/-- The interfaces of a class are the types of the document that list the entity. -/
theorem interfaces_classAt (docs : List Document) (position : Nat) (id : TypeId)
    (type : Entity) :
    (classAt docs position id type).interfaces =
      ((definitionsAt docs position).types.filter (id ∈ ·.targets)).map (·.name) := by
  have names : ((definitionsAt docs position).types.zipIdx.filter (id ∈ ·.1.targets)).filterMap
      (fun indexed => ((Scope.ofDocuments docs).type? ⟨position, indexed.2⟩).map (·.name)) =
        ((definitionsAt docs position).types.zipIdx.filter (id ∈ ·.1.targets)).map (·.1.name) := by
    rw [← List.filterMap_eq_map]
    apply List.filterMap_congr
    intro indexed member
    have found := List.mem_zipIdx_iff_getElem?.mp (List.mem_of_mem_filter member)
    rw [Scope.type?_definitionsAt, found]
    rfl
  simp only [classAt, ClassSource.ofEntity]
  rw [analysisAt, of_unionsOf_analyze, listing, List.filterMap_map]
  refine names.trans ?_
  conv_rhs => rw [← List.zipIdx_map_fst 0 (definitionsAt docs position).types, List.filter_map]
  rw [List.map_map]
  rfl

theorem aliasIds_analysisAt (docs : List Document) (position : Nat) (ref : Ref) :
    aliasIds (Scope.ofDocuments docs) (analysisAt docs position) ref =
      (ref.target.filter (·.document = position)).elim [] fun target =>
        ((Scope.ofDocuments docs).type? target).elim [] fun decl =>
          firstOccurrences id (decl.targets.filter (Scope.ofDocuments docs).isAliasable) := by
  rw [aliasIds, Scope.dataType?, Scope.target?]
  cases ref.target with
  | none => rfl
  | some target =>
      have declared := Scope.type?_definitionsAt docs target
      rw [Option.bind_some, Option.filter_some]
      by_cases here : target.document = position
      · rw [if_pos (decide_eq_true here), Option.elim_some]
        cases found : (Scope.ofDocuments docs).type? target with
        | none => rfl
        | some decl =>
            cases decl with
            | dataType type =>
                simp only [Option.bind_some, TypeDecl.dataType?, Option.elim_some]
                rw [analysisAt, of_aliasesOf_analyze, if_pos here, ← here, ← declared, found]
                rfl
            | entity type => rfl
            | enum type => rfl
            | foreign name => rfl
      · rw [if_neg (by simpa using here), Option.elim_none]
        cases ((Scope.ofDocuments docs).type? target).bind (·.dataType?) with
        | none => rfl
        | some type =>
            simp only []
            rw [analysisAt, of_aliasesOf_analyze, if_neg here]

/-- The accessors of a feature know a union only if the document declares it. -/
theorem aliasesOf_analysisAt (docs : List Document) (position : Nat) (feature : Feature) :
    aliasesOf (Scope.ofDocuments docs) (analysisAt docs position) feature =
      (feature.type.target.filter (·.document = position)).elim [] fun target =>
        ((Scope.ofDocuments docs).type? target).elim [] (primitives (Scope.ofDocuments docs)) := by
  rw [aliasesOf, Accessors.ofFeature_eq, aliasIds_analysisAt]
  cases feature.type.target.filter (·.document = position) with
  | none => rfl
  | some target =>
      simp only [Option.elim_some]
      cases (Scope.ofDocuments docs).type? target with
      | none => rfl
      | some decl => rfl

/-! ## Lengths -/

/-- The text of the field of a feature. -/
def Accessors.fieldText (accessors : Accessors) : String :=
  "    " ++ "private " ++ accessors.fieldType ++ " " ++ accessors.name ++ ";\n"

/-- The text of the methods of a feature. -/
def Accessors.methodsText (accessors : Accessors) : String :=
  String.join (accessors.methods.map ("\n" ++ ·.render))

/-- How much of the text of a class is for a feature. -/
def Accessors.size (accessors : Accessors) : Nat :=
  accessors.fieldText.length + accessors.methodsText.length

namespace Accessors

variable {accessors : Accessors}

/-- What is rendered for the feature if its union is not known. -/
def plain (accessors : Accessors) : Accessors := { accessors with aliases := [] }

theorem length_fieldText_plain (some : accessors.aliases ≠ []) :
    accessors.plain.fieldText.length + 6 =
      accessors.fieldText.length + accessors.type.length := by
  have object : "Object".length = 6 := by decide
  have declared : accessors.fieldType = "Object" := by simp [fieldType, some]
  have bare : accessors.plain.fieldType = accessors.type := by simp [fieldType, plain]
  have name : accessors.plain.name = accessors.name := rfl
  simp only [fieldText, declared, bare, name, String.length_append, object]
  omega

theorem length_getter_plain (some : accessors.aliases ≠ []) :
    accessors.plain.getter.render.length + accessors.type.length + 3 =
      accessors.getter.render.length := by
  have cast : accessors.getter = { accessors.plain.getter with
      statement := "return " ++ ("(" ++ accessors.type ++ ") ") ++ "this." ++ accessors.name ++
        ";" } := by
    simp [getter, plain, some]
  have bare : accessors.plain.getter.statement = "return " ++ "" ++ "this." ++ accessors.name ++
      ";" := by
    simp [getter, plain]
  have opening : "(".length = 1 := by decide
  have closing : ") ".length = 2 := by decide
  have nothing : "".length = 0 := by decide
  rw [cast]
  simp only [Method.render, bare, String.length_append, opening, closing, nothing]
  omega

/-- Accessors for primitive members take space. -/
theorem size_plain_lt (some : accessors.aliases ≠ []) :
    accessors.plain.size < accessors.size := by
  have field := length_fieldText_plain some
  have getter := length_getter_plain some
  have bare : accessors.plain.methodsText.length =
      ("\n" ++ (accessors.setter accessors.type).render).length +
        ("\n" ++ accessors.plain.getter.render).length := by
    have methods : accessors.plain.methods =
        [accessors.setter accessors.type, accessors.plain.getter] := rfl
    simp only [methodsText, methods, String.length_join, List.map_cons, List.map_nil,
      List.sum_cons, List.sum_nil, Nat.add_zero]
  have whole : ("\n" ++ (accessors.setter accessors.type).render).length +
      ("\n" ++ accessors.getter.render).length ≤ accessors.methodsText.length := by
    simp only [methodsText, methods, String.length_join, List.cons_append, List.map_cons,
      List.map_append, List.sum_cons, List.sum_append]
    omega
  rw [String.length_append, String.length_append] at bare whole
  rw [size, size]
  omega

/-- What is rendered for the feature in a scope where types stand at other positions. -/
def retargeted (accessors : Accessors) (move : TypeId → TypeId) : Accessors :=
  { accessors with aliases := accessors.aliases.map (·.retargeted move) }

theorem isEmpty_aliases_retargeted (accessors : Accessors) (move : TypeId → TypeId) :
    (accessors.retargeted move).aliases.isEmpty = accessors.aliases.isEmpty :=
  List.isEmpty_map

theorem fieldText_retargeted (accessors : Accessors) (move : TypeId → TypeId) :
    (accessors.retargeted move).fieldText = accessors.fieldText := by
  simp only [fieldText, fieldType, isEmpty_aliases_retargeted]
  rfl

theorem methodsText_retargeted (accessors : Accessors) (move : TypeId → TypeId) :
    (accessors.retargeted move).methodsText = accessors.methodsText := by
  have getter : (accessors.retargeted move).getter = accessors.getter := by
    simp only [Accessors.getter, isEmpty_aliases_retargeted]
    rfl
  have methods : (accessors.retargeted move).methods = accessors.methods := by
    simp only [Accessors.methods, getter]
    simp only [retargeted, List.map_map]
    rfl
  rw [methodsText, methods, methodsText]

theorem size_retargeted (accessors : Accessors) (move : TypeId → TypeId) :
    (accessors.retargeted move).size = accessors.size := by
  rw [size, fieldText_retargeted, methodsText_retargeted, size]

end Accessors

theorem join_flatMap {α : Type} (items : List α) (texts : α → List String) :
    String.join (items.flatMap texts) =
      String.join (items.map fun item => String.join (texts item)) := by
  induction items with
  | nil => rfl
  | cons item items ih =>
      rw [List.flatMap_cons, String.join_append, ih, List.map_cons, String.join_cons]

/-- The text of a class: its header, the fields of its features and their methods. -/
theorem text_classAt (docs : List Document) (position : Nat) (id : TypeId) (type : Entity) :
    (classAt docs position id type).text =
      (classAt docs position id type).header ++ " \x7b\n" ++
        String.join (type.features.map fun feature =>
          (accessorsAt docs position feature).fieldText) ++
        String.join (type.features.map fun feature =>
          (accessorsAt docs position feature).methodsText) ++ "\x7d\n" := by
  have methods : String.join (type.features.map fun feature =>
      (accessorsAt docs position feature).methodsText) =
        String.join (((type.features.map (accessorsAt docs position)).flatMap (·.methods)).map
          ("\n" ++ ·.render)) := by
    rw [List.map_flatMap, List.flatMap_map, join_flatMap]
    rfl
  have fields : (type.features.map fun feature => (accessorsAt docs position feature).fieldText) =
      (type.features.map (accessorsAt docs position)).map (·.fieldText) := by
    rw [List.map_map]
    rfl
  rw [classAt, text_ofEntity, header_ofEntity, methods, fields]
  rfl

/-- The size of a class is that of its header and of what is rendered for its features. -/
theorem length_classAt (docs : List Document) (position : Nat) (id : TypeId) (type : Entity) :
    (classAt docs position id type).text.length =
      (classAt docs position id type).header.length +
        (type.features.map fun feature => (accessorsAt docs position feature).size).sum + 5 := by
  have sizes : (type.features.map fun feature => (accessorsAt docs position feature).size).sum =
      (type.features.map fun feature =>
        (accessorsAt docs position feature).fieldText.length).sum +
        (type.features.map fun feature =>
          (accessorsAt docs position feature).methodsText.length).sum :=
    List.sum_map_add
  have opening : " \x7b\n".length = 3 := by decide
  have closing : "\x7d\n".length = 2 := by decide
  rw [text_classAt, sizes]
  simp only [String.length_append, String.length_join, List.map_map, Function.comp_def, opening,
    closing]
  omega

/-- The class with further interfaces. -/
def ClassSource.widened (source : ClassSource) (further : List String) : ClassSource :=
  { source with interfaces := source.interfaces ++ further }

theorem ClassSource.widened_nil (source : ClassSource) : source.widened [] = source := by
  rw [widened, List.append_nil]

theorem ClassSource.length_header_lt {source : ClassSource} {further : List String}
    (some : further ≠ []) : source.header.length < (source.widened further).header.length := by
  have keyword : " implements ".length = 12 := by decide
  have nothing : "".length = 0 := by decide
  have whole : (source.interfaces ++ further).isEmpty = false := by simp [some]
  unfold header widened
  simp only [whole, String.length_append]
  by_cases none : source.interfaces = []
  · simp only [none, List.isEmpty_nil, if_true, nothing, Bool.false_eq_true, if_false,
      String.length_append, keyword]
    omega
  · have separator : ", ".length = 2 := by decide
    have first : source.interfaces.isEmpty = false := by simp [none]
    simp only [first, Bool.false_eq_true, if_false, String.length_append, Text.join,
      String.intercalate_append_of_ne_nil none some, separator]
    omega

end DomainGen.Java

namespace DomainGen

open Java

/-! ## One document and several -/

theorem locatedTypes_definitionsAt (docs : List Document) (position : Nat) :
    (definitionsAt docs position).locatedTypes = typesAt docs position := by
  rw [definitionsAt, typesAt]
  cases docs[position]? with
  | none => rfl
  | some doc =>
      rw [Option.bind_some, Option.elim_some, Document.locatedTypes]
      cases doc.definitions with
      | none => rfl
      | some defs => rfl

/-- The feature has a union of another document as its type, and one of the members of the
union would have accessors. -/
def HidesPrimitives (scope : Scope) (document : Nat) (feature : Feature) : Prop :=
  ∃ union decl, feature.type.target = some union ∧ union.document ≠ document ∧
    scope.type? union = some decl ∧ ∃ member ∈ decl.targets, scope.isAliasable member

/-- What would be rendered for a feature if every union were known. -/
def fullAccessors (scope : Scope) (feature : Feature) : Accessors where
  name := feature.name
  capitalized := Text.upperFirst feature.name
  type := scope.featureType builtins feature
  aliases := (feature.type.target.bind scope.type?).elim [] (primitives scope)

/-- In a model that is split, a feature has the accessors for the primitive members of a
union of its own document only. -/
theorem accessorsAt_split (docs : List Document) (position : Nat) (feature : Feature) :
    (HidesPrimitives (Scope.ofDocuments docs) position feature ∧
        (fullAccessors (Scope.ofDocuments docs) feature).aliases ≠ [] ∧
        accessorsAt docs position feature =
          (fullAccessors (Scope.ofDocuments docs) feature).plain) ∨
      (¬ HidesPrimitives (Scope.ofDocuments docs) position feature ∧
        accessorsAt docs position feature = fullAccessors (Scope.ofDocuments docs) feature) := by
  have parts : accessorsAt docs position feature =
      { fullAccessors (Scope.ofDocuments docs) feature with
        aliases := aliasesOf (Scope.ofDocuments docs) (analysisAt docs position) feature } := rfl
  rw [parts, aliasesOf_analysisAt]
  generalize Scope.ofDocuments docs = scope
  by_cases hides : HidesPrimitives scope position feature
  · left
    refine ⟨hides, ?_, ?_⟩
    · obtain ⟨union, decl, target, -, found, member, listed, aliasable⟩ := hides
      have full : (fullAccessors scope feature).aliases = primitives scope decl := by
        rw [fullAccessors, target, Option.bind_some, found, Option.elim_some]
      rw [full, Ne, primitives_eq_nil_iff]
      exact fun none => none member listed aliasable
    · obtain ⟨union, decl, target, apart, -⟩ := hides
      rw [target, Option.filter_some, if_neg (by simpa using apart)]
      rfl
  · right
    refine ⟨hides, ?_⟩
    have same : ((feature.type.target.filter (·.document = position)).elim [] fun target =>
        (scope.type? target).elim [] (primitives scope)) =
          (fullAccessors scope feature).aliases := by
      rw [fullAccessors]
      cases target : feature.type.target with
      | none => rfl
      | some union =>
          rw [Option.filter_some, Option.bind_some]
          by_cases here : union.document = position
          · rw [if_pos (decide_eq_true here), Option.elim_some]
          · rw [if_neg (by simpa using here), Option.elim_none]
            cases found : scope.type? union with
            | none => rfl
            | some decl =>
                symm
                rw [Option.elim_some, primitives_eq_nil_iff]
                intro member listed aliasable
                exact hides ⟨union, decl, target, here, found, member, listed, aliasable⟩
    exact congrArg (fun aliases => { fullAccessors scope feature with aliases }) same

section Merged

variable {docs : List Document} (fresh : ∀ doc ∈ docs, doc.IsFresh)
include fresh

/-- In one document, it has them for every union. -/
theorem accessorsAt_merged {feature : Feature}
    (known : (Scope.ofDocuments (linkAll docs)).Knows feature.type) :
    accessorsAt (linkAll [Document.merged docs]) 0 (feature.retargeted (mergedPosition docs)) =
      (fullAccessors (Scope.ofDocuments (linkAll docs)) feature).retargeted
        (mergedPosition docs) := by
  have relocates := relocates_linkAll_merged fresh
  have aliases : aliasesOf (Scope.ofDocuments (linkAll [Document.merged docs]))
      (analysisAt (linkAll [Document.merged docs]) 0)
      (feature.retargeted (mergedPosition docs)) =
        (fullAccessors (Scope.ofDocuments (linkAll docs)) feature).aliases.map
          (·.retargeted (mergedPosition docs)) := by
    rw [aliasesOf_analysisAt, Feature.retargeted, Ref.retargeted, fullAccessors]
    cases target : feature.type.target with
    | none => rfl
    | some union =>
        -- Every position of the one document is in that document.
        have first : (mergedPosition docs union).document = 0 := rfl
        rw [Option.map_some, Option.filter_some, if_pos (decide_eq_true first), Option.elim_some,
          relocates.type?_of_isSome (known union target), Option.bind_some]
        cases found : (Scope.ofDocuments (linkAll docs)).type? union with
        | none => rfl
        | some decl => exact primitives_retargeted relocates found
  have type := relocates.featureType_retargeted builtins known
  have parts : accessorsAt (linkAll [Document.merged docs]) 0
      (feature.retargeted (mergedPosition docs)) =
        ⟨feature.name, Text.upperFirst feature.name,
          (Scope.ofDocuments (linkAll [Document.merged docs])).featureType builtins
            (feature.retargeted (mergedPosition docs)),
          aliasesOf (Scope.ofDocuments (linkAll [Document.merged docs]))
            (analysisAt (linkAll [Document.merged docs]) 0)
            (feature.retargeted (mergedPosition docs))⟩ := rfl
  rw [parts, aliases, type]
  rfl

/-- A declaration lists a type in one document where it does in several. -/
theorem mem_targets_merged_iff {place id : TypeId} {decl : TypeDecl}
    (found : (Scope.ofDocuments (linkAll docs)).type? place = some decl)
    (declared : ((Scope.ofDocuments (linkAll docs)).type? id).isSome) :
    mergedPosition docs id ∈ (decl.retargeted (mergedPosition docs)).targets ↔
      id ∈ decl.targets := by
  have relocates := relocates_linkAll_merged fresh
  rw [TypeDecl.targets_retargeted]
  constructor
  · intro member
    obtain ⟨target, listed, same⟩ := List.mem_map.mp member
    have known := relocates.isSome_of_mem_targets found listed
    rwa [← relocates.injective target id known declared same]
  · exact List.mem_map_of_mem

/-- The one document has the types of all the documents. -/
theorem types_merged :
    (definitionsAt (linkAll [Document.merged docs]) 0).types =
      ((List.range docs.length).flatMap fun position =>
        (definitionsAt (linkAll docs) position).types).map
          (·.retargeted (mergedPosition docs)) := by
  have located := typesAt_linkAll_merged fresh
  simp only [Definitions.types, locatedTypes_definitionsAt, located, List.map_flatMap,
    List.map_map]
  rfl

omit fresh in
theorem document_lt_of_type? {id : TypeId} {decl : TypeDecl}
    (found : (Scope.ofDocuments (linkAll docs)).type? id = some decl) :
    id.document < docs.length := by
  obtain ⟨declaration, listed, rfl, -⟩ := exists_declaration_of_type? found
  exact List.mem_range.mp (mem_declarations.mp listed).1

section Entity

variable {index : Nat} {type : Entity}
  (declared : (Scope.ofDocuments (linkAll docs)).type? ⟨0, index⟩ = some (.entity type))
include declared

/-- The class of an entity of the first document has further interfaces if other documents
list the entity. -/
theorem exists_interfaces_merged :
    ∃ further,
      (classAt (linkAll [Document.merged docs]) 0 ⟨0, index⟩
        (type.retargeted (mergedPosition docs))).interfaces =
          (classAt (linkAll docs) 0 ⟨0, index⟩ type).interfaces ++ further ∧
      (further = [] ↔ ∀ position, position ≠ 0 →
        ∀ decl ∈ (definitionsAt (linkAll docs) position).types,
          (⟨0, index⟩ : TypeId) ∉ decl.targets) := by
  have isSome : ((Scope.ofDocuments (linkAll docs)).type? ⟨0, index⟩).isSome := by
    rw [declared]
    rfl
  have lists : ∀ decl ∈ (List.range docs.length).flatMap (fun position =>
      (definitionsAt (linkAll docs) position).types),
        decide ((⟨0, index⟩ : TypeId) ∈ (decl.retargeted (mergedPosition docs)).targets) =
          decide ((⟨0, index⟩ : TypeId) ∈ decl.targets) := by
    intro decl member
    obtain ⟨position, -, member⟩ := List.mem_flatMap.mp member
    obtain ⟨place, found⟩ := Scope.exists_type?_of_mem member
    have same := mem_targets_merged_iff fresh found isSome
    rw [mergedPosition_first] at same
    exact decide_eq_decide.mpr same
  obtain ⟨count, length⟩ := Nat.exists_eq_succ_of_ne_zero
    (Nat.ne_of_gt (document_lt_of_type? declared))
  refine ⟨((((List.range count).map Nat.succ).flatMap fun position =>
    (definitionsAt (linkAll docs) position).types).filter
      ((⟨0, index⟩ : TypeId) ∈ ·.targets)).map (·.name), ?_, ?_⟩
  · rw [interfaces_classAt, interfaces_classAt, types_merged fresh, List.filter_map,
      List.map_map]
    simp only [Function.comp_def, TypeDecl.name_retargeted]
    rw [List.filter_congr lists, length, List.range_succ_eq_map, List.flatMap_cons,
      List.filter_append, List.map_append]
  · simp only [List.map_eq_nil_iff, List.filter_eq_nil_iff, decide_eq_true_eq]
    constructor
    · intro none position apart decl member
      apply none decl
      obtain ⟨place, found⟩ := Scope.exists_type?_of_mem member
      have inside : position < docs.length := document_lt_of_type? found
      rw [length] at inside
      obtain ⟨before, rfl⟩ := Nat.exists_eq_succ_of_ne_zero apart
      rw [List.mem_flatMap]
      exact ⟨_, List.mem_map_of_mem (List.mem_range.mpr (Nat.lt_of_succ_lt_succ inside)), member⟩
    · intro none decl member
      obtain ⟨position, listed, member⟩ := List.mem_flatMap.mp member
      obtain ⟨before, -, rfl⟩ := List.mem_map.mp listed
      exact none (before + 1) (Nat.succ_ne_zero before) decl member

theorem header_merged {further : List String}
    (interfaces : (classAt (linkAll [Document.merged docs]) 0 ⟨0, index⟩
      (type.retargeted (mergedPosition docs))).interfaces =
        (classAt (linkAll docs) 0 ⟨0, index⟩ type).interfaces ++ further) :
    (classAt (linkAll [Document.merged docs]) 0 ⟨0, index⟩
      (type.retargeted (mergedPosition docs))).header =
        ((classAt (linkAll docs) 0 ⟨0, index⟩ type).widened further).header := by
  have relocates := relocates_linkAll_merged fresh
  have known : ∀ ref, type.super = some ref → (Scope.ofDocuments (linkAll docs)).Knows ref := by
    intro ref given
    apply relocates.knows declared .supertype
    rw [TypeDecl.refs, given, List.mem_append]
    exact .inl (List.mem_singleton_self _)
  have super := relocates.map_name_superOf?_retargeted known
  unfold ClassSource.header
  rw [interfaces]
  simp only [classAt, ClassSource.ofEntity, super]
  rfl

/-- What does not depend on the targets of primitive members is the same for every feature
as if every union were known. -/
theorem map_accessors_merged {α : Type} (view : Accessors → α)
    (kept : ∀ accessors move, view (accessors.retargeted move) = view accessors) :
    ((type.retargeted (mergedPosition docs)).features.map fun feature =>
      view (accessorsAt (linkAll [Document.merged docs]) 0 feature)) =
        type.features.map fun feature =>
          view (fullAccessors (Scope.ofDocuments (linkAll docs)) feature) := by
  have relocates := relocates_linkAll_merged fresh
  rw [Entity.retargeted, List.map_map]
  apply List.map_congr_left
  intro feature member
  have known : (Scope.ofDocuments (linkAll docs)).Knows feature.type := by
    apply relocates.knows declared .anyType
    rw [TypeDecl.refs, List.mem_append]
    exact .inr (List.mem_map_of_mem member)
  rw [Function.comp_apply, accessorsAt_merged fresh known, kept]

/-- The class of an entity is the same in one document and in several exactly if it has
nothing to do with a union of another document. -/
theorem text_merged_iff :
    (classAt (linkAll docs) 0 ⟨0, index⟩ type).text =
        (classAt (linkAll [Document.merged docs]) 0 ⟨0, index⟩
          (type.retargeted (mergedPosition docs))).text ↔
      (∀ position, position ≠ 0 → ∀ decl ∈ (definitionsAt (linkAll docs) position).types,
        (⟨0, index⟩ : TypeId) ∉ decl.targets) ∧
      ∀ feature ∈ type.features,
        ¬ HidesPrimitives (Scope.ofDocuments (linkAll docs)) 0 feature := by
  obtain ⟨further, interfaces, further_iff⟩ := exists_interfaces_merged fresh declared
  have header := header_merged fresh declared interfaces
  have split := accessorsAt_split (linkAll docs) 0
  rw [← further_iff]
  constructor
  · intro same
    -- A class that lacks anything is shorter.
    have lengths := congrArg String.length same
    rw [length_classAt, length_classAt, header,
      map_accessors_merged fresh declared _ Accessors.size_retargeted] at lengths
    have smaller : ∀ feature ∈ type.features, (accessorsAt (linkAll docs) 0 feature).size ≤
        (fullAccessors (Scope.ofDocuments (linkAll docs)) feature).size := by
      intro feature _
      obtain ⟨-, some, plain⟩ | ⟨-, full⟩ := split feature
      · rw [plain]
        exact Nat.le_of_lt (Accessors.size_plain_lt some)
      · rw [full]
    have none : further = [] := by
      by_contra some
      have longer : (classAt (linkAll docs) 0 ⟨0, index⟩ type).header.length <
          ((classAt (linkAll docs) 0 ⟨0, index⟩ type).widened further).header.length :=
        ClassSource.length_header_lt some
      have sum := List.sum_le_sum smaller
      omega
    refine ⟨none, ?_⟩
    intro feature member hides
    have less : (accessorsAt (linkAll docs) 0 feature).size <
        (fullAccessors (Scope.ofDocuments (linkAll docs)) feature).size := by
      obtain ⟨-, some, plain⟩ | ⟨known, -⟩ := split feature
      · rw [plain]
        exact Accessors.size_plain_lt some
      · exact absurd hides known
    have sum := List.sum_lt_sum _ _ smaller ⟨feature, member, less⟩
    rw [none, ClassSource.widened_nil] at lengths
    omega
  · rintro ⟨rfl, known⟩
    have full : ∀ feature ∈ type.features, accessorsAt (linkAll docs) 0 feature =
        fullAccessors (Scope.ofDocuments (linkAll docs)) feature := by
      intro feature member
      obtain ⟨hides, -⟩ | ⟨-, full⟩ := split feature
      · exact absurd hides (known feature member)
      · exact full
    have fields := List.map_congr_left fun feature member =>
      congrArg Accessors.fieldText (full feature member)
    have methods := List.map_congr_left fun feature member =>
      congrArg Accessors.methodsText (full feature member)
    rw [text_classAt, text_classAt, header, ClassSource.widened_nil, fields, methods,
      map_accessors_merged fresh declared _ Accessors.fieldText_retargeted,
      map_accessors_merged fresh declared _ Accessors.methodsText_retargeted]

end Entity

end Merged

theorem renderFile_inj {package : List String} {body other : String} :
    renderFile package body = renderFile package other ↔ body = other := by
  rw [renderFile, renderFile, String.append_right_inj]

/-- The class of an entity of the first document is generated from several documents and
from one document with all of their elements, to the same path.  Its contents are the same
exactly if no datatype of another document lists the entity, and no feature of the entity
has as its type a datatype of another document with a member that there would be accessors
for. -/
theorem content_merged_iff (docs : List Document) (fresh : ∀ doc ∈ docs, doc.IsFresh)
    (options : GenerateOptions) (index : Nat) (path : List String) (type : Entity)
    (located : (definitionsAt (linkAll docs) 0).locatedTypes[index]? =
      some (path, .entity type)) :
    let together := linkAll [Document.merged docs]
    let moved := type.retargeted (mergedPosition docs)
    let package := rootPath options ++ path
    let file := Text.join "/" (sourceNames package type.name)
    let content := renderFile package (classAt (linkAll docs) 0 ⟨0, index⟩ type).text
    let contentTogether := renderFile package (classAt together 0 ⟨0, index⟩ moved).text
    (definitionsAt together 0).locatedTypes[index]? = some (path, .entity moved) ∧
      .file file content ∈ artifactsAt .java options (linkAll docs) 0 ∧
      .file file contentTogether ∈ artifactsAt .java options together 0 ∧
      (content = contentTogether ↔
        (∀ position, position ≠ 0 → ∀ decl ∈ (definitionsAt (linkAll docs) position).types,
          (⟨0, index⟩ : TypeId) ∉ decl.targets) ∧
        ∀ feature ∈ type.features,
          ¬ HidesPrimitives (Scope.ofDocuments (linkAll docs)) 0 feature) := by
  intro together moved package file content contentTogether
  have declared : (Scope.ofDocuments (linkAll docs)).type? ⟨0, index⟩ = some (.entity type) := by
    rw [Scope.type?_definitionsAt, Definitions.types, List.getElem?_map, located]
    rfl
  have locatedTogether : (definitionsAt together 0).locatedTypes[index]? =
      some (path, .entity moved) := by
    obtain ⟨count, length⟩ := Nat.exists_eq_succ_of_ne_zero
      (Nat.ne_of_gt (document_lt_of_type? declared))
    rw [locatedTypes_definitionsAt] at located ⊢
    have inside := (List.getElem?_eq_some_iff.mp located).1
    rw [typesAt_linkAll_merged fresh, length, List.range_succ_eq_map, List.flatMap_cons,
      List.getElem?_map, List.getElem?_append_left inside, located]
    rfl
  have rendered : ∀ docs (type : Entity), renderType? (Scope.ofDocuments docs)
      (analysisAt docs 0) ⟨0, index⟩ (.entity type) =
        some (classAt docs 0 ⟨0, index⟩ type).text := by
    intro docs type
    rw [classAt, text_ofEntity]
    rfl
  refine ⟨locatedTogether, ?_, ?_, ?_⟩
  · exact file_mem_artifactsAt located (rendered (linkAll docs) type)
  · exact file_mem_artifactsAt locatedTogether (rendered together moved)
  · rw [renderFile_inj]
    exact text_merged_iff fresh declared

/-- An entity that extends another one from the second document, with a feature of a union
of its own document. -/
def extendingDocs : List Document :=
  ["datatype string datatype U = string|A entity A extends p.B\x7bx:U\x7d",
    "package p\x7bentity B\x7b\x7d\x7d"].map .ofSource

theorem content_merged_iff_extendingDocs :
    ∃ type content,
      (definitionsAt (linkAll extendingDocs) 0).locatedTypes[2]? = some ([], .entity type) ∧
      .file "A.java" content ∈ artifactsAt .java {} (linkAll extendingDocs) 0 ∧
      .file "A.java" content ∈ artifactsAt .java {} (linkAll [Document.merged extendingDocs]) 0 ∧
      ∀ decl ∈ (definitionsAt (linkAll extendingDocs) 1).types,
        (⟨0, 2⟩ : TypeId) ∉ decl.targets := by
  have fresh : ∀ doc ∈ extendingDocs, doc.IsFresh := by
    intro doc member
    exact (Document.isRead_of_mem_map_ofSource member).isFresh
  have computed : ((definitionsAt (linkAll extendingDocs) 0).locatedTypes[2]?).any fun located =>
      located.1 = [] && located.2.entity?.any fun type => type.name = "A" &&
        (classAt (linkAll extendingDocs) 0 ⟨0, 2⟩ type).text =
          (classAt (linkAll [Document.merged extendingDocs]) 0 ⟨0, 2⟩
            (type.retargeted (mergedPosition extendingDocs))).text := by
    decide +kernel
  simp only [Option.any_eq_true, Bool.and_eq_true, decide_eq_true_eq,
    TypeDecl.entity?_eq_some_iff] at computed
  obtain ⟨⟨_, _⟩, located, rfl, type, rfl, name, same⟩ := computed
  obtain ⟨-, file, fileTogether, same_iff⟩ :=
    content_merged_iff extendingDocs fresh {} 2 [] type located
  have root : rootPath {} = [] := by decide
  have path : Text.join "/" (sourceNames ([] ++ []) "A") = "A.java" := by decide +kernel
  rw [root, name, path] at file fileTogether
  rw [root, renderFile_inj] at same_iff
  rw [← same] at fileTogether
  exact ⟨type, _, located, file, fileTogether, (same_iff.mp same).1 1 (by decide)⟩

/-- An entity, and a union in another document that lists it. -/
def listedElsewhereDocs : List Document :=
  ["entity A \x7b\x7d", "datatype U = A"].map .ofSource

/-- In one document the entity implements its union, in two it does not. -/
theorem content_ne_merged_listedElsewhereDocs :
    (∀ doc ∈ listedElsewhereDocs, doc.IsRead) ∧
      ((declarations [0, 1] listedElsewhereDocs).map (·.key)).Nodup ∧
      artifactsAt .java {} (linkAll listedElsewhereDocs) 0 =
        [.file "A.java" "package ;\n\npublic class A \x7b\n\x7d\n"] ∧
      .file "A.java" "package ;\n\npublic class A implements U \x7b\n\x7d\n" ∈
        artifactsAt .java {} (linkAll [Document.merged listedElsewhereDocs]) 0 := by
  refine ⟨?_, ?_, ?_, ?_⟩
  · intro doc member
    exact Document.isRead_of_mem_map_ofSource member
  · decide +kernel
  · decide +kernel
  · decide +kernel

end DomainGen
