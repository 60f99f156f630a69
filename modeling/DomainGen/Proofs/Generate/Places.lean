import DomainGen.Generate.Target
import DomainGen.Proofs.Link.Places

/-!
# Generated code does not depend on places

Whatever is asked about a scope and a model in generating code has the same
answer without places, up to the places in the answer.  At the end of the chain
stand texts, which have none (`Target.generate_unplaced`).
-/

namespace DomainGen

/-! ## Scopes -/

namespace Scope

/-- The scope without places. -/
def unplaced (scope : Scope) : Scope := ⟨scope.types.map (·.map (·.unplaced))⟩

theorem ofDocuments_unplaced (docs : List Document) :
    ofDocuments (docs.map (·.unplaced)) = (ofDocuments docs).unplaced := by
  simp [ofDocuments, unplaced, Document.types_unplaced]

variable (scope : Scope)

@[simp] theorem type?_unplaced (id : TypeId) :
    scope.unplaced.type? id = (scope.type? id).map (·.unplaced) := by
  rw [type?, type?, unplaced, Array.getElem?_map]
  cases scope.types[id.document]? with
  | none => rfl
  | some types => simp

@[simp] theorem ids_unplaced : scope.unplaced.ids = scope.ids := by
  rw [ids, ids, unplaced, Array.toList_map, List.zipIdx_map, List.flatMap_map]
  congr 1
  funext ⟨types, document⟩
  simp

@[simp] theorem target?_unplaced (ref : Ref) :
    scope.unplaced.target? ref.unplaced = (scope.target? ref).map (·.unplaced) := by
  rw [target?, target?, Ref.target_unplaced]
  cases ref.target with
  | none => rfl
  | some id => exact scope.type?_unplaced id

@[simp] theorem dataType?_unplaced (ref : Ref) :
    scope.unplaced.dataType? ref.unplaced = (scope.dataType? ref).map (·.unplaced) := by
  rw [dataType?, dataType?, target?_unplaced]
  cases scope.target? ref with
  | none => rfl
  | some decl => simp

@[simp] theorem nameOf_unplaced (ref : Ref) :
    scope.unplaced.nameOf ref.unplaced = scope.nameOf ref := by
  rw [nameOf, nameOf, target?_unplaced]
  cases scope.target? ref with
  | none => rfl
  | some decl => simp

@[simp] theorem superOf?_unplaced (entity : Entity) :
    scope.unplaced.superOf? entity.unplaced =
      (scope.superOf? entity).map fun (id, super) => (id, super.unplaced) := by
  have target : entity.unplaced.super.bind (·.target) = entity.super.bind (·.target) := by
    rw [Entity.unplaced]
    cases entity.super with
    | none => rfl
    | some ref => rfl
  rw [superOf?, superOf?, target]
  cases entity.super.bind (·.target) with
  | none => rfl
  | some id =>
      simp only [Option.bind_eq_bind, Option.bind_some, type?_unplaced]
      cases scope.type? id with
      | none => rfl
      | some decl =>
          simp only [Option.map_some, Option.bind_some, TypeDecl.entity?_unplaced]
          cases decl.entity? with
          | none => rfl
          | some super => rfl

/-- A text that depends on the name of the supertype only. -/
theorem elim_superOf?_unplaced (entity : Entity) (render : String → String) :
    (scope.unplaced.superOf? entity.unplaced).elim "" (fun (_, super) => render super.name) =
      (scope.superOf? entity).elim "" fun (_, super) => render super.name := by
  rw [superOf?_unplaced]
  cases scope.superOf? entity with
  | none => rfl
  | some super => rfl

@[simp] theorem typeName_unplaced (builtins : BuiltinNames) (ref : Ref) :
    scope.unplaced.typeName builtins ref.unplaced = scope.typeName builtins ref := by
  rw [typeName, typeName, dataType?_unplaced, nameOf_unplaced]
  cases scope.dataType? ref with
  | none => rfl
  | some type => rfl

@[simp] theorem featureType_unplaced (builtins : BuiltinNames) (feature : Feature) :
    scope.unplaced.featureType builtins feature.unplaced = scope.featureType builtins feature := by
  rw [featureType, featureType, Feature.unplaced, typeName_unplaced]

/-- The chain of supertypes depends on the scope only through the supertype of each
entity. -/
theorem ancestors_unplaced (unseen : List TypeId) (entity : Entity) :
    scope.unplaced.ancestors unseen entity.unplaced = scope.ancestors unseen entity := by
  fun_induction scope.ancestors unseen entity with
  | case1 unseen entity missing =>
      rw [Scope.ancestors, superOf?_unplaced, missing]
      rfl
  | case2 unseen entity id super found member ih =>
      rw [Scope.ancestors, superOf?_unplaced, found]
      simp only [Option.map_some, member, if_true]
      rw [ih]
  | case3 unseen entity id super found missing =>
      rw [Scope.ancestors, superOf?_unplaced, found]
      simp only [Option.map_some, missing, if_false]

end Scope

/-! ## Relations -/

theorem Analysis.addMember_unplaced (scope : Scope) (union : TypeId) (analysis : Analysis)
    (member : Ref) :
    analysis.addMember scope.unplaced union member.unplaced =
      analysis.addMember scope union member := by
  rw [Analysis.addMember, Analysis.addMember, Ref.target_unplaced]
  cases member.target with
  | none => rfl
  | some target =>
      have aliasable : ((scope.unplaced.type? target).bind (·.dataType?)).any (·.isAliasable) =
          ((scope.type? target).bind (·.dataType?)).any (·.isAliasable) := by
        rw [Scope.type?_unplaced]
        cases scope.type? target with
        | none => rfl
        | some decl =>
            rw [Option.map_some, Option.bind_some, Option.bind_some,
              TypeDecl.dataType?_unplaced, Option.any_map]
            rfl
      simp only [aliasable]

theorem Analysis.foldl_addMember_unplaced (scope : Scope) (union : TypeId)
    (analysis : Analysis) (members : List Ref) :
    (members.map (·.unplaced)).foldl (Analysis.addMember scope.unplaced union) analysis =
      members.foldl (Analysis.addMember scope union) analysis := by
  rw [List.foldl_map]
  congr 1
  funext analysis member
  exact analysis.addMember_unplaced scope union member

/-- The declaration without places at the same position. -/
def unplacedIndexed (indexed : TypeDecl × Nat) : TypeDecl × Nat :=
  (indexed.1.unplaced, indexed.2)

theorem Analysis.addType_unplaced (scope : Scope) (document : Nat) (analysis : Analysis)
    (indexed : TypeDecl × Nat) :
    analysis.addType scope.unplaced document (unplacedIndexed indexed) =
      analysis.addType scope document indexed := by
  rcases indexed with ⟨decl, index⟩
  cases decl with
  | dataType type =>
      exact Analysis.foldl_addMember_unplaced scope ⟨document, index⟩ analysis type.members
  | entity type => rfl
  | enum type => rfl
  | foreign name => rfl

theorem Definitions.zipIdx_types_unplaced (defs : Definitions) :
    defs.unplaced.types.zipIdx = defs.types.zipIdx.map unplacedIndexed := by
  rw [Definitions.types_unplaced, List.zipIdx_map]
  rfl

@[simp] theorem analyze_unplaced (scope : Scope) (document : Nat) (defs : Definitions) :
    analyze scope.unplaced document defs.unplaced = analyze scope document defs := by
  rw [analyze, Definitions.zipIdx_types_unplaced, List.foldl_map, analyze]
  congr 1
  funext analysis indexed
  exact analysis.addType_unplaced scope document indexed

theorem addSubtype_unplaced (scope : Scope) (document : Nat) (subtypes : Relation)
    (indexed : TypeDecl × Nat) :
    addSubtype scope.unplaced document subtypes (unplacedIndexed indexed) =
      addSubtype scope document subtypes indexed := by
  rcases indexed with ⟨decl, index⟩
  cases decl with
  | dataType type => rfl
  | entity type =>
      simp only [addSubtype, unplacedIndexed, TypeDecl.unplaced, Scope.ids_unplaced,
        Scope.ancestors_unplaced]
  | enum type => rfl
  | foreign name => rfl

@[simp] theorem subtypes_unplaced (scope : Scope) (document : Nat) (defs : Definitions) :
    subtypes scope.unplaced document defs.unplaced = subtypes scope document defs := by
  rw [subtypes, Definitions.zipIdx_types_unplaced, List.foldl_map, subtypes]
  congr 1
  funext relation indexed
  exact addSubtype_unplaced scope document relation indexed

/-! ## TypeScript definitions -/

namespace TypeScript

variable (scope : Scope)

theorem renderFeature_unplaced (feature : Feature) :
    renderFeature scope.unplaced feature.unplaced = renderFeature scope feature := by
  unfold renderFeature
  rw [Scope.featureType_unplaced]
  rfl

theorem discriminant_unplaced (type : Entity) (subtypes : List TypeId) :
    discriminant scope.unplaced type.unplaced subtypes = discriminant scope type subtypes := by
  simp [discriminant, Option.map_map, Function.comp_def]

theorem renderInterface_unplaced (type : Entity) (subtypes : List TypeId) :
    renderInterface scope.unplaced type.unplaced subtypes =
      renderInterface scope type subtypes := by
  have features : type.unplaced.features.map (renderFeature scope.unplaced) =
      type.features.map (renderFeature scope) := by
    rw [Entity.unplaced, List.map_map]
    congr 1
    funext feature
    exact renderFeature_unplaced scope feature
  unfold renderInterface
  rw [scope.elim_superOf?_unplaced type (" extends " ++ ·), discriminant_unplaced, features]
  rfl

theorem renderUnion_unplaced (type : DataType) :
    renderUnion scope.unplaced type.unplaced = renderUnion scope type := by
  have arms : type.unplaced.members.map (scope.unplaced.typeName builtins) =
      type.members.map (scope.typeName builtins) := by
    rw [DataType.unplaced, List.map_map]
    congr 1
    funext member
    exact scope.typeName_unplaced builtins member
  unfold renderUnion unionArms
  rw [arms, DataType.name_unplaced]

theorem renderEnum_unplaced (type : Enum) : renderEnum type.unplaced = renderEnum type := by
  unfold renderEnum
  rw [Enum.names_unplaced, Enum.isEmpty_unplaced, Enum.name_unplaced]

theorem renderType?_unplaced (subtypes : List TypeId) (decl : TypeDecl) :
    renderType? scope.unplaced subtypes decl.unplaced = renderType? scope subtypes decl := by
  cases decl with
  | dataType type =>
      simp only [TypeDecl.unplaced, renderType?, DataType.isBuiltin_unplaced,
        DataType.isUnion_unplaced, renderUnion_unplaced]
  | entity type =>
      simp only [TypeDecl.unplaced, renderType?, renderInterface_unplaced]
      rfl
  | enum type => simp only [TypeDecl.unplaced, renderType?, renderEnum_unplaced]
  | foreign name => rfl

theorem generate_unplaced (document : Nat) (defs : Definitions) (options : GenerateOptions) :
    generate scope.unplaced document defs.unplaced options =
      generate scope document defs options := by
  have declared : declarations scope.unplaced document defs.unplaced =
      declarations scope document defs := by
    rw [declarations, declarations, subtypes_unplaced, Definitions.zipIdx_types_unplaced,
      List.filterMap_map]
    congr 1
    funext indexed
    exact renderType?_unplaced scope _ indexed.1
  rw [generate, generate, renderModule, renderModule, declared]

end TypeScript

/-! ## Java sources -/

theorem firstOccurrences_map {α β γ : Type} [BEq γ] (key : β → γ) (image : α → β)
    (entries : List α) :
    firstOccurrences key (entries.map image) =
      (firstOccurrences (key ∘ image) entries).map image := by
  have generalized : ∀ kept : List α,
      (entries.map image).foldl (fun kept entry =>
          if kept.any (key · == key entry) then kept else kept ++ [entry]) (kept.map image) =
        (entries.foldl (fun kept entry =>
          if kept.any ((key ∘ image) · == (key ∘ image) entry) then kept else kept ++ [entry])
            kept).map image := by
    induction entries with
    | nil =>
        intro kept
        rfl
    | cons entry entries ih =>
        intro kept
        rw [List.map_cons, List.foldl_cons, List.foldl_cons, List.any_map]
        by_cases found : kept.any ((key · == key (image entry)) ∘ image)
        · rw [if_pos found, ih]
          congr 2
          exact (if_pos found).symm
        · rw [if_neg found, ← List.map_singleton, ← List.map_append, ih]
          congr 2
          exact (if_neg found).symm
  exact generalized []

namespace Java

variable (scope : Scope) (analysis : Analysis)

/-- What is rendered for a feature, without places. -/
def Accessors.unplaced (accessors : Accessors) : Accessors :=
  { accessors with aliases := accessors.aliases.map (·.unplaced) }

theorem filterMap_dataType?_unplaced (ids : List TypeId) :
    (ids.filterMap fun id => (scope.unplaced.type? id).bind (·.dataType?)) =
      (ids.filterMap fun id => (scope.type? id).bind (·.dataType?)).map (·.unplaced) := by
  rw [List.map_filterMap]
  congr 1
  funext id
  rw [Scope.type?_unplaced]
  cases scope.type? id with
  | none => rfl
  | some decl => exact decl.dataType?_unplaced

/-- The primitive members that a feature has accessors for. -/
def aliasIds (ref : Ref) : List TypeId :=
  match ref.target, scope.dataType? ref with
  | some target, some _ => analysis.aliasesOf.of target
  | _, _ => []

theorem aliasIds_unplaced (ref : Ref) :
    aliasIds scope.unplaced analysis ref.unplaced = aliasIds scope analysis ref := by
  rw [aliasIds, aliasIds, Scope.dataType?_unplaced, Ref.target_unplaced]
  cases ref.target with
  | none => rfl
  | some target =>
      cases scope.dataType? ref with
      | none => rfl
      | some type => rfl

theorem Accessors.ofFeature_eq (feature : Feature) :
    Accessors.ofFeature scope analysis feature =
      ⟨feature.name, Text.upperFirst feature.name, scope.featureType builtins feature,
        firstOccurrences aliasType
          ((aliasIds scope analysis feature.type).filterMap
            fun id => (scope.type? id).bind (·.dataType?))⟩ := rfl

theorem Accessors.ofFeature_unplaced (feature : Feature) :
    Accessors.ofFeature scope.unplaced analysis feature.unplaced =
      (Accessors.ofFeature scope analysis feature).unplaced := by
  have ids : aliasIds scope.unplaced analysis feature.unplaced.type =
      aliasIds scope analysis feature.type := aliasIds_unplaced scope analysis feature.type
  rw [Accessors.ofFeature_eq, Accessors.ofFeature_eq, Scope.featureType_unplaced, ids,
    filterMap_dataType?_unplaced, firstOccurrences_map]
  rfl

theorem Accessors.fieldType_unplaced (accessors : Accessors) :
    accessors.unplaced.fieldType = accessors.fieldType := by
  simp [Accessors.fieldType, Accessors.unplaced]

theorem Accessors.methods_unplaced (accessors : Accessors) :
    accessors.unplaced.methods = accessors.methods := by
  have getter : accessors.unplaced.getter = accessors.getter := by
    simp [Accessors.getter, Accessors.unplaced]
  rw [Accessors.methods, Accessors.methods, getter]
  simp only [Accessors.unplaced, List.map_map]
  rfl

theorem classHeader_unplaced (id : TypeId) (type : Entity) :
    classHeader scope.unplaced analysis id type.unplaced = classHeader scope analysis id type := by
  have unions : ((analysis.unionsOf.of id).filterMap fun union =>
      (scope.unplaced.type? union).map (·.name)) =
        (analysis.unionsOf.of id).filterMap fun union => (scope.type? union).map (·.name) := by
    simp [Option.map_map, Function.comp_def]
  unfold classHeader
  rw [scope.elim_superOf?_unplaced type (" extends " ++ ·), unions]
  rfl

theorem renderClass_unplaced (id : TypeId) (type : Entity) :
    renderClass scope.unplaced analysis id type.unplaced = renderClass scope analysis id type := by
  have features : type.unplaced.features.map (Accessors.ofFeature scope.unplaced analysis) =
      (type.features.map (Accessors.ofFeature scope analysis)).map (·.unplaced) := by
    rw [Entity.unplaced, List.map_map, List.map_map]
    congr 1
    funext feature
    exact Accessors.ofFeature_unplaced scope analysis feature
  unfold renderClass
  rw [features, classHeader_unplaced]
  simp only [List.map_map, List.flatMap_map, Function.comp_def, Accessors.fieldType_unplaced,
    Accessors.methods_unplaced]
  rfl

theorem renderEnum_unplaced (type : Enum) : renderEnum type.unplaced = renderEnum type := by
  unfold renderEnum
  rw [Enum.names_unplaced, Enum.isEmpty_unplaced, Enum.name_unplaced]

theorem renderType?_unplaced (id : TypeId) (decl : TypeDecl) :
    renderType? scope.unplaced analysis id decl.unplaced = renderType? scope analysis id decl := by
  cases decl with
  | dataType type => rfl
  | entity type => simp only [TypeDecl.unplaced, renderType?, renderClass_unplaced]
  | enum type => simp only [TypeDecl.unplaced, renderType?, renderEnum_unplaced]
  | foreign name => rfl

theorem artifactOf?_unplaced (document : Nat) (root : List String) (visit : Visit)
    (index : Nat) :
    artifactOf? scope.unplaced document analysis root visit.unplaced index =
      artifactOf? scope document analysis root visit index := by
  rcases visit with ⟨path, element⟩
  cases element with
  | package name pos elements => simp only [Visit.unplaced, Element.unplaced, artifactOf?]
  | type decl =>
      simp only [Visit.unplaced, Element.unplaced, artifactOf?, renderType?_unplaced,
        TypeDecl.name_unplaced]
  | foreign name => simp only [Visit.unplaced, Element.unplaced, artifactOf?]

theorem artifactsFrom_unplaced (document : Nat) (root : List String) (index : Nat)
    (visits : List Visit) :
    artifactsFrom scope.unplaced document analysis root index (visits.map (·.unplaced)) =
      artifactsFrom scope document analysis root index visits := by
  induction visits generalizing index with
  | nil => rfl
  | cons visit visits ih =>
      have declares : visit.unplaced.element.decl?.isSome = visit.element.decl?.isSome := by
        rw [Visit.unplaced, Element.decl?_unplaced, Option.isSome_map]
      rw [List.map_cons, artifactsFrom, artifactsFrom, artifactOf?_unplaced, declares, ih]

theorem generate_unplaced (document : Nat) (defs : Definitions) (options : GenerateOptions) :
    generate scope.unplaced document analysis defs.unplaced options =
      generate scope document analysis defs options := by
  simp only [generate, Definitions.visits_unplaced, artifactsFrom_unplaced]

end Java

/-- The output for a model does not depend on places. -/
theorem Target.generate_unplaced (target : Target) (scope : Scope) (document : Nat)
    (analysis : Analysis) (defs : Definitions) (options : GenerateOptions) :
    target.generate scope.unplaced document analysis defs.unplaced options =
      target.generate scope document analysis defs options := by
  cases target with
  | java => exact Java.generate_unplaced scope analysis document defs options
  | typeScript => exact TypeScript.generate_unplaced scope document defs options

end DomainGen
