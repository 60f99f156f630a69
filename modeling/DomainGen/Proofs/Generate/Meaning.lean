import DomainGen.Proofs.Analysis.Correspondence
import DomainGen.Proofs.Generate.Mentions
import DomainGen.Proofs.Generate.ModuleMentions

/-!
# Output depends on what references mean

The models of two documents that differ in places, in the name of their source, and in how
references that have a target are written give the same output, byte for byte
(`artifacts_of_meaning`).  The workspaces that they are linked in can be arranged in
different ways.

A reference without a target means nothing beyond its text.  The text stands for the type of
a field and for an alternative of a union as it was written, and a supertype without a target
is left out.
-/

namespace DomainGen

/-- The models at two positions of two workspaces differ in places and in how references that
have a target are written.  Their types correspond one by one. -/
structure Corresponds (docs others : List Document) (position place : Nat)
    (related : TypeId → TypeId → Prop) : Prop where
  scope : (Scope.ofDocuments docs).Corresponds (Scope.ofDocuments others) related
  visits : List.Forall₂ (Visit.Alike related) (definitionsAt docs position).visits
    (definitionsAt others place).visits
  own : ∀ index, index < (definitionsAt docs position).types.length →
    related ⟨position, index⟩ ⟨place, index⟩

/-- Two lists are shown the same if the entries at each index are. -/
theorem map_zipIdx_eq {α β γ : Type} {ones : List α} {others : List β} {first : α × Nat → γ}
    {second : β × Nat → γ} (length : ones.length = others.length)
    (same : ∀ index one other, ones[index]? = some one → others[index]? = some other →
      first (one, index) = second (other, index)) :
    ones.zipIdx.map first = others.zipIdx.map second := by
  apply List.ext_getElem?
  intro index
  rw [List.getElem?_map, List.getElem?_map, List.getElem?_zipIdx, List.getElem?_zipIdx]
  by_cases inside : index < ones.length
  · rw [List.getElem?_eq_getElem inside, List.getElem?_eq_getElem (length ▸ inside)]
    simpa using same index _ _ (List.getElem?_eq_getElem inside)
      (List.getElem?_eq_getElem (length ▸ inside))
  · rw [List.getElem?_eq_none (by omega), List.getElem?_eq_none (by omega)]
    rfl

/-- The names of types of a model that are chosen by their declarations and indices. -/
theorem names_of_chosen (docs : List Document) (position : Nat)
    (chosen : TypeDecl × Nat → Bool) :
    (((definitionsAt docs position).types.zipIdx.filter chosen).map
        (TypeId.mk position ·.2)).filterMap
          (fun id => ((Scope.ofDocuments docs).type? id).map (·.name)) =
      ((definitionsAt docs position).types.zipIdx.map fun indexed =>
        if chosen indexed then some indexed.1.name else none).filterMap id := by
  rw [List.filterMap_map, List.filterMap_map, List.filterMap_filter]
  apply List.filterMap_congr
  intro indexed member
  have found := List.mem_zipIdx_iff_getElem?.mp member
  simp only [Function.comp_apply, id, Scope.type?_definitionsAt, found, Option.map_some]

namespace Corresponds

variable {docs others : List Document} {position place : Nat} {related : TypeId → TypeId → Prop}
  (corresponds : Corresponds docs others position place related)
include corresponds

theorem types : List.Forall₂ (TypeDecl.Alike related) (definitionsAt docs position).types
    (definitionsAt others place).types := by
  rw [Definitions.types_eq_filterMap, Definitions.types_eq_filterMap]
  refine List.rel_filterMap ?_ corresponds.visits
  rintro ⟨path, element⟩ ⟨way, other⟩ alike
  cases alike.element with
  | package name pos place inner further => exact .none
  | type same => exact .some same
  | foreign name => exact .none

/-- The types at an index correspond and are alike. -/
theorem aligned {index : Nat} {decl image : TypeDecl}
    (found : (definitionsAt docs position).types[index]? = some decl)
    (standing : (definitionsAt others place).types[index]? = some image) :
    related ⟨position, index⟩ ⟨place, index⟩ ∧ decl.Alike related image := by
  have same := corresponds.own index (List.getElem?_eq_some_iff.mp found).1
  obtain ⟨first, second, declared, counterpart, alike⟩ := corresponds.scope.declared _ _ same
  rw [Scope.type?_definitionsAt, found] at declared
  rw [Scope.type?_definitionsAt, standing] at counterpart
  cases declared
  cases counterpart
  exact ⟨same, alike⟩

/-- The own types of the one model correspond to the own types of the other. -/
theorem document_eq_iff {id counterpart : TypeId} (same : related id counterpart) :
    id.document = position ↔ counterpart.document = place := by
  obtain ⟨decl, image, found, standing, -⟩ := corresponds.scope.declared _ _ same
  rw [Scope.type?_definitionsAt] at found standing
  constructor
  · rintro rfl
    have here := corresponds.own id.index (List.getElem?_eq_some_iff.mp found).1
    rw [corresponds.scope.unique.2 same here]
  · rintro rfl
    have inside := (List.getElem?_eq_some_iff.mp standing).1
    have here := corresponds.own counterpart.index (corresponds.types.length_eq ▸ inside)
    rw [corresponds.scope.unique.1 same here]

/-- The names of types that are chosen in the same way. -/
theorem names_eq {chosen selected : TypeDecl × Nat → Bool}
    (same : ∀ index decl image, (definitionsAt docs position).types[index]? = some decl →
      (definitionsAt others place).types[index]? = some image →
        chosen (decl, index) = selected (image, index)) :
    (((definitionsAt docs position).types.zipIdx.filter chosen).map
        (TypeId.mk position ·.2)).filterMap
          (fun id => ((Scope.ofDocuments docs).type? id).map (·.name)) =
      (((definitionsAt others place).types.zipIdx.filter selected).map
        (TypeId.mk place ·.2)).filterMap
          (fun id => ((Scope.ofDocuments others).type? id).map (·.name)) := by
  rw [names_of_chosen, names_of_chosen]
  congr 1
  refine map_zipIdx_eq corresponds.types.length_eq ?_
  intro index decl image found standing
  rw [same index decl image found standing, (corresponds.aligned found standing).2.name_eq]

/-- The same unions list the types at an index. -/
theorem unions_eq {id counterpart : TypeId} (same : related id counterpart) :
    ((analysisAt docs position).unionsOf.of id).filterMap
        (fun union => ((Scope.ofDocuments docs).type? union).map (·.name)) =
      ((analysisAt others place).unionsOf.of counterpart).filterMap
        fun union => ((Scope.ofDocuments others).type? union).map (·.name) := by
  rw [analysisAt, of_unionsOf_analyze, analysisAt, of_unionsOf_analyze]
  apply corresponds.names_eq
  intro index decl image found standing
  rw [decide_eq_decide]
  exact corresponds.scope.mem_targets_iff same (corresponds.aligned found standing).2

/-- Corresponding types have the same subtypes. -/
theorem subtypes_eq {id counterpart : TypeId} (same : related id counterpart) :
    ((subtypes (Scope.ofDocuments docs) position (definitionsAt docs position)).of id).filterMap
        (fun sub => ((Scope.ofDocuments docs).type? sub).map (·.name)) =
      ((subtypes (Scope.ofDocuments others) place (definitionsAt others place)).of
        counterpart).filterMap
          fun sub => ((Scope.ofDocuments others).type? sub).map (·.name) := by
  rw [of_subtypes, of_subtypes]
  apply corresponds.names_eq
  intro index decl image found standing
  rw [decide_eq_decide]
  have here := (corresponds.aligned found standing).1
  exact corresponds.scope.mem_ancestorsOf_iff ((Scope.type?_definitionsAt docs _).trans found)
    ((Scope.type?_definitionsAt others _).trans standing) here same

theorem super_eq {one image : Entity} (alike : one.Alike related image) :
    ((Scope.ofDocuments docs).superOf? one).map (·.2.name) =
      ((Scope.ofDocuments others).superOf? image).map (·.2.name) := by
  have supers := corresponds.scope.superOf? alike
  generalize (Scope.ofDocuments docs).superOf? one = first at supers ⊢
  generalize (Scope.ofDocuments others).superOf? image = second at supers ⊢
  cases supers with
  | none => rfl
  | some same => rw [Option.map_some, Option.map_some, same.2.name]

/-! ## Java -/

section Java

open Java

omit corresponds in
theorem renderEnum_eq {one image : Enum} (alike : one.Alike image) :
    Java.renderEnum one = Java.renderEnum image := by
  unfold Java.renderEnum
  rw [alike.isEmpty_eq, alike.literals, alike.name]

/-- Corresponding unions have primitive members that are alike. -/
theorem primitives_alike {decl image : TypeDecl} (alike : decl.Alike related image) :
    List.Forall₂ (DataType.Alike related) (primitives (Scope.ofDocuments docs) decl)
      (primitives (Scope.ofDocuments others) image) := by
  have offered := List.rel_filter (p := (Scope.ofDocuments docs).isAliasable)
    (q := (Scope.ofDocuments others).isAliasable)
    (fun id counterpart same => by beta_reduce; rw [corresponds.scope.isAliasable_eq same])
    alike.targets
  have distinct : List.Forall₂ related
      (firstOccurrences id (decl.targets.filter (Scope.ofDocuments docs).isAliasable))
      (firstOccurrences id (image.targets.filter (Scope.ofDocuments others).isAliasable)) := by
    refine forall₂_firstOccurrences offered ?_
    intro one other last final first second
    rw [Bool.eq_iff_iff, beq_iff_eq, beq_iff_eq]
    constructor
    · rintro (rfl : one = last)
      exact corresponds.scope.unique.2 first second
    · rintro (rfl : other = final)
      exact corresponds.scope.unique.1 first second
  have types : List.Forall₂ (DataType.Alike related)
      ((firstOccurrences id (decl.targets.filter (Scope.ofDocuments docs).isAliasable)).filterMap
        fun id => ((Scope.ofDocuments docs).type? id).bind (·.dataType?))
      ((firstOccurrences id (image.targets.filter
        (Scope.ofDocuments others).isAliasable)).filterMap
          fun id => ((Scope.ofDocuments others).type? id).bind (·.dataType?)) := by
    refine List.rel_filterMap ?_ distinct
    intro id counterpart same
    obtain ⟨first, second, found, standing, alike⟩ := corresponds.scope.declared _ _ same
    beta_reduce
    rw [found, standing, Option.bind_some, Option.bind_some]
    exact alike.dataType?
  refine forall₂_firstOccurrences types ?_
  intro one other last final first second
  simp only [aliasType, first.primitive, first.name, second.primitive, second.name]

theorem aliasesOf_alike {one image : Feature} (alike : one.Alike related image) :
    List.Forall₂ (DataType.Alike related)
      (aliasesOf (Scope.ofDocuments docs) (analysisAt docs position) one)
      (aliasesOf (Scope.ofDocuments others) (analysisAt others place) image) := by
  rw [aliasesOf_analysisAt, aliasesOf_analysisAt]
  obtain ⟨id, counterpart, first, second, same⟩ | ⟨first, second, -⟩ :=
    alike.type.resolved_or_unresolved
  · rw [first, second, Option.filter_some, Option.filter_some]
    have here := corresponds.document_eq_iff same
    by_cases own : id.document = position
    · obtain ⟨decl, target, found, standing, alike⟩ := corresponds.scope.declared _ _ same
      rw [if_pos (decide_eq_true own), if_pos (decide_eq_true (here.mp own)), Option.elim_some,
        Option.elim_some, found, standing]
      exact corresponds.primitives_alike alike
    · rw [if_neg (by simpa using own), if_neg (by simpa using mt here.mpr own)]
      exact .nil
  · rw [first, second]
    exact .nil

theorem use_eq {one image : Feature} (alike : one.Alike related image) :
    TypeUse.ofFeature (Scope.ofDocuments docs) one =
      TypeUse.ofFeature (Scope.ofDocuments others) image := by
  rw [TypeUse.ofFeature, TypeUse.ofFeature, corresponds.scope.typeName_eq _ alike.type, alike.many]

theorem fieldUse_eq {one image : Feature} (alike : one.Alike related image) :
    fieldUse (Scope.ofDocuments docs) (analysisAt docs position) one =
      fieldUse (Scope.ofDocuments others) (analysisAt others place) image := by
  rw [fieldUse, fieldUse, isEmpty_eq_of_forall₂ (corresponds.aliasesOf_alike alike),
    corresponds.use_eq alike]

theorem methodSources_eq {one image : Feature} (alike : one.Alike related image) :
    methodSources (Scope.ofDocuments docs) (analysisAt docs position) one =
      methodSources (Scope.ofDocuments others) (analysisAt others place) image := by
  have aliases := corresponds.aliasesOf_alike alike
  have setters : (aliasesOf (Scope.ofDocuments docs) (analysisAt docs position) one).map
        (setterSource one ∘ TypeUse.ofAlias) =
      (aliasesOf (Scope.ofDocuments others) (analysisAt others place) image).map
        (setterSource image ∘ TypeUse.ofAlias) :=
    map_eq_of_forall₂ aliases fun first second same => by
      simp only [Function.comp_apply, setterSource, TypeUse.ofAlias, aliasType, same.primitive,
        same.name, alike.name]
  have getters : (aliasesOf (Scope.ofDocuments docs) (analysisAt docs position) one).map
        (aliasGetterSource one) =
      (aliasesOf (Scope.ofDocuments others) (analysisAt others place) image).map
        (aliasGetterSource image) :=
    map_eq_of_forall₂ aliases fun first second same => by
      simp only [aliasGetterSource, TypeUse.ofAlias, aliasType, same.primitive, same.name,
        alike.name]
  simp only [methodSources, setters, getters, isEmpty_eq_of_forall₂ aliases,
    corresponds.use_eq alike]
  simp only [setterSource, getterSource, alike.name]

section Class

variable {index : Nat} {decl image : TypeDecl}
  (found : (definitionsAt docs position).types[index]? = some decl)
  (standing : (definitionsAt others place).types[index]? = some image)
include found standing

/-- The declarations at an index have the same source. -/
theorem java_renderType?_eq :
    Java.renderType? (Scope.ofDocuments docs) (analysisAt docs position) ⟨position, index⟩ decl =
      Java.renderType? (Scope.ofDocuments others) (analysisAt others place) ⟨place, index⟩
        image := by
  obtain ⟨same, alike⟩ := corresponds.aligned found standing
  cases alike with
  | dataType alike =>
      rw [Java.renderType?, Java.renderType?, alike.isBuiltin_eq]
      unfold Java.renderInterface
      rw [alike.name]
  | enum alike =>
      rw [Java.renderType?, Java.renderType?, renderEnum_eq alike]
  | foreign name => rfl
  | entity alike =>
      rename_i one other
      have source : ClassSource.ofEntity (Scope.ofDocuments docs) (analysisAt docs position)
          ⟨position, index⟩ one = .ofEntity (Scope.ofDocuments others) (analysisAt others place)
            ⟨place, index⟩ other := by
        rw [ClassSource.ofEntity, ClassSource.ofEntity, alike.name, corresponds.super_eq alike,
          corresponds.unions_eq same]
        congr 1
        · refine map_eq_of_forall₂ alike.features fun first second same => ?_
          rw [corresponds.fieldUse_eq same, same.name]
        · rw [List.flatMap, List.flatMap, map_eq_of_forall₂ alike.features fun first second same =>
            corresponds.methodSources_eq same]
      rw [Java.renderType?, Java.renderType?, ← text_ofEntity, ← text_ofEntity, source]

end Class

/-- The same sources come out of visits that are alike, if they come out of the types at each
index. -/
theorem artifactsFrom_eq (root : List String) (index : Nat) {visits further : List Visit}
    (alike : List.Forall₂ (Visit.Alike related) visits further)
    (same : ∀ next decl image, (visits.filterMap (·.element.decl?))[next]? = some decl →
      (further.filterMap (·.element.decl?))[next]? = some image →
        (definitionsAt docs position).types[index + next]? = some decl ∧
          (definitionsAt others place).types[index + next]? = some image) :
    Java.artifactsFrom (Scope.ofDocuments docs) position (analysisAt docs position) root index
        visits =
      Java.artifactsFrom (Scope.ofDocuments others) place (analysisAt others place) root index
        further := by
  induction alike generalizing index with
  | nil => rfl
  | @cons one other visits further first rest ih =>
      obtain ⟨path, element⟩ := one
      obtain ⟨way, other⟩ := other
      obtain ⟨rfl, alike⟩ := first
      cases alike with
      | package name pos place inner further =>
          have later := ih index same
          simp [Java.artifactsFrom, Java.artifactOf?, Element.decl?, later]
      | foreign name =>
          have later := ih index same
          simp [Java.artifactsFrom, Java.artifactOf?, Element.decl?, later]
      | @type decl image alike =>
          obtain ⟨found, standing⟩ := same 0 decl image rfl rfl
          rw [Nat.add_zero] at found standing
          have later := ih (index + 1) fun next decl image found standing => by
            rw [Nat.add_assoc, Nat.add_comm 1 next]
            exact same (next + 1) decl image found standing
          simp only [Java.artifactsFrom, Java.artifactOf?, Element.decl?, Option.isSome_some,
            if_true, corresponds.java_renderType?_eq found standing, alike.name_eq, later]

/-- The models give the same Java sources. -/
theorem artifactsAt_java_eq (options : GenerateOptions) :
    artifactsAt .java options docs position = artifactsAt .java options others place := by
  have visited := corresponds.artifactsFrom_eq (rootPath options) 0 corresponds.visits
    fun next decl image found standing => by
      rw [Nat.zero_add, Definitions.types_eq_filterMap, Definitions.types_eq_filterMap]
      exact ⟨found, standing⟩
  rw [artifactsAt_java, artifactsAt_java, Java.generate, Java.generate, visited]

end Java

/-! ## TypeScript -/

section TypeScript

open TypeScript

theorem property_eq {one image : Feature} (alike : one.Alike related image) :
    PropertySource.ofFeature (Scope.ofDocuments docs) one =
      .ofFeature (Scope.ofDocuments others) image := by
  rw [PropertySource.ofFeature, PropertySource.ofFeature, alike.name, alike.nonNullable,
    corresponds.scope.typeName_eq _ alike.type, alike.many]

omit corresponds in
theorem enumArms_eq {one image : Enum} (alike : one.Alike image) :
    enumArms one = enumArms image := by
  have quoted := congrArg (List.map fun name => "'" ++ name ++ "'") alike.literals
  rw [List.map_map, List.map_map] at quoted
  unfold enumArms
  rw [alike.isEmpty_eq]
  split
  · rfl
  · exact quoted

theorem itemsOf_eq {index : Nat} {decl image : TypeDecl}
    (found : (definitionsAt docs position).types[index]? = some decl)
    (standing : (definitionsAt others place).types[index]? = some image) :
    itemsOf (Scope.ofDocuments docs) ((subtypes (Scope.ofDocuments docs) position
        (definitionsAt docs position)).of ⟨position, index⟩) decl =
      itemsOf (Scope.ofDocuments others) ((subtypes (Scope.ofDocuments others) place
        (definitionsAt others place)).of ⟨place, index⟩) image := by
  obtain ⟨same, alike⟩ := corresponds.aligned found standing
  cases alike with
  | dataType alike =>
      have arms := map_eq_of_forall₂ alike.members fun one other means =>
        corresponds.scope.typeName_eq TypeScript.builtins means
      rw [itemsOf, itemsOf, alike.isBuiltin_eq, alike.isUnion_eq, unionArms, unionArms, arms,
        alike.name]
  | enum alike =>
      rw [itemsOf, itemsOf, enumArms_eq alike, alike.name]
  | foreign name => rfl
  | entity alike =>
      rename_i one other
      have source : InterfaceSource.ofEntity (Scope.ofDocuments docs) ((subtypes
          (Scope.ofDocuments docs) position (definitionsAt docs position)).of
            ⟨position, index⟩) one =
          .ofEntity (Scope.ofDocuments others) ((subtypes (Scope.ofDocuments others) place
            (definitionsAt others place)).of ⟨place, index⟩) other := by
        rw [InterfaceSource.ofEntity, InterfaceSource.ofEntity, discriminant, discriminant,
          corresponds.subtypes_eq same, corresponds.super_eq alike, alike.name,
          map_eq_of_forall₂ alike.features fun first second same => corresponds.property_eq same]
      rw [itemsOf, itemsOf, source, alike.name]

/-- The models give the same module. -/
theorem moduleAt_eq : moduleAt docs position = moduleAt others place := by
  rw [moduleAt, moduleAt, items, items, List.flatMap, List.flatMap]
  congr 1
  exact map_zipIdx_eq corresponds.types.length_eq fun index decl image found standing =>
    corresponds.itemsOf_eq found standing

end TypeScript

/-- The models give the same output in each language. -/
theorem artifactsAt_eq (target : Target) (options : GenerateOptions) :
    artifactsAt target options docs position = artifactsAt target options others place := by
  cases target with
  | java => exact corresponds.artifactsAt_java_eq options
  | typeScript =>
      rw [TypeScript.artifactsAt_moduleAt, TypeScript.artifactsAt_moduleAt, corresponds.moduleAt_eq]

end Corresponds

/-- Types that are declared alike and paired off correspond. -/
theorem Corresponds.of_pairs {docs others : List Document} {position place : Nat}
    (pairs : List (TypeId × TypeId)) (left : (pairs.map (·.1)).Nodup)
    (right : (pairs.map (·.2)).Nodup)
    (declared : ∀ pair ∈ pairs, ((Scope.ofDocuments docs).type? pair.1).isSome ∧
      Option.Rel (TypeDecl.Alike fun id counterpart => (id, counterpart) ∈ pairs)
        ((Scope.ofDocuments docs).type? pair.1) ((Scope.ofDocuments others).type? pair.2))
    (visits : List.Forall₂ (Visit.Alike fun id counterpart => (id, counterpart) ∈ pairs)
      (definitionsAt docs position).visits (definitionsAt others place).visits)
    (own : ∀ index, index < (definitionsAt docs position).types.length →
      (⟨position, index⟩, ⟨place, index⟩) ∈ pairs) :
    Corresponds docs others position place fun id counterpart => (id, counterpart) ∈ pairs := by
  refine ⟨⟨⟨?_, ?_⟩, ?_⟩, visits, own⟩
  · intro id other counterpart first second
    exact congrArg Prod.fst (List.inj_on_of_nodup_map right first second rfl)
  · intro id counterpart other first second
    exact congrArg Prod.snd (List.inj_on_of_nodup_map left first second rfl)
  · intro id counterpart paired
    obtain ⟨exists_, alike⟩ := declared _ paired
    obtain ⟨decl, found⟩ := Option.isSome_iff_exists.mp exists_
    rw [found] at alike
    generalize standing : (Scope.ofDocuments others).type? counterpart = result at alike
    cases alike with
    | some alike => exact ⟨decl, _, found, rfl, alike⟩

/-! ## References without a target -/

section Unresolved

variable {ref : Ref} (unresolved : ref.target = none)
include unresolved

/-- What means nothing is spelled as it was written. -/
theorem Scope.typeName_of_unresolved (scope : Scope) (builtins : BuiltinNames) :
    scope.typeName builtins ref = ref.text := by
  simp only [typeName, dataType?, nameOf, target?, unresolved, Option.bind_none, Option.map_none,
    Option.getD_none]

theorem Scope.superOf?_of_unresolved (scope : Scope) {type : Entity}
    (given : type.super = some ref) : scope.superOf? type = none := by
  simp only [superOf?, given, unresolved, Option.bind_some, Option.bind_eq_bind, Option.bind_none]

end Unresolved

theorem Java.fieldUse_of_unresolved (docs : List Document) (position : Nat) {feature : Feature}
    (unresolved : feature.type.target = none) :
    fieldUse (Scope.ofDocuments docs) (analysisAt docs position) feature =
      ⟨feature.type.text, feature.many⟩ := by
  have none : aliasesOf (Scope.ofDocuments docs) (analysisAt docs position) feature = [] := by
    rw [aliasesOf_analysisAt, unresolved]
    rfl
  rw [fieldUse, none, List.isEmpty_nil, if_pos rfl, TypeUse.ofFeature,
    Scope.typeName_of_unresolved unresolved]

open TypeScript in
/-- Output depends on what references mean and not on how they are written.  Models that differ
in places and in how references that have a target are written give the same output in each
language.  A reference without a target is the type of a field and of a property, and an
alternative of a union, as it was written; and a class or an interface does not extend a
supertype without a target. -/
theorem artifacts_of_meaning (docs : List Document) (position : Nat) (options : GenerateOptions) :
    (∀ others place related, Corresponds docs others position place related →
      ∀ target, artifactsAt target options docs position =
        artifactsAt target options others place) ∧
    artifactsAt .typeScript options docs position =
      [.file (moduleName options ++ ".ts")
        (Text.join "\n" ((moduleAt docs position).map Item.text))] ∧
    (∀ (index : Nat) (path : List String) (type : Entity),
      (definitionsAt docs position).locatedTypes[index]? = some (path, .entity type) →
      let package := Java.rootPath options ++ path
      ∃ (source : Java.ClassSource) (interface : InterfaceSource),
        Artifact.file (Text.join "/" (Java.sourceNames package type.name))
            (Java.renderFile package source.text) ∈ artifactsAt .java options docs position ∧
          Item.interface interface ∈ moduleAt docs position ∧
          source.name = type.name ∧ interface.name = type.name ∧
          (∀ (number : Nat) (feature : Feature), type.features[number]? = some feature →
            feature.type.target = none →
            source.fields[number]? = some (⟨feature.type.text, feature.many⟩, feature.name) ∧
              interface.properties[number]? = some
                ⟨feature.name, !feature.nonNullable, feature.type.text, feature.many⟩) ∧
          ∀ ref : Ref, type.super = some ref → ref.target = none →
            source.super = none ∧ interface.super = none) ∧
    ∀ union : DataType, .dataType union ∈ (definitionsAt docs position).types → union.isUnion →
      ¬ union.isBuiltin →
        ∃ arms, Item.typeAlias union.name arms ∈ moduleAt docs position ∧
          ∀ member ∈ union.members, member.target = none → member.text ∈ arms := by
  refine ⟨fun others place related same target => same.artifactsAt_eq target options,
    artifactsAt_moduleAt options docs position, ?_, ?_⟩
  · intro index path type located
    have placed : (definitionsAt docs position).types[index]? = some (.entity type) := by
      rw [Definitions.types, List.getElem?_map, located]
      rfl
    refine ⟨Java.classAt docs position ⟨position, index⟩ type, .ofEntity (Scope.ofDocuments docs)
      ((subtypes (Scope.ofDocuments docs) position (definitionsAt docs position)).of
        ⟨position, index⟩) type, ?_, ?_, rfl, rfl, ?_, ?_⟩
    · have rendered : Java.renderType? (Scope.ofDocuments docs) (analysisAt docs position)
          ⟨position, index⟩ (.entity type) = some (Java.classAt docs position ⟨position, index⟩
            type).text := by
        rw [Java.classAt, Java.text_ofEntity]
        rfl
      exact Java.file_mem_artifactsAt located rendered
    · exact mem_moduleAt_iff.mpr ⟨index, _, placed, List.mem_cons_self⟩
    · intro number feature listed unresolved
      have use := Java.fieldUse_of_unresolved docs position unresolved
      simp only [Java.classAt, Java.ClassSource.ofEntity, InterfaceSource.ofEntity,
        List.getElem?_map, listed, Option.map_some, use, PropertySource.ofFeature,
        Scope.typeName_of_unresolved unresolved, and_self]
    · intro ref given unresolved
      have missing := Scope.superOf?_of_unresolved unresolved (Scope.ofDocuments docs) given
      simp only [Java.classAt, Java.ClassSource.ofEntity, InterfaceSource.ofEntity, missing,
        Option.map_none, and_self]
  · intro union declared isUnion foreign
    obtain ⟨index, placed⟩ := List.mem_iff_getElem?.mp declared
    refine ⟨unionArms (Scope.ofDocuments docs) union,
      mem_moduleAt_iff.mpr ⟨index, _, placed, by simp [itemsOf, foreign, isUnion]⟩, ?_⟩
    intro member listed unresolved
    rw [unionArms, mem_firstOccurrences_id, List.mem_map]
    exact ⟨member, listed, Scope.typeName_of_unresolved unresolved _ _⟩

/-- Two documents.  The types of the first refer to each other, to a type of the second and to
nothing. -/
def shortDocs : List Document :=
  [.ofSource ("package p \x7b entity A extends B \x7b\x7d " ++
      "entity B extends Lost \x7ba:A many c:C n:Lost u:U\x7d " ++
      "datatype string datatype U = A|string|Lost \x7d"),
    .ofSource "package p \x7b enum C \x7bx\x7d \x7d"]

/-- The documents in the other order.  References to types are qualified. -/
def qualifiedDocs : List Document :=
  [.ofSource "package p \x7b\n enum C \x7bx\x7d\n\x7d\n",
    .ofSource ("package p \x7b\n entity A extends p.B \x7b\x7d\n entity B extends Lost \x7b\n" ++
      "  a:p.A many c:p.C n:Lost u:p.U\n \x7d\n" ++
      " datatype string\n datatype U = p.A | p.string | Lost\n\x7d\n")]

theorem artifacts_of_meaning_qualifiedDocs :
    let docs := link [0, 1] shortDocs
    let others := link [0, 1] qualifiedDocs
    (definitionsAt docs 0).refs.map (·.2.text) = ["B", "Lost", "A", "C", "Lost", "U", "A", "string",
        "Lost"] ∧
      (definitionsAt others 1).refs.map (·.2.text) = ["p.B", "Lost", "p.A", "p.C", "Lost", "p.U",
        "p.A", "p.string", "Lost"] ∧
      (∀ target options, artifactsAt target options docs 0 = artifactsAt target options others 1) ∧
      (∃ source : Java.ClassSource,
        .file "p/B.java" (Java.renderFile ["p"] source.text) ∈ artifactsAt .java {} docs 0 ∧
          source.fields[2]? = some (⟨"Lost", false⟩, "n") ∧ source.super = none) ∧
      ∃ arms, .typeAlias "U" arms ∈ TypeScript.moduleAt docs 0 ∧ "Lost" ∈ arms := by
  intro docs others
  let pairs : List (TypeId × TypeId) := [(⟨0, 0⟩, ⟨1, 0⟩), (⟨0, 1⟩, ⟨1, 1⟩), (⟨0, 2⟩, ⟨1, 2⟩),
    (⟨0, 3⟩, ⟨1, 3⟩), (⟨1, 0⟩, ⟨0, 0⟩)]
  -- One evaluation, so that the documents are read once.
  have computed : ((definitionsAt docs 0).refs.map (·.2.text) = ["B", "Lost", "A", "C", "Lost", "U",
        "A", "string", "Lost"] ∧
      (definitionsAt others 1).refs.map (·.2.text) = ["p.B", "Lost", "p.A", "p.C", "Lost", "p.U",
        "p.A", "p.string", "Lost"]) ∧
      ((∀ pair ∈ pairs, ((Scope.ofDocuments docs).type? pair.1).isSome ∧
        Option.Rel (TypeDecl.Alike fun id counterpart => (id, counterpart) ∈ pairs)
          ((Scope.ofDocuments docs).type? pair.1) ((Scope.ofDocuments others).type? pair.2)) ∧
      List.Forall₂ (Visit.Alike fun id counterpart => (id, counterpart) ∈ pairs)
        (definitionsAt docs 0).visits (definitionsAt others 1).visits ∧
      ∀ index, index < (definitionsAt docs 0).types.length → (⟨0, index⟩, ⟨1, index⟩) ∈ pairs) ∧
      (((definitionsAt docs 0).locatedTypes[1]?).any fun located =>
        located.1 = ["p"] && located.2.entity?.any fun type =>
          type.name = "B" && (type.features[2]?).any (fun feature =>
            feature.type.target.isNone && feature.type.text = "Lost" && feature.name = "n" &&
              !feature.many) && type.super.any (·.target.isNone)) ∧
      ((definitionsAt docs 0).types[3]?).any fun decl => decl.dataType?.any fun union =>
        union.name = "U" && union.isUnion && !union.isBuiltin && (union.members[2]?).any fun ref =>
          ref.target.isNone && ref.text = "Lost" := by
    decide +kernel
  obtain ⟨texts, ⟨declared, visits, own⟩, entity, union⟩ := computed
  have corresponds := Corresponds.of_pairs pairs (by decide) (by decide) declared visits own
  obtain ⟨-, -, entities, unions⟩ := artifacts_of_meaning docs 0 {}
  simp only [Option.any_eq_true, Bool.and_eq_true, decide_eq_true_eq, Option.isNone_iff_eq_none,
    Bool.not_eq_true'] at entity union
  obtain ⟨⟨path, decl⟩, located, rfl, type, isEntity, ⟨named, feature, listed,
    ⟨⟨unresolved, text⟩, name⟩, single⟩, ref, given, missing⟩ := entity
  rw [TypeDecl.entity?_eq_some_iff] at isEntity
  subst isEntity
  obtain ⟨source, interface, written, -, -, -, fields, supers⟩ := entities 1 _ type located
  obtain ⟨decl, declared, union, isUnion, ⟨⟨called, hasMembers⟩, foreign⟩, member, offered,
    unknown, spelled⟩ := union
  rw [TypeDecl.dataType?_eq_some_iff] at isUnion
  subst isUnion
  obtain ⟨arms, aliased, spellings⟩ := unions union (List.mem_of_getElem? declared) hasMembers
    (by simp [foreign])
  have field := (fields 2 feature listed unresolved).1
  have arm := spellings member (List.mem_of_getElem? offered) unknown
  have place : Text.join "/" (Java.sourceNames (Java.rootPath {} ++ ["p"]) "B") = "p/B.java" := by
    decide
  have root : Java.rootPath {} = [] := by decide
  rw [named, place, root, List.nil_append] at written
  rw [text, single, name] at field
  rw [called] at aliased
  rw [spelled] at arm
  obtain ⟨first, second⟩ := texts
  refine ⟨first, second, ?_, ⟨source, written, field, (supers ref given missing).1⟩, arms, aliased,
    arm⟩
  intro target options
  exact (artifacts_of_meaning docs 0 options).1 others 1 _ corresponds target

end DomainGen
