import DomainGen.Proofs.Generate.ModuleSource
import DomainGen.Proofs.Generate.Nesting
import DomainGen.Proofs.Generate.Splitting
import DomainGen.Proofs.Generate.Widening
import DomainGen.Proofs.Link.Extension

/-!
# Code for one more entity

An entity that is added at the end of a model, and that nothing in the model refers to, is
a local change of the generated code (`artifacts_extended`).  Java output has one more file
at its end.  A module has the declaration of the entity at its end, and otherwise only
the interfaces of the entities that it extends, directly or through others, change: their
discriminants list one more name.
-/

namespace DomainGen

/-! ## The extended model -/

/-- A workspace of one linked model before and after an entity is added to it. -/
structure ExtendedBy (type : Entity) (before after : List Document) : Prop where
  definitions : definitionsAt after 0 = (definitionsAt before 0).extended type
  within : (Scope.ofDocuments before).Within (Scope.ofDocuments after)

theorem definitionsAt_linkAll_singleton {doc : Document} {defs : Definitions}
    (model : doc.definitions = some defs) :
    definitionsAt (linkAll [doc]) 0 = defs.mapRefs (declareGroup [0] [doc]).1.resolve := by
  have linked := definitionsAt_link [doc] (List.nodup_singleton 0) 0
  rw [if_pos (List.mem_singleton_self 0)] at linked
  refine linked.trans ?_
  simp [definitionsAt, model]

theorem exists_extendedBy {doc : Document} {defs : Definitions}
    (model : doc.definitions = some defs) {type : Entity} (read : (doc.extended type).IsRead)
    (apart : ∀ path use ref, (path, use, ref) ∈ doc.locatedRefs → ref.text ≠ type.name) :
    ∃ linked : Entity, linked.name = type.name ∧
      ExtendedBy linked (linkAll [doc]) (linkAll [doc.extended type]) := by
  obtain ⟨linked, named, mapped⟩ := Document.exists_extended_mapRefs model
    (Document.IsRead.dotFree_extended model read) apart
  have definitions : definitionsAt (linkAll [doc.extended type]) 0 =
      (definitionsAt (linkAll [doc]) 0).extended linked := by
    rw [definitionsAt_linkAll_singleton model,
      definitionsAt_linkAll_singleton (Document.definitions_extended model), mapped]
  have fresh : ∀ one ∈ [doc], one.IsFresh := by
    rintro one member path use ref located
    rw [List.mem_singleton.mp member] at located
    exact read.isFresh path use ref (Document.locatedRefs_subset_extended model located)
  refine ⟨linked, named, definitions, ?_, ?_, fun _ _ _ _ same => same⟩
  · rintro ⟨document, index⟩ decl found
    have first : document = 0 := by
      have inside := document_lt_of_type? found
      simpa using inside
    subst first
    rw [Scope.type?_definitionsAt] at found
    rw [id, TypeDecl.retargeted_id, Scope.type?_definitionsAt, definitions,
      Definitions.types_extended, List.getElem?_append_left (List.getElem?_eq_some_iff.mp found).1,
      found]
  · exact (relocates_linkAll_merged fresh).closed

namespace ExtendedBy

variable {type : Entity} {before after : List Document} (extended : ExtendedBy type before after)
include extended

theorem types :
    (definitionsAt after 0).types = (definitionsAt before 0).types ++ [.entity type] := by
  rw [extended.definitions, Definitions.types_extended]

/-- Where the entity stands. -/
theorem type?_added : (Scope.ofDocuments after).type?
    ⟨0, (definitionsAt before 0).types.length⟩ = some (.entity type) := by
  rw [Scope.type?_definitionsAt, extended.types, List.getElem?_concat_length]

end ExtendedBy

/-! ## Java -/

namespace Java

theorem artifactsFrom_congr {scope other : Scope} {analysis otherAnalysis : Analysis}
    (document : Nat) (root : List String) (index : Nat) (visits : List Visit)
    (same : ∀ place decl, (visits.filterMap (·.element.decl?))[place]? = some decl →
      renderType? other otherAnalysis ⟨document, index + place⟩ decl =
        renderType? scope analysis ⟨document, index + place⟩ decl) :
    artifactsFrom other document otherAnalysis root index visits =
      artifactsFrom scope document analysis root index visits := by
  induction visits generalizing index with
  | nil => rfl
  | cons visit visits ih =>
      obtain ⟨path, element⟩ := visit
      cases element with
      | type decl =>
          have first : renderType? other otherAnalysis ⟨document, index⟩ decl =
              renderType? scope analysis ⟨document, index⟩ decl := same 0 decl rfl
          have rest := ih (index + 1) fun place decl found => by
            rw [Nat.add_assoc, Nat.add_comm 1 place]
            exact same (place + 1) decl found
          simp only [artifactsFrom, artifactOf?, first, Element.decl?, Option.isSome_some,
            if_true, rest]
      | package name pos elements =>
          have rest := ih index same
          simp [artifactsFrom, artifactOf?, Element.decl?, rest]
      | foreign name =>
          have rest := ih index same
          simp [artifactsFrom, artifactOf?, Element.decl?, rest]

end Java

namespace ExtendedBy

variable {type : Entity} {before after : List Document} (extended : ExtendedBy type before after)
include extended

section Class

variable {id : TypeId} {entity : Entity}
  (found : (Scope.ofDocuments before).type? id = some (.entity entity))
include found

theorem aliasesOf_eq {feature : Feature} (member : feature ∈ entity.features) :
    Java.aliasesOf (Scope.ofDocuments after) (analysisAt after 0) feature =
      Java.aliasesOf (Scope.ofDocuments before) (analysisAt before 0) feature := by
  have known := extended.within.knows_feature found member
  rw [Java.aliasesOf_analysisAt, Java.aliasesOf_analysisAt]
  cases target : feature.type.target with
  | none => rfl
  | some union =>
      have declared := known union target
      have same := extended.within.type?_eq declared
      obtain ⟨decl, declared⟩ := Option.isSome_iff_exists.mp declared
      rw [Option.filter_some]
      by_cases here : union.document = 0
      · rw [if_pos (decide_eq_true here), Option.elim_some, Option.elim_some, same, declared,
          Option.elim_some, Option.elim_some, extended.within.primitives_eq declared]
      · rw [if_neg (by simpa using here), Option.elim_none, Option.elim_none]

/-- The class of an entity that was there before does not change. -/
theorem classAt_eq : Java.classAt after 0 id entity = Java.classAt before 0 id entity := by
  have interfaces : (Java.classAt after 0 id entity).interfaces =
      (Java.classAt before 0 id entity).interfaces := by
    rw [Java.interfaces_classAt, Java.interfaces_classAt, extended.types, List.filter_append,
      List.map_append]
    exact List.append_nil _
  have use : ∀ feature ∈ entity.features,
      Java.TypeUse.ofFeature (Scope.ofDocuments after) feature =
        Java.TypeUse.ofFeature (Scope.ofDocuments before) feature := by
    intro feature member
    rw [Java.TypeUse.ofFeature, Java.TypeUse.ofFeature,
      extended.within.typeName_eq _ (extended.within.knows_feature found member)]
  have fields : (Java.classAt after 0 id entity).fields =
      (Java.classAt before 0 id entity).fields := by
    apply List.map_congr_left
    intro feature member
    simp only [Java.fieldUse, extended.aliasesOf_eq found member, use feature member]
  have methods : (Java.classAt after 0 id entity).methods =
      (Java.classAt before 0 id entity).methods := by
    apply List.flatMap_congr
    intro feature member
    simp only [Java.methodSources, extended.aliasesOf_eq found member, use feature member]
  have super := extended.within.superOf?_eq found
  unfold Java.classAt Java.ClassSource.ofEntity at interfaces fields methods ⊢
  rw [super]
  simp only at interfaces fields methods
  rw [interfaces, fields, methods]

end Class

theorem java_renderType?_eq {id : TypeId} {decl : TypeDecl}
    (found : (Scope.ofDocuments before).type? id = some decl) :
    Java.renderType? (Scope.ofDocuments after) (analysisAt after 0) id decl =
      Java.renderType? (Scope.ofDocuments before) (analysisAt before 0) id decl := by
  cases decl with
  | entity entity =>
      have same := congrArg Java.ClassSource.text (extended.classAt_eq found)
      rw [Java.classAt, Java.classAt, Java.text_ofEntity, Java.text_ofEntity] at same
      rw [Java.renderType?, Java.renderType?, same]
  | dataType type => rfl
  | enum type => rfl
  | foreign name => rfl

/-- The Java output has one more file at its end. -/
theorem artifactsAt_java (options : GenerateOptions) :
    artifactsAt .java options after 0 = artifactsAt .java options before 0 ++
      [.file (Text.join "/" (Java.sourceNames (Java.rootPath options) type.name))
        (Java.renderFile (Java.rootPath options)
          (Java.classAt after 0 ⟨0, (definitionsAt before 0).types.length⟩ type).text)] := by
  have front : Java.artifactsFrom (Scope.ofDocuments after) 0 (analysisAt after 0)
      (Java.rootPath options) 0 (definitionsAt before 0).visits =
        Java.artifactsFrom (Scope.ofDocuments before) 0 (analysisAt before 0)
          (Java.rootPath options) 0 (definitionsAt before 0).visits := by
    apply Java.artifactsFrom_congr
    intro place decl found
    apply extended.java_renderType?_eq
    rwa [Nat.zero_add, Scope.type?_definitionsAt, Definitions.types_eq_filterMap]
  have count : (definitionsAt before 0).visits.countP (·.element.decl?.isSome) =
      (definitionsAt before 0).types.length := by
    rw [Definitions.types_eq_filterMap, List.length_filterMap_eq_countP]
  have last : Java.artifactsFrom (Scope.ofDocuments after) 0 (analysisAt after 0)
      (Java.rootPath options) (definitionsAt before 0).types.length
        [⟨[], .type (.entity type)⟩] =
        [.file (Text.join "/" (Java.sourceNames (Java.rootPath options) type.name))
          (Java.renderFile (Java.rootPath options)
            (Java.classAt after 0 ⟨0, (definitionsAt before 0).types.length⟩ type).text)] := by
    rw [Java.classAt, Java.text_ofEntity]
    simp only [Java.artifactsFrom, Java.artifactOf?, Java.renderType?, List.append_nil,
      Option.map_some, Option.toList_some]
    rfl
  rw [DomainGen.artifactsAt_java, DomainGen.artifactsAt_java, Java.generate, Java.generate,
    extended.definitions, Definitions.visits_extended, Java.artifactsFrom_append, front, count,
    Nat.zero_add, last, List.append_assoc]

end ExtendedBy

/-! ## TypeScript -/

namespace TypeScript

/-- The declaration with further names in its discriminant, if it has one. -/
def Item.widened (further : List String) : Item → Item
  | interface source => interface { source with literals := source.literals ++ further }
  | factory name => factory name
  | typeAlias name arms => typeAlias name arms

/-- The items that the module of the first document has for one of its types. -/
def itemsAt (docs : List Document) (indexed : TypeDecl × Nat) : List Item :=
  itemsOf (Scope.ofDocuments docs)
    ((subtypes (Scope.ofDocuments docs) 0 (definitionsAt docs 0)).of ⟨0, indexed.2⟩) indexed.1

theorem artifactsAt_typeScript (options : GenerateOptions) (docs : List Document) :
    artifactsAt .typeScript options docs 0 =
      [.file (moduleName options ++ ".ts") (Text.join "\n"
        (((definitionsAt docs 0).types.zipIdx.flatMap (itemsAt docs)).map Item.text))] := by
  have rendered := renderModule_eq (Scope.ofDocuments docs) 0 (definitionsAt docs 0)
  exact congrArg (fun content => [Artifact.file (moduleName options ++ ".ts") content]) rendered

end TypeScript

open TypeScript

namespace ExtendedBy

variable {type : Entity} {before after : List Document} (extended : ExtendedBy type before after)
include extended

/-- The items of a type that was there before do not change, except that a discriminant
lists the further subtypes. -/
theorem itemsOf_append {id : TypeId} {decl : TypeDecl}
    (found : (Scope.ofDocuments before).type? id = some decl) {subtypes : List TypeId}
    (declared : ∀ sub ∈ subtypes, ((Scope.ofDocuments before).type? sub).isSome)
    (further : List TypeId) :
    itemsOf (Scope.ofDocuments after) (subtypes ++ further) decl =
      (itemsOf (Scope.ofDocuments before) subtypes decl).map (.widened
        (further.filterMap fun sub => ((Scope.ofDocuments after).type? sub).map (·.name))) := by
  cases decl with
  | entity entity =>
      have super := extended.within.superOf?_eq found
      have names : subtypes.filterMap (fun sub =>
          ((Scope.ofDocuments after).type? sub).map (·.name)) =
            subtypes.filterMap fun sub => ((Scope.ofDocuments before).type? sub).map (·.name) := by
        apply List.filterMap_congr
        intro sub member
        rw [extended.within.type?_eq (declared sub member)]
      have properties : entity.features.map (PropertySource.ofFeature (Scope.ofDocuments after)) =
          entity.features.map (PropertySource.ofFeature (Scope.ofDocuments before)) := by
        apply List.map_congr_left
        intro feature member
        rw [PropertySource.ofFeature, PropertySource.ofFeature,
          extended.within.typeName_eq _ (extended.within.knows_feature found member)]
      simp only [itemsOf, InterfaceSource.ofEntity, discriminant, super, properties,
        List.filterMap_append, names, List.map_cons, List.map_nil, Item.widened, List.cons_append]
  | dataType union =>
      have arms : unionArms (Scope.ofDocuments after) union =
          unionArms (Scope.ofDocuments before) union := by
        rw [unionArms, unionArms]
        congr 1
        apply List.map_congr_left
        intro ref member
        apply extended.within.typeName_eq
        exact extended.within.knows found .anyType (List.mem_map_of_mem member)
      rw [itemsOf, itemsOf, arms]
      split
      · rfl
      · rfl
  | enum type => rfl
  | foreign name => rfl

/-- The entity is noted last, for each type on its chain of supertypes. -/
theorem of_subtypes_eq (id : TypeId) :
    let added : TypeId := ⟨0, (definitionsAt before 0).types.length⟩
    (subtypes (Scope.ofDocuments after) 0 (definitionsAt after 0)).of id =
      (subtypes (Scope.ofDocuments before) 0 (definitionsAt before 0)).of id ++
        if id ∈ (Scope.ofDocuments after).ancestorsOf added (.entity type) then [added]
        else [] := by
  intro added
  have declared : ∀ index, (Scope.ofDocuments before).type? ⟨0, index⟩ =
      (definitionsAt before 0).types[index]? :=
    fun index => Scope.type?_definitionsAt before ⟨0, index⟩
  rw [of_subtypes, of_subtypes, extended.types, descending_append_singleton,
    extended.within.descending_eq declared]

theorem itemsAt_eq {indexed : TypeDecl × Nat}
    (member : indexed ∈ (definitionsAt before 0).types.zipIdx) :
    let added : TypeId := ⟨0, (definitionsAt before 0).types.length⟩
    itemsAt after indexed = (itemsAt before indexed).map (.widened
      (if ⟨0, indexed.2⟩ ∈ (Scope.ofDocuments after).ancestorsOf added (.entity type) then
        [type.name] else [])) := by
  intro added
  have found : (Scope.ofDocuments before).type? ⟨0, indexed.2⟩ = some indexed.1 := by
    rw [Scope.type?_definitionsAt]
    exact List.mem_zipIdx_iff_getElem?.mp member
  have declared : ∀ sub ∈ (subtypes (Scope.ofDocuments before) 0 (definitionsAt before 0)).of
      ⟨0, indexed.2⟩, ((Scope.ofDocuments before).type? sub).isSome := by
    intro sub listed
    rw [of_subtypes, mem_descending] at listed
    obtain ⟨first, decl, found, -⟩ := listed
    rw [Scope.type?_definitionsAt, first, found]
    rfl
  rw [itemsAt, extended.of_subtypes_eq, extended.itemsOf_append found declared, itemsAt]
  congr 2
  split
  · rw [List.filterMap_cons, extended.type?_added]
    rfl
  · rfl

/-- The declaration of the entity stands last, and nothing is a subtype of it. -/
theorem itemsAt_added :
    itemsAt after (.entity type, (definitionsAt before 0).types.length) =
      [.interface (.ofEntity (Scope.ofDocuments after) [] type), .factory type.name] := by
  have missing : (Scope.ofDocuments before).type?
      ⟨0, (definitionsAt before 0).types.length⟩ = none := by
    rw [Scope.type?_definitionsAt, List.getElem?_eq_none (Nat.le_refl _)]
  have apart : (⟨0, (definitionsAt before 0).types.length⟩ : TypeId) ∉
      (Scope.ofDocuments after).ancestorsOf ⟨0, (definitionsAt before 0).types.length⟩
        (.entity type) := by
    rw [Scope.mem_ancestorsOf_iff extended.type?_added]
    exact fun reached => reached.2 rfl
  have declared : ∀ index, (Scope.ofDocuments before).type? ⟨0, index⟩ =
      (definitionsAt before 0).types[index]? :=
    fun index => Scope.type?_definitionsAt before ⟨0, index⟩
  rw [itemsAt, extended.of_subtypes_eq, if_neg apart, List.append_nil, of_subtypes,
    descending_eq_nil _ _ declared missing]
  rfl

end ExtendedBy

/-- Adding an entity that no reference of the model names is a local change.  Java output
is the output from before with the file of the entity at its end.  The module is the one
from before with the interface and the factory function of the entity at its end, and the
name of the entity is one more literal, the last one, in the discriminants of its
ancestors: of all types that it reaches along supertypes, except itself. -/
theorem artifacts_extended (doc : Document) (defs : Definitions)
    (model : doc.definitions = some defs) (type : Entity) (read : (doc.extended type).IsRead)
    (apart : ∀ path use ref, (path, use, ref) ∈ doc.locatedRefs → ref.text ≠ type.name)
    (options : GenerateOptions) :
    let before := linkAll [doc]
    let after := linkAll [doc.extended type]
    let types := (definitionsAt before 0).types
    let added : TypeId := ⟨0, types.length⟩
    let module := fun items : List Item =>
      [Artifact.file (moduleName options ++ ".ts") (Text.join "\n" (items.map Item.text))]
    ∃ (linked : Entity) (ancestors : List TypeId), linked.name = type.name ∧
      (definitionsAt after 0).types = types ++ [.entity linked] ∧
      (∀ id, id ∈ ancestors ↔ (Scope.ofDocuments after).Reaches added id ∧ id ≠ added) ∧
      artifactsAt .java options after 0 = artifactsAt .java options before 0 ++
        [.file (Text.join "/" (Java.sourceNames (Java.rootPath options) type.name))
          (Java.renderFile (Java.rootPath options) (Java.classAt after 0 added linked).text)] ∧
      artifactsAt .typeScript options before 0 = module (types.zipIdx.flatMap (itemsAt before)) ∧
      artifactsAt .typeScript options after 0 =
        module ((types.zipIdx.flatMap fun indexed => (itemsAt before indexed).map
            (.widened (if ⟨0, indexed.2⟩ ∈ ancestors then [type.name] else []))) ++
          [.interface (.ofEntity (Scope.ofDocuments after) [] linked), .factory type.name]) := by
  intro before after types added module
  obtain ⟨linked, named, extended⟩ := exists_extendedBy model read apart
  refine ⟨linked, (Scope.ofDocuments after).ancestorsOf added (.entity linked), named,
    extended.types, fun id => Scope.mem_ancestorsOf_iff extended.type?_added, ?_,
    artifactsAt_typeScript options before, ?_⟩
  · rw [← named]
    exact extended.artifactsAt_java options
  · have kept : types.zipIdx.flatMap (itemsAt after) = _ :=
      List.flatMap_congr fun indexed member => extended.itemsAt_eq member
    rw [artifactsAt_typeScript, extended.types, List.zipIdx_append, List.flatMap_append, kept,
      Nat.zero_add, List.zipIdx_singleton, List.flatMap_singleton, extended.itemsAt_added, ← named]

/-- The document without the last element of its model. -/
def Document.withoutLast (doc : Document) : Document :=
  { doc with definitions := doc.definitions.map fun defs =>
      { defs with elements := defs.elements.dropLast } }

theorem Document.extended_withoutLast {doc : Document} {defs : Definitions}
    (model : doc.definitions = some defs) {element : Element} {type : Entity}
    (last : defs.elements.getLast? = some element)
    (declares : element.decl? = some (.entity type)) : doc.withoutLast.extended type = doc := by
  have entity : element = .type (.entity type) := by
    cases element with
    | type decl =>
        cases declares
        rfl
    | package name pos elements => contradiction
    | foreign name => contradiction
  have whole : defs.elements.dropLast ++ [.type (.entity type)] = defs.elements := by
    rw [← entity]
    exact List.dropLast_append_getLast? element last
  obtain ⟨path, definitions, diagnostics⟩ := doc
  cases model
  simp only [extended, withoutLast, Option.map_some, Definitions.extended, whole]

/-- An entity that runs into a cyclic hierarchy, after everything else. -/
def hierarchyDoc : Document :=
  .ofSource "entity A extends p.B\x7b\x7d package p\x7bentity B extends C\x7b\x7d\x7d
    entity C extends p.B\x7b\x7d datatype U = A entity X extends A\x7bu:U x:X\x7d"

theorem artifacts_extended_hierarchyDoc :
    let before := linkAll [hierarchyDoc.withoutLast]
    let after := linkAll [hierarchyDoc]
    ∃ (linked : Entity) (ancestors : List TypeId), linked.name = "X" ∧
      (∀ id, id ∈ ancestors ↔ id ∈ [⟨0, 0⟩, ⟨0, 1⟩, ⟨0, 2⟩]) ∧
      artifactsAt .java {} after 0 = artifactsAt .java {} before 0 ++
        [.file "X.java" (Java.renderFile [] (Java.classAt after 0 ⟨0, 4⟩ linked).text)] ∧
      artifactsAt .typeScript {} after 0 = [.file "definitions.ts" (Text.join "\n"
        ((((definitionsAt before 0).types.zipIdx.flatMap fun indexed =>
          (itemsAt before indexed).map
            (Item.widened (if ⟨0, indexed.2⟩ ∈ ancestors then ["X"] else []))) ++
          [Item.interface (.ofEntity (Scope.ofDocuments after) [] linked),
            Item.factory "X"]).map Item.text))] := by
  intro before after
  obtain ⟨computed, apart, count, chain⟩ :
      (hierarchyDoc.definitions.any fun defs =>
        defs.elements.getLast?.any fun element => element.decl?.any fun decl =>
          decl.entity?.any fun type => type.name = "X") ∧
      (∀ located ∈ hierarchyDoc.withoutLast.locatedRefs, located.2.2.text ≠ "X") ∧
      (definitionsAt (linkAll [hierarchyDoc.withoutLast]) 0).types.length = 4 ∧
      ((Scope.ofDocuments (linkAll [hierarchyDoc])).type? ⟨0, 4⟩).any fun decl =>
        (Scope.ofDocuments (linkAll [hierarchyDoc])).ancestorsOf ⟨0, 4⟩ decl =
          [⟨0, 0⟩, ⟨0, 1⟩, ⟨0, 2⟩] := by
    decide +kernel
  have root : Java.rootPath {} = [] := by decide +kernel
  have path : Text.join "/" (Java.sourceNames [] "X") = "X.java" := by decide +kernel
  have module : moduleName {} = "definitions" := by decide +kernel
  simp only [Option.any_eq_true, decide_eq_true_eq] at computed chain
  obtain ⟨defs, model, element, last, decl, declares, type, entity, name⟩ := computed
  rw [TypeDecl.entity?_eq_some_iff] at entity
  subst entity
  have whole := Document.extended_withoutLast model last declares
  obtain ⟨linked, ancestors, named, types, reached, java, -, typeScript⟩ :=
    artifacts_extended hierarchyDoc.withoutLast { defs with elements := defs.elements.dropLast }
      (by rw [Document.withoutLast, model, Option.map_some]) type
      (by rw [whole]; exact Document.isRead_ofSource _)
      (by rw [name]; exact fun path use ref member => apart _ member) {}
  rw [whole] at types reached java typeScript
  rw [count] at reached java
  rw [name, root, path] at java
  rw [module, name] at typeScript
  obtain ⟨decl, found, chain⟩ := chain
  have declared : (Scope.ofDocuments after).type? ⟨0, 4⟩ = some (.entity linked) := by
    rw [Scope.type?_definitionsAt, types, ← count, List.getElem?_concat_length]
  rw [declared, Option.some.injEq] at found
  subst found
  refine ⟨linked, ancestors, named.trans name, ?_, java, typeScript⟩
  intro id
  rw [reached, ← chain, Scope.mem_ancestorsOf_iff declared]

end DomainGen
