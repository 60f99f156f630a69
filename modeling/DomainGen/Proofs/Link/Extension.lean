import DomainGen.Proofs.Link.Merging

/-!
# One more entity

An entity that is added at the end of a model, outside of any package, is found under its
own name only.  No reference inside a package is looked up under that name, unless it is
written so, since a name in a package has a dot.  References that are not written so
therefore mean what they meant before, and linking the extended model gives the linked
model, extended by one entity (`Document.exists_extended_mapRefs`).
-/

namespace DomainGen

/-- The model with an entity after everything else, outside of any package. -/
def Definitions.extended (defs : Definitions) (type : Entity) : Definitions :=
  { defs with elements := defs.elements ++ [.type (.entity type)] }

/-- The document with an entity at the end of its model. -/
def Document.extended (doc : Document) (type : Entity) : Document :=
  { doc with definitions := doc.definitions.map (·.extended type) }

namespace Definitions

variable (defs : Definitions) (type : Entity)

theorem visits_extended :
    (defs.extended type).visits = defs.visits ++ [⟨[], .type (.entity type)⟩] := by
  rw [visits, extended, visitsIn_eq_flatMap, List.flatMap_append, ← visitsIn_eq_flatMap]
  rfl

theorem locatedTypes_extended :
    (defs.extended type).locatedTypes = defs.locatedTypes ++ [([], .entity type)] := by
  rw [locatedTypes, visits_extended, List.filterMap_append]
  rfl

theorem types_extended : (defs.extended type).types = defs.types ++ [.entity type] := by
  rw [types, locatedTypes_extended, List.map_append]
  rfl

/-- A change of references changes the entity by itself. -/
theorem exists_extended_mapRefs (change : List String → RefUse → Ref → Ref) :
    ∃ changed : Entity, changed.name = type.name ∧
      (defs.extended type).mapRefs change = (defs.mapRefs change).extended changed := by
  refine ⟨⟨type.name, type.super.map (change [] .supertype), type.features.map fun feature =>
    { feature with type := change [] .anyType feature.type }, type.pos⟩, rfl, ?_⟩
  rw [mapRefs, extended, mapRefsIn_append]
  rfl

end Definitions

/-- A name without a dot is not the qualified name of anything in a package. -/
theorem qualify_ne {path : List String} {text name : String} (free : Text.DotFree name)
    (apart : text ≠ name) : qualify path text ≠ name := by
  intro same
  rw [qualify] at same
  split at same
  · exact apart same
  · apply free
    rw [← same, String.toList_append, String.toList_append]
    simp

namespace Document

variable {doc : Document} {defs : Definitions} (model : doc.definitions = some defs)
  {type : Entity}
include model

theorem definitions_extended : (doc.extended type).definitions = some (defs.extended type) := by
  rw [extended, model, Option.map_some]

theorem locatedTypes_extended :
    (doc.extended type).locatedTypes = doc.locatedTypes ++ [([], .entity type)] := by
  rw [locatedTypes, definitions_extended model, locatedTypes, model]
  exact defs.locatedTypes_extended type

theorem locatedRefs_subset_extended : doc.locatedRefs ⊆ (doc.extended type).locatedRefs := by
  rw [locatedRefs, locatedRefs, locatedTypes_extended model, List.flatMap_append]
  exact List.subset_append_left _ _

/-- The entity of an extended document that was read has a name without a dot. -/
theorem IsRead.dotFree_extended (read : (doc.extended type).IsRead) : Text.DotFree type.name := by
  have named := read.wellNamed (definitions_extended model)
  refine (named.name [] (.entity type) ?_).dotFree
  rw [Definitions.locatedTypes_extended]
  exact List.mem_append_right _ (List.mem_singleton_self _)

/-- The index of the extended document has nothing new under other names. -/
theorem find?_extended {name : String} (apart : name ≠ type.name) :
    (declareGroup [0] [doc.extended type]).1.find? name =
      (declareGroup [0] [doc]).1.find? name := by
  have added : DomainGen.declarations [0] [doc.extended type] =
      DomainGen.declarations [0] [doc] ++
        [⟨[], .entity type, ⟨0, doc.locatedTypes.length⟩⟩] := by
    simp [DomainGen.declarations, declarations, locatedTypes_extended model, List.zipIdx_append,
      Declaration.ofLocated]
  have other : firstEntry [⟨[], .entity type, ⟨0, doc.locatedTypes.length⟩⟩] name = none := by
    have key : (Declaration.mk [] (.entity type) ⟨0, doc.locatedTypes.length⟩).key = type.name :=
      rfl
    simp [firstEntry, key, Ne.symm apart]
  rw [find?_declareGroup, find?_declareGroup, added, firstEntry_append, other, Option.or_none]

/-- A reference with another text means what it meant before. -/
theorem resolve_extended (free : Text.DotFree type.name) (path : List String) (use : RefUse)
    {ref : Ref} (apart : ref.text ≠ type.name) :
    (declareGroup [0] [doc.extended type]).1.resolve path use ref =
      (declareGroup [0] [doc]).1.resolve path use ref := by
  have found : ∀ scope, (declareGroup [0] [doc.extended type]).1.find? (qualify scope ref.text) =
      (declareGroup [0] [doc]).1.find? (qualify scope ref.text) :=
    fun scope => find?_extended model (qualify_ne free apart)
  simp only [Index.resolve, Index.lookup, found]

/-- Resolving the references of an extended model gives the resolved model with one more
entity. -/
theorem exists_extended_mapRefs (free : Text.DotFree type.name)
    (apart : ∀ path use ref, (path, use, ref) ∈ doc.locatedRefs → ref.text ≠ type.name) :
    ∃ linked : Entity, linked.name = type.name ∧
      (defs.extended type).mapRefs (declareGroup [0] [doc.extended type]).1.resolve =
        (defs.mapRefs (declareGroup [0] [doc]).1.resolve).extended linked := by
  obtain ⟨linked, named, mapped⟩ := defs.exists_extended_mapRefs type
    (declareGroup [0] [doc.extended type]).1.resolve
  have same : defs.mapRefs (declareGroup [0] [doc.extended type]).1.resolve =
      defs.mapRefs (declareGroup [0] [doc]).1.resolve := by
    rw [Definitions.mapRefs, Definitions.mapRefs]
    congr 1
    apply mapRefsIn_congr
    intro path decl located use ref member
    apply resolve_extended model free
    apply apart path use
    rw [locatedRefs, locatedTypes, model, List.mem_flatMap]
    exact ⟨(path, decl), located, List.mem_map_of_mem member⟩
  exact ⟨linked, named, mapped.trans (congrArg (·.extended linked) same)⟩

end Document

end DomainGen
