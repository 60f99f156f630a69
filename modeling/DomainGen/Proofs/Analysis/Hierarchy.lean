import DomainGen.Proofs.Analysis.Entries
import DomainGen.Proofs.Analysis.Subtypes
import DomainGen.Proofs.Generate.Discriminants

/-!
# Hierarchies with cycles

Nothing keeps a model from being cyclic, and a hierarchy can run into a cycle without
being on it, or pass through other documents.  The way up from an entity is a loop that
notes what it has met and stops before it meets an entity again.  From every entity the
loop comes to its end, and it meets the ancestors of the entity (`climbs_iff`).

The subtypes of a type are therefore found by reachability alone (`of_subtypes_eq`).
Whether one type is reached from another can be decided.
-/

namespace DomainGen

namespace Scope

variable {scope : Scope}

/-! ## The way up -/

/-- The way up from an entity, after some entities that it has met: it goes on with the
supertype until there is none, or the supertype was met before.  The last argument are the
entities that it goes on with. -/
inductive Climbs (scope : Scope) : List TypeId → Entity → List TypeId → Prop
  | top {met entity} (missing : scope.superOf? entity = none) : Climbs scope met entity []
  | again {met entity id super} (found : scope.superOf? entity = some (id, super))
      (before : id ∈ met) : Climbs scope met entity []
  | up {met entity id super chain} (found : scope.superOf? entity = some (id, super))
      (fresh : id ∉ met) (rest : Climbs scope (id :: met) super chain) :
      Climbs scope met entity (id :: chain)

/-- There is one way up at most. -/
theorem Climbs.unique {met : List TypeId} {entity : Entity} {chain other : List TypeId}
    (climbs : scope.Climbs met entity chain) (climbs' : scope.Climbs met entity other) :
    chain = other := by
  induction climbs generalizing other with
  | top missing =>
      cases climbs' with
      | top => rfl
      | again found => cases missing.symm.trans found
      | up found => cases missing.symm.trans found
  | again found before =>
      cases climbs' with
      | top => rfl
      | again => rfl
      | up found' fresh =>
          cases found.symm.trans found'
          contradiction
  | up found fresh rest ih =>
      cases climbs' with
      | top missing => cases missing.symm.trans found
      | again found' before =>
          cases found.symm.trans found'
          contradiction
      | up found' _ rest' =>
          cases found.symm.trans found'
          rw [ih rest']

theorem mem_ids_of_superOf? {entity super : Entity} {id : TypeId}
    (found : scope.superOf? entity = some (id, super)) : id ∈ scope.ids := by
  rw [mem_ids, type?_of_superOf? found]
  rfl

/-- The collected ancestors are a way up: the types that are not yet seen are those that
were not met. -/
theorem climbs_ancestors {met unseen : List TypeId} (distinct : unseen.Nodup)
    (others : ∀ id ∈ scope.ids, id ∈ unseen ↔ id ∉ met) (entity : Entity) :
    scope.Climbs met entity (scope.ancestors unseen entity) := by
  fun_induction scope.ancestors unseen entity generalizing met with
  | case1 unseen entity missing => exact .top missing
  | case2 unseen entity next super found fresh ih =>
      apply Climbs.up found ((others next (mem_ids_of_superOf? found)).mp fresh)
      -- What is met now leaves the types that are not yet seen.
      apply ih (distinct.erase next)
      intro id known
      rw [distinct.mem_erase_iff, others id known, List.mem_cons, not_or]
  | case3 unseen entity next super found seen =>
      apply Climbs.again found
      by_contra fresh
      exact seen ((others next (mem_ids_of_superOf? found)).mpr fresh)

/-- The way up from an entity that starts with this entity. -/
theorem climbs_iff {origin : TypeId} {entity : Entity} {chain : List TypeId} :
    scope.Climbs [origin] entity chain ↔
      chain = scope.ancestors (scope.ids.erase origin) entity := by
  have climbs : scope.Climbs [origin] entity (scope.ancestors (scope.ids.erase origin) entity) := by
    apply climbs_ancestors (nodup_ids.erase origin)
    intro id known
    rw [nodup_ids.mem_erase_iff, List.mem_singleton]
    exact and_iff_left known
  constructor
  · intro climbed
    exact climbed.unique climbs
  · intro same
    rwa [same]

theorem length_ancestors_le (unseen : List TypeId) (entity : Entity) :
    (scope.ancestors unseen entity).length ≤ unseen.length := by
  fun_induction scope.ancestors unseen entity with
  | case1 unseen entity missing => exact Nat.zero_le _
  | case2 unseen entity next super found fresh ih =>
      rw [List.length_erase_of_mem fresh] at ih
      have inside := List.length_pos_of_mem fresh
      rw [List.length_cons]
      omega
  | case3 unseen entity next super found seen => exact Nat.zero_le _

/-! ## Reachability -/

/-- What an entity reaches, it reaches through its supertype. -/
theorem reaches_iff {sub super : TypeId} :
    scope.Reaches sub super ↔
      ∃ entity ∈ (scope.type? sub).bind (·.entity?), ∃ above ∈ scope.superOf? entity,
        super = above.1 ∨ super ∈ scope.ancestors (scope.ids.erase above.1) above.2 := by
  simp only [Option.mem_def, Option.bind_eq_some_iff, TypeDecl.entity?_eq_some_iff]
  constructor
  · intro reached
    obtain ⟨next, ⟨entity, parent, declared, found⟩, rest⟩ :=
      Relation.TransGen.head'_iff.mp reached
    refine ⟨entity, ⟨_, declared, rfl⟩, (next, parent), found, ?_⟩
    by_cases same : super = next
    · exact .inl same
    · rcases Relation.reflTransGen_iff_eq_or_transGen.mp rest with arrived | reached
      · exact .inl arrived
      · exact .inr ((mem_ancestors_iff (type?_of_superOf? found)).mpr ⟨reached, same⟩)
  · rintro ⟨entity, ⟨_, declared, rfl⟩, ⟨next, parent⟩, found, way⟩
    have step : scope.Extends sub next := ⟨entity, parent, declared, found⟩
    rcases way with arrived | collected
    · exact arrived ▸ .single step
    · exact .head step ((mem_ancestors_iff (type?_of_superOf? found)).mp collected).1

instance (sub super : TypeId) : Decidable (scope.Reaches sub super) :=
  decidable_of_iff _ reaches_iff.symm

end Scope

/-! ## The subtypes of a model -/

/-- The positions of the entities of a model. -/
def Definitions.entityIds (document : Nat) (defs : Definitions) : List TypeId :=
  defs.positions document (·.entity?.isSome)

/-- The subtypes of a type are the entities of the model that reach it, in model order. -/
theorem of_subtypes_eq {scope : Scope} {document : Nat} {defs : Definitions}
    (declared : ∀ index, scope.type? ⟨document, index⟩ = defs.types[index]?) (id : TypeId) :
    (subtypes scope document defs).of id =
      (defs.entityIds document).filter fun origin => origin ≠ id ∧ scope.Reaches origin id := by
  rw [of_subtypes, descending, Definitions.entityIds, Definitions.filter_positions]
  congr 1
  apply List.filter_congr
  rintro ⟨decl, index⟩ listed
  rw [List.mem_zipIdx_iff_getElem?, ← declared] at listed
  rw [Bool.eq_iff_iff, Bool.and_eq_true, decide_eq_true_eq, decide_eq_true_eq,
    Scope.mem_ancestorsOf_iff listed]
  constructor
  · rintro ⟨reached, apart⟩
    refine ⟨⟨Ne.symm apart, reached⟩, ?_⟩
    obtain ⟨_, ⟨entity, _, found, -⟩, -⟩ := Relation.TransGen.head'_iff.mp reached
    cases listed.symm.trans found
    rfl
  · rintro ⟨⟨apart, reached⟩, -⟩
    exact ⟨reached, Ne.symm apart⟩

/-- The subtypes of a model, whatever cycles its hierarchy has.  The way up from each of
its entities comes to an end, after at most as many steps as there are types.  The subtypes
of a type are the entities of the model, other than the type itself, that reach it along
supertypes, in model order and without repetition.  Exactly the types with subtypes have an
entry, and each has one. -/
theorem subtypes_spec (docs : List Document) (position : Nat) (doc : Document)
    (defs : Definitions) (found : docs[position]? = some doc)
    (model : doc.definitions = some defs) :
    let scope := Scope.ofDocuments docs
    let relation := subtypes scope position defs
    (∀ index entity, defs.types[index]? = some (.entity entity) →
      ∃ chain, (∀ other, scope.Climbs [⟨position, index⟩] entity other ↔ other = chain) ∧
        chain.length < scope.ids.length ∧
        ∀ id, id ∈ chain ↔ id ≠ ⟨position, index⟩ ∧ scope.Reaches ⟨position, index⟩ id) ∧
      (∀ id, relation.of id =
        (defs.entityIds position).filter fun origin => origin ≠ id ∧ scope.Reaches origin id) ∧
      (∀ id, (relation.of id).Nodup) ∧
      (∀ id, id ∈ relation.keys ↔ relation.of id ≠ []) ∧ relation.keys.Nodup := by
  intro scope relation
  have declared := Scope.type?_ofDocuments found model
  have map : relation.IsMap := isMap_subtypes scope position defs
  have reaching := of_subtypes_eq declared
  refine ⟨?_, reaching, ?_, map.mem_keys_iff, map.distinct⟩
  · intro index entity listed
    have type : scope.type? ⟨position, index⟩ = some (.entity entity) :=
      (declared index).trans listed
    refine ⟨scope.ancestors (scope.ids.erase ⟨position, index⟩) entity, ?_, ?_, ?_⟩
    · intro other
      exact Scope.climbs_iff
    · have known : (⟨position, index⟩ : TypeId) ∈ scope.ids := by
        rw [Scope.mem_ids, type]
        rfl
      have bound : (scope.ancestors (scope.ids.erase ⟨position, index⟩) entity).length ≤
          (scope.ids.erase ⟨position, index⟩).length := Scope.length_ancestors_le _ entity
      rw [List.length_erase_of_mem known] at bound
      have inside := List.length_pos_of_mem known
      omega
    · intro id
      rw [Scope.mem_ancestors_iff type]
      exact and_comm
  · intro id
    rw [reaching id]
    exact (defs.nodup_positions position _).filter _

/-- A cycle that passes through another document, and an entity that runs into it. -/
theorem subtypes_spec_cyclicDocs :
    ∃ doc defs, (link [0, 1] TypeScript.cyclicDocs)[0]? = some doc ∧
      doc.definitions = some defs ∧
      let scope := Scope.ofDocuments (link [0, 1] TypeScript.cyclicDocs)
      let relation := subtypes scope 0 defs
      relation.keys = [⟨0, 1⟩, ⟨1, 0⟩, ⟨0, 0⟩] ∧ relation.of ⟨0, 2⟩ = [] ∧
      relation.of ⟨0, 0⟩ = [⟨0, 1⟩, ⟨0, 2⟩] ∧
      relation.of ⟨1, 0⟩ = [⟨0, 0⟩, ⟨0, 1⟩, ⟨0, 2⟩] ∧
      ∀ id, relation.of id =
        (defs.entityIds 0).filter fun origin => origin ≠ id ∧ scope.Reaches origin id := by
  have computed : ((link [0, 1] TypeScript.cyclicDocs)[0]?).any fun doc =>
      doc.definitions.any fun defs =>
        let relation := subtypes (Scope.ofDocuments (link [0, 1] TypeScript.cyclicDocs)) 0 defs
        relation.keys = [⟨0, 1⟩, ⟨1, 0⟩, ⟨0, 0⟩] && relation.of ⟨0, 2⟩ = [] &&
          relation.of ⟨0, 0⟩ = [⟨0, 1⟩, ⟨0, 2⟩] &&
          relation.of ⟨1, 0⟩ = [⟨0, 0⟩, ⟨0, 1⟩, ⟨0, 2⟩] := by
    decide +kernel
  simp only [Option.any_eq_true, Bool.and_eq_true, decide_eq_true_eq] at computed
  obtain ⟨doc, found, defs, model, ⟨⟨keys, none⟩, first⟩, second⟩ := computed
  exact ⟨doc, defs, found, model, keys, none, first, second,
    (subtypes_spec _ 0 doc defs found model).2.1⟩

end DomainGen
