import DomainGen.Analysis
import Mathlib.Data.List.Nodup
import Mathlib.Logic.Relation

/-!
# Chains of supertypes

An entity has at most one supertype, so that the supertypes of an entity form a
single chain.  The chain ends, or it comes back to an entity it has met; from
there on it meets nothing new.  The ancestors that are collected along the chain
are therefore all entities that it reaches, except its start
(`mem_ancestors_iff`), and the subtypes of an entity are the entities of the
model that reach it (`mem_subtypes_iff`).
-/

namespace DomainGen

namespace Scope

variable {scope : Scope}

/-- The entity at one position has the type at another as its supertype. -/
def Extends (scope : Scope) (sub super : TypeId) : Prop :=
  ∃ entity found, scope.type? sub = some (.entity entity) ∧
    scope.superOf? entity = some (super, found)

/-- One position is reached from another along supertypes, in one step or more. -/
abbrev Reaches (scope : Scope) : TypeId → TypeId → Prop := Relation.TransGen scope.Extends

theorem type?_of_superOf? {entity super : Entity} {id : TypeId}
    (found : scope.superOf? entity = some (id, super)) :
    scope.type? id = some (.entity super) := by
  simp only [superOf?, Option.bind_eq_bind, Option.bind_eq_some_iff, Option.pure_def,
    Option.some.injEq, Prod.mk.injEq] at found
  rcases found with ⟨_, -, _, ⟨decl, declared, isEntity⟩, rfl, rfl⟩
  rw [declared, TypeDecl.entity?_eq_some_iff.mp isEntity]

/-- An entity has at most one supertype. -/
theorem Extends.eq_of_superOf? {entity super : Entity} {sub id other : TypeId}
    (declared : scope.type? sub = some (.entity entity))
    (found : scope.superOf? entity = some (id, super)) (step : scope.Extends sub other) :
    other = id := by
  rcases step with ⟨_, _, declared', found'⟩
  rw [declared] at declared'
  cases declared'
  rw [found] at found'
  cases found'
  rfl

theorem not_extends_of_superOf? {entity : Entity} {sub other : TypeId}
    (declared : scope.type? sub = some (.entity entity))
    (missing : scope.superOf? entity = none) : ¬ scope.Extends sub other := by
  rintro ⟨_, _, declared', found⟩
  rw [declared] at declared'
  cases declared'
  rw [missing] at found
  contradiction

/-! ## Positions -/

theorem mem_ids {id : TypeId} : id ∈ scope.ids ↔ (scope.type? id).isSome := by
  rcases id with ⟨document, index⟩
  simp only [ids, type?, List.mem_flatMap, List.mem_map, List.mem_range, TypeId.mk.injEq]
  constructor
  · rintro ⟨⟨types, place⟩, listed, number, inside, rfl, rfl⟩
    rw [List.mem_zipIdx_iff_getElem?, Array.getElem?_toList] at listed
    simp [listed, inside]
  · intro declared
    cases found : scope.types[document]? with
    | none => simp [found] at declared
    | some types =>
        refine ⟨(types, document), ?_, index, ?_, rfl, rfl⟩
        · rwa [List.mem_zipIdx_iff_getElem?, Array.getElem?_toList]
        · simpa [found] using declared

theorem nodup_ids : scope.ids.Nodup := by
  rw [ids, List.nodup_flatMap]
  constructor
  · rintro ⟨types, document⟩ -
    refine List.nodup_range.map ?_
    intro one other same
    exact (TypeId.mk.inj same).2
  · apply List.Pairwise.imp_of_mem (R := fun one other => one.2 ≠ other.2)
    · rintro ⟨types, document⟩ ⟨others, place⟩ - - apart
      simp only [Function.onFun, List.disjoint_left, List.mem_map]
      rintro _ ⟨index, -, rfl⟩ ⟨_, -, same⟩
      exact apart (TypeId.mk.inj same).1.symm
    · rw [← List.pairwise_map (f := Prod.snd) (R := (· ≠ ·)), List.zipIdx_map_snd]
      exact List.nodup_range'

/-! ## Ancestors -/

/-- What is collected along the chain is reached, and was not met before. -/
theorem reaches_of_mem_ancestors {unseen : List TypeId} {entity : Entity} {start id : TypeId}
    (declared : scope.type? start = some (.entity entity))
    (collected : id ∈ scope.ancestors unseen entity) : scope.Reaches start id ∧ id ∈ unseen := by
  fun_induction scope.ancestors unseen entity generalizing start with
  | case1 unseen entity missing => contradiction
  | case3 unseen entity next super found met => contradiction
  | case2 unseen entity next super found fresh ih =>
      have step : scope.Extends start next := ⟨entity, super, declared, found⟩
      rw [List.mem_cons] at collected
      rcases collected with rfl | collected
      · exact ⟨.single step, fresh⟩
      · rcases ih (type?_of_superOf? found) collected with ⟨reached, inside⟩
        exact ⟨.head step reached, List.mem_of_mem_erase inside⟩

/-- Nothing that the chain can still reach is missed.  The entities met before the
current one lead to entities that were met, so only the current one can lead on. -/
theorem mem_ancestors_of_reaches {unseen : List TypeId} (distinct : unseen.Nodup)
    {entity : Entity} {start : TypeId} (declared : scope.type? start = some (.entity entity))
    (met : start ∉ unseen)
    (closed : ∀ sub super, sub ∉ unseen → sub ≠ start → scope.Extends sub super →
      super ∉ unseen)
    {id : TypeId} (reached : Relation.ReflTransGen scope.Extends start id) (fresh : id ∈ unseen) :
    id ∈ scope.ancestors unseen entity := by
  fun_induction scope.ancestors unseen entity generalizing start with
  | case1 unseen entity missing =>
      rcases reached.cases_head with rfl | ⟨next, step, -⟩
      · contradiction
      · exact absurd step (not_extends_of_superOf? declared missing)
  | case2 unseen entity next super found unmet ih =>
      rw [List.mem_cons]
      by_cases same : id = next
      · exact .inl same
      right
      have removed : next ∉ unseen.erase next := distinct.not_mem_erase
      refine ih (distinct.erase next) (type?_of_superOf? found) removed ?_ ?_
        ((List.mem_erase_of_ne same).mpr fresh)
      · intro sub above earlier apart step
        rw [List.mem_erase_of_ne apart] at earlier
        by_cases current : sub = start
        · subst current
          rwa [Extends.eq_of_superOf? declared found step]
        · exact fun inside => closed sub above earlier current step (List.mem_of_mem_erase inside)
      · rcases reached.cases_head with rfl | ⟨other, step, rest⟩
        · contradiction
        · rwa [← Extends.eq_of_superOf? declared found step]
  | case3 unseen entity next super found seen =>
      -- The chain has come back: all it can reach from here was met.
      have outside : ∀ reachedId, Relation.ReflTransGen scope.Extends start reachedId →
          reachedId ∉ unseen := by
        intro reachedId path
        induction path with
        | refl => exact met
        | @tail middle last _ step earlier =>
            by_cases current : middle = start
            · subst current
              rwa [Extends.eq_of_superOf? declared found step]
            · exact closed middle last earlier current step
      exact absurd fresh (outside id reached)

/-- The ancestors of an entity are what it reaches, except the entity itself. -/
theorem mem_ancestors_iff {entity : Entity} {origin id : TypeId}
    (declared : scope.type? origin = some (.entity entity)) :
    id ∈ scope.ancestors (scope.ids.erase origin) entity ↔
      scope.Reaches origin id ∧ id ≠ origin := by
  constructor
  · intro collected
    rcases reaches_of_mem_ancestors declared collected with ⟨reached, inside⟩
    exact ⟨reached, (nodup_ids.mem_erase_iff.mp inside).1⟩
  · rintro ⟨reached, apart⟩
    refine mem_ancestors_of_reaches (nodup_ids.erase origin) declared nodup_ids.not_mem_erase
      ?_ reached.to_reflTransGen ?_
    · rintro sub super outside apart ⟨_, _, found, -⟩
      rw [List.mem_erase_of_ne apart, mem_ids, found] at outside
      contradiction
    · rcases Relation.TransGen.tail'_iff.mp reached with ⟨_, -, _, super, -, found⟩
      rw [List.mem_erase_of_ne apart, mem_ids, type?_of_superOf? found]
      rfl

end Scope

/-! ## Subtypes -/

namespace Relation

variable {relation : Relation} {origin key value : TypeId}

theorem mem_of_add {other : TypeId} :
    value ∈ (relation.add key origin).of other ↔
      value ∈ relation.of other ∨ (value = origin ∧ other = key) := by
  rw [of_add]
  by_cases same : key = other
  · subst same
    rw [if_pos rfl]
    split
    · next present =>
      constructor
      · exact .inl
      · rintro (listed | ⟨rfl, -⟩)
        · exact listed
        · exact present
    · simp
  · simp [same, Ne.symm same]

theorem mem_of_foldl_add {keys : List TypeId} :
    value ∈ (keys.foldl (fun relation key => relation.add key origin) relation).of key ↔
      value ∈ relation.of key ∨ (value = origin ∧ key ∈ keys) := by
  induction keys generalizing relation with
  | nil => simp
  | cons first keys ih =>
      rw [List.foldl_cons, ih, mem_of_add, or_assoc, ← and_or_left, List.mem_cons]

end Relation

variable {scope : Scope} {document : Nat}

theorem mem_foldl_addSubtype {indexed : List (TypeDecl × Nat)} {relation : Relation}
    {key value : TypeId} :
    value ∈ (indexed.foldl (addSubtype scope document) relation).of key ↔
      value ∈ relation.of key ∨
        ∃ entity index, (.entity entity, index) ∈ indexed ∧ value = ⟨document, index⟩ ∧
          key ∈ scope.ancestors (scope.ids.erase value) entity := by
  induction indexed generalizing relation with
  | nil => simp
  | cons first indexed ih =>
      rw [List.foldl_cons, ih]
      rcases first with ⟨decl, index⟩
      cases decl with
      | entity entity =>
          simp only [addSubtype]
          rw [Relation.mem_of_foldl_add, or_assoc]
          refine or_congr_right ?_
          constructor
          · rintro (⟨rfl, collected⟩ | ⟨other, place, listed, placed, collected⟩)
            · exact ⟨entity, index, List.mem_cons_self, rfl, collected⟩
            · exact ⟨other, place, List.mem_cons_of_mem _ listed, placed, collected⟩
          · rintro ⟨other, place, listed, rfl, collected⟩
            rcases List.mem_cons.mp listed with same | listed
            · cases same
              exact .inl ⟨rfl, collected⟩
            · exact .inr ⟨other, place, listed, rfl, collected⟩
      | dataType type => simp [addSubtype]
      | enum type => simp [addSubtype]
      | foreign name => simp [addSubtype]

/-- The subtypes of a type are the entities of the model that reach it, except the type
itself. -/
theorem mem_subtypes_iff {defs : Definitions}
    (declared : ∀ index, scope.type? ⟨document, index⟩ = defs.types[index]?)
    {key value : TypeId} :
    value ∈ (subtypes scope document defs).of key ↔
      value.document = document ∧ scope.Reaches value key ∧ key ≠ value := by
  rw [subtypes, mem_foldl_addSubtype]
  constructor
  · rintro (listed | ⟨entity, index, listed, rfl, collected⟩)
    · contradiction
    · rw [List.mem_zipIdx_iff_getElem?, ← declared] at listed
      exact ⟨rfl, (Scope.mem_ancestors_iff listed).mp collected⟩
  · rintro ⟨rfl, reached, apart⟩
    rcases Relation.TransGen.head'_iff.mp reached with ⟨_, ⟨entity, _, found, -⟩, -⟩
    refine .inr ⟨entity, value.index, ?_, rfl, (Scope.mem_ancestors_iff found).mpr ⟨reached, apart⟩⟩
    rw [List.mem_zipIdx_iff_getElem?, ← declared]
    exact found

end DomainGen
