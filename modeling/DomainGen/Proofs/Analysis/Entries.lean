import DomainGen.Proofs.Analysis.Unions
import Mathlib.Data.List.Nodup

/-!
# Entries and positions

A relation is built by adding one pair after another.  Each type has one entry in it at
most, and an entry has at least one type in its list, so that a type has an entry exactly
when something is listed for it (`mem_keys_iff`).

What is listed are positions of declarations.  Those of one kind are a part of the
declarations of the model, in model order and without repetition (`nodup_positions`).
-/

namespace DomainGen

namespace Relation

/-- The types that have an entry. -/
def keys (relation : Relation) : List TypeId := relation.map (·.1)

/-- No type has two entries, and no entry is empty. -/
structure IsMap (relation : Relation) : Prop where
  distinct : relation.keys.Nodup
  filled : ∀ entry ∈ relation, entry.2 ≠ []

theorem keys_add (key value : TypeId) (relation : Relation) :
    (relation.add key value).keys = insertNew relation.keys key := by
  induction relation with
  | nil => rfl
  | cons entry rest ih =>
      obtain ⟨first, values⟩ := entry
      by_cases found : first = key
      · subst found
        simp [add, keys, insertNew]
      · have later : (add key value rest).map (·.1) = insertNew (rest.map (·.1)) key := ih
        simp only [add, if_neg found, keys, List.map_cons, later, insertNew, List.mem_cons,
          Ne.symm found, false_or]
        split
        · rfl
        · rfl

theorem filled_add {relation : Relation} (filled : ∀ entry ∈ relation, entry.2 ≠ [])
    (key value : TypeId) : ∀ entry ∈ relation.add key value, entry.2 ≠ [] := by
  induction relation with
  | nil => simp [add]
  | cons entry rest ih =>
      obtain ⟨first, values⟩ := entry
      rw [List.forall_mem_cons] at filled
      by_cases found : first = key
      · rw [add, if_pos found, List.forall_mem_cons]
        constructor
        · split
          · exact filled.1
          · exact List.append_ne_nil_of_right_ne_nil _ (List.cons_ne_nil value [])
        · exact filled.2
      · rw [add, if_neg found, List.forall_mem_cons]
        exact ⟨filled.1, ih filled.2⟩

namespace IsMap

theorem nil : IsMap [] := ⟨List.nodup_nil, fun _ none => absurd none List.not_mem_nil⟩

theorem add {relation : Relation} (map : relation.IsMap) (key value : TypeId) :
    (relation.add key value).IsMap := by
  constructor
  · rw [keys_add, insertNew]
    split
    · exact map.distinct
    · next fresh =>
      exact List.Nodup.append map.distinct (List.nodup_singleton key)
        (List.disjoint_singleton.mpr fresh)
  · exact filled_add map.filled key value

/-- A type has an entry when something is listed for it. -/
theorem mem_keys_iff {relation : Relation} (map : relation.IsMap) (id : TypeId) :
    id ∈ relation.keys ↔ relation.of id ≠ [] := by
  rw [keys, List.mem_map, of]
  cases found : relation.find? (·.1 == id) with
  | none =>
      rw [List.find?_eq_none] at found
      simp only [Option.map_none, Option.getD_none, ne_eq, not_true_eq_false, iff_false]
      rintro ⟨entry, listed, same⟩
      exact found entry listed (beq_iff_eq.mpr same)
  | some entry =>
      have listed := List.mem_of_find?_eq_some found
      have same := List.find?_some found
      exact iff_of_true ⟨entry, listed, beq_iff_eq.mp same⟩ (map.filled entry listed)

end IsMap

end Relation

/-! ## Positions -/

/-- The positions of the declarations of a model that are as wanted, in model order. -/
def Definitions.positions (document : Nat) (defs : Definitions) (wanted : TypeDecl → Bool) :
    List TypeId :=
  (defs.types.zipIdx.filter (wanted ·.1)).map (⟨document, ·.2⟩)

theorem Definitions.nodup_positions (document : Nat) (defs : Definitions)
    (wanted : TypeDecl → Bool) : (defs.positions document wanted).Nodup := by
  have indices : (defs.types.zipIdx.map (·.2)).Nodup := by
    rw [List.zipIdx_map_snd]
    exact List.nodup_range'
  rw [positions, ← Function.comp_def (TypeId.mk document), ← List.map_map]
  apply List.Nodup.map
  · intro one other same
    exact (TypeId.mk.inj same).2
  · exact indices.sublist (List.filter_sublist.map _)

/-- Among the declarations that are as wanted, the positions of some are kept. -/
theorem Definitions.filter_positions (document : Nat) (defs : Definitions)
    (wanted : TypeDecl → Bool) (kept : TypeId → Bool) :
    (defs.positions document wanted).filter kept =
      (defs.types.zipIdx.filter fun indexed =>
        kept ⟨document, indexed.2⟩ && wanted indexed.1).map (⟨document, ·.2⟩) := by
  rw [positions, List.filter_map, List.filter_filter]
  rfl

/-! ## The relations of a model -/

variable (scope : Scope) (document : Nat)

/-- Noting an entity on its chain of supertypes adds it to one list after another. -/
theorem isMap_addSubtype {relation : Relation} (map : relation.IsMap)
    (indexed : TypeDecl × Nat) : (addSubtype scope document relation indexed).IsMap := by
  obtain ⟨decl, index⟩ := indexed
  cases decl with
  | entity type =>
      exact List.foldlRecOn _ _ map fun _ earlier key _ => earlier.add key ⟨document, index⟩
  | dataType type => exact map
  | enum type => exact map
  | foreign name => exact map

theorem isMap_subtypes (defs : Definitions) : (subtypes scope document defs).IsMap :=
  List.foldlRecOn _ _ .nil fun _ earlier indexed _ =>
    isMap_addSubtype scope document earlier indexed

namespace Analysis

/-- Both relations are maps. -/
def IsMaps (analysis : Analysis) : Prop := analysis.unionsOf.IsMap ∧ analysis.aliasesOf.IsMap

theorem IsMaps.addMember {analysis : Analysis} (maps : analysis.IsMaps) (union : TypeId)
    (member : Ref) : (analysis.addMember scope union member).IsMaps := by
  rw [Analysis.addMember]
  cases member.target with
  | none => exact maps
  | some target =>
      constructor
      · exact maps.1.add target union
      · dsimp only
        split
        · exact maps.2.add union target
        · exact maps.2

theorem IsMaps.addType {analysis : Analysis} (maps : analysis.IsMaps)
    (indexed : TypeDecl × Nat) : (analysis.addType scope document indexed).IsMaps := by
  obtain ⟨decl, index⟩ := indexed
  cases decl with
  | dataType type =>
      exact List.foldlRecOn _ _ maps fun _ earlier member _ =>
        earlier.addMember scope ⟨document, index⟩ member
  | entity type => exact maps
  | enum type => exact maps
  | foreign name => exact maps

end Analysis

theorem isMaps_analyze (defs : Definitions) : (analyze scope document defs).IsMaps :=
  List.foldlRecOn _ _ ⟨.nil, .nil⟩ fun _ earlier indexed _ =>
    earlier.addType scope document indexed

end DomainGen
