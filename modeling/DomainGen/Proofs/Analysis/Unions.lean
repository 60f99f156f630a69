import DomainGen.Analysis
import DomainGen.Generate.TypeName
import Mathlib.Data.List.Induction

/-!
# What the relations of a model hold

The relations are built by a pass over the declarations of one model.  After it, the
unions of a type are the datatypes of the model that list it, in model order
(`of_unionsOf_analyze`), and the primitive members of a datatype of the model are its
resolved members with accessors, each at its first occurrence (`of_aliasesOf_analyze`).

Both are invariants of the pass.  One more member changes one list of each relation, and
one more declaration changes them as its members do.
-/

namespace DomainGen

/-- The types that a declaration lists as members, as far as they are known.  Only a
datatype has members. -/
def TypeDecl.targets : TypeDecl → List TypeId
  | .dataType type => type.members.filterMap (·.target)
  | _ => []

/-- Whether a union that lists the type at a position offers accessors for it. -/
def Scope.isAliasable (scope : Scope) (id : TypeId) : Bool :=
  ((scope.type? id).bind (·.dataType?)).any (·.isAliasable)

/-! ## Lists without repetition -/

/-- Append an entry, unless it is there. -/
def insertNew {α : Type} [DecidableEq α] (kept : List α) (entry : α) : List α :=
  if entry ∈ kept then kept else kept ++ [entry]

theorem insertNew_insertNew {α : Type} [DecidableEq α] (kept : List α) (entry : α) :
    insertNew (insertNew kept entry) entry = insertNew kept entry := by
  by_cases present : entry ∈ kept
  · simp [insertNew, present]
  · simp [insertNew, present]

theorem foldl_insertNew {α : Type} [DecidableEq α] (entries : List α) :
    entries.foldl insertNew [] = firstOccurrences id entries := by
  rw [firstOccurrences]
  congr 1
  funext kept entry
  rw [insertNew]
  simp only [id, List.any_beq', List.elem_eq_mem]
  by_cases present : entry ∈ kept
  · simp [present]
  · simp [present]

section FirstOccurrences

variable {α β : Type} [BEq β]

theorem firstOccurrences_append_singleton (key : α → β) (entries : List α) (last : α) :
    firstOccurrences key (entries ++ [last]) =
      if (firstOccurrences key entries).any (key · == key last) then firstOccurrences key entries
      else firstOccurrences key entries ++ [last] := by
  rw [firstOccurrences, List.foldl_append]
  rfl

theorem mem_of_mem_firstOccurrences {key : α → β} {entries : List α} {entry : α}
    (kept : entry ∈ firstOccurrences key entries) : entry ∈ entries := by
  induction entries using List.reverseRecOn with
  | nil => exact kept
  | append_singleton entries last ih =>
      rw [firstOccurrences_append_singleton] at kept
      rw [List.mem_append]
      split at kept
      · exact .inl (ih kept)
      · rw [List.mem_append] at kept
        exact kept.imp_left ih

/-- The first entry is always kept. -/
theorem firstOccurrences_eq_nil_iff {key : α → β} {entries : List α} :
    firstOccurrences key entries = [] ↔ entries = [] := by
  induction entries using List.reverseRecOn with
  | nil => exact Iff.rfl
  | append_singleton entries last ih =>
      rw [firstOccurrences_append_singleton]
      by_cases nothing : firstOccurrences key entries = []
      · simp [nothing]
      · split
        · simp [nothing]
        · simp

/-- Keys that tell apart the same entries keep the same entries. -/
theorem firstOccurrences_congr {γ : Type} [BEq γ] {key : α → β} {other : α → γ}
    {entries : List α}
    (same : ∀ entry ∈ entries, ∀ last ∈ entries, (key entry == key last) =
      (other entry == other last)) :
    firstOccurrences key entries = firstOccurrences other entries := by
  induction entries using List.reverseRecOn with
  | nil => rfl
  | append_singleton entries last ih =>
      have before := ih fun entry member last listed =>
        same entry (List.mem_append_left _ member) last (List.mem_append_left _ listed)
      have found : (firstOccurrences other entries).any (key · == key last) =
          (firstOccurrences other entries).any (other · == other last) := by
        rw [Bool.eq_iff_iff, List.any_eq_true, List.any_eq_true]
        apply exists_congr
        intro entry
        apply and_congr_right
        intro kept
        rw [same entry (List.mem_append_left _ (mem_of_mem_firstOccurrences kept)) last
          (List.mem_append_right _ (List.mem_singleton_self last))]
      rw [firstOccurrences_append_singleton, firstOccurrences_append_singleton, before, found]

end FirstOccurrences

theorem Relation.of_add_eq (relation : Relation) (key value other : TypeId) :
    (relation.add key value).of other =
      if key = other then insertNew (relation.of other) value else relation.of other := by
  rw [of_add]
  by_cases same : key = other
  · rw [if_pos same, if_pos same, same]
    rfl
  · rw [if_neg same, if_neg same]

/-! ## One declaration -/

namespace Analysis

variable (scope : Scope) (union : TypeId)

theorem of_unionsOf_addMember (analysis : Analysis) (member : Ref) (id : TypeId) :
    (analysis.addMember scope union member).unionsOf.of id =
      if member.target = some id then insertNew (analysis.unionsOf.of id) union
      else analysis.unionsOf.of id := by
  rw [addMember]
  cases member.target with
  | none => rfl
  | some target =>
      simp only [Option.some_inj]
      exact Relation.of_add_eq analysis.unionsOf target union id

theorem of_aliasesOf_addMember (analysis : Analysis) (member : Ref) (id : TypeId) :
    (analysis.addMember scope union member).aliasesOf.of id =
      if union = id then
        (member.target.toList.filter scope.isAliasable).foldl insertNew (analysis.aliasesOf.of id)
      else analysis.aliasesOf.of id := by
  rw [addMember]
  cases member.target with
  | none => simp
  | some target =>
      change Relation.of (if scope.isAliasable target then analysis.aliasesOf.add union target
        else analysis.aliasesOf) id = _
      by_cases aliasable : scope.isAliasable target
      · rw [if_pos aliasable, Relation.of_add_eq]
        simp [aliasable]
      · simp [aliasable]

/-- The members of a union add it to the unions of each type they mean. -/
theorem of_unionsOf_foldl_addMember (members : List Ref) (analysis : Analysis) (id : TypeId) :
    (members.foldl (addMember scope union) analysis).unionsOf.of id =
      if id ∈ members.filterMap (·.target) then insertNew (analysis.unionsOf.of id) union
      else analysis.unionsOf.of id := by
  induction members generalizing analysis with
  | nil => rfl
  | cons member members ih =>
      rw [List.foldl_cons, ih, of_unionsOf_addMember]
      by_cases listed : member.target = some id
      · rw [if_pos listed, List.filterMap_cons, listed, insertNew_insertNew]
        simp
      · rw [if_neg listed]
        have later : id ∈ (member :: members).filterMap (·.target) ↔
            id ∈ members.filterMap (·.target) := by
          simp [listed]
        simp only [later]

/-- They add those with accessors to the primitive members of the union. -/
theorem of_aliasesOf_foldl_addMember (members : List Ref) (analysis : Analysis) (id : TypeId) :
    (members.foldl (addMember scope union) analysis).aliasesOf.of id =
      if union = id then
        ((members.filterMap (·.target)).filter scope.isAliasable).foldl insertNew
          (analysis.aliasesOf.of id)
      else analysis.aliasesOf.of id := by
  induction members generalizing analysis with
  | nil => simp
  | cons member members ih =>
      rw [List.foldl_cons, ih, of_aliasesOf_addMember]
      by_cases same : union = id
      · rw [if_pos same, if_pos same, if_pos same, ← List.foldl_append, ← List.filter_append]
        congr 2
        cases found : member.target with
        | none => simp [found]
        | some target => simp [found]
      · rw [if_neg same, if_neg same, if_neg same]

variable (document : Nat)

theorem of_unionsOf_addType (analysis : Analysis) (decl : TypeDecl) (index : Nat) (id : TypeId) :
    (analysis.addType scope document (decl, index)).unionsOf.of id =
      if id ∈ decl.targets then insertNew (analysis.unionsOf.of id) ⟨document, index⟩
      else analysis.unionsOf.of id := by
  cases decl with
  | dataType type =>
      exact of_unionsOf_foldl_addMember scope ⟨document, index⟩ type.members analysis id
  | entity type => rfl
  | enum type => rfl
  | foreign name => rfl

theorem of_aliasesOf_addType (analysis : Analysis) (decl : TypeDecl) (index : Nat)
    (id : TypeId) :
    (analysis.addType scope document (decl, index)).aliasesOf.of id =
      if (⟨document, index⟩ : TypeId) = id then
        (decl.targets.filter scope.isAliasable).foldl insertNew (analysis.aliasesOf.of id)
      else analysis.aliasesOf.of id := by
  cases decl with
  | dataType type =>
      exact of_aliasesOf_foldl_addMember scope ⟨document, index⟩ type.members analysis id
  | entity type => exact (ite_self _).symm
  | enum type => exact (ite_self _).symm
  | foreign name => exact (ite_self _).symm

end Analysis

/-! ## All declarations of a model -/

/-- The positions of the declarations that list a type as a member. -/
def listing (document : Nat) (types : List TypeDecl) (id : TypeId) : List TypeId :=
  (types.zipIdx.filter (id ∈ ·.1.targets)).map (⟨document, ·.2⟩)

theorem mem_listing {document : Nat} {types : List TypeDecl} {id union : TypeId} :
    union ∈ listing document types id ↔ union.document = document ∧
      ∃ decl, types[union.index]? = some decl ∧ id ∈ decl.targets := by
  simp only [listing, List.mem_map, List.mem_filter, decide_eq_true_eq, Prod.exists,
    List.mem_zipIdx_iff_getElem?]
  constructor
  · rintro ⟨decl, index, ⟨declared, listed⟩, rfl⟩
    exact ⟨rfl, decl, declared, listed⟩
  · rintro ⟨rfl, decl, declared, listed⟩
    exact ⟨decl, union.index, ⟨declared, listed⟩, rfl⟩

theorem listing_append_singleton (document : Nat) (types : List TypeDecl) (decl : TypeDecl)
    (id : TypeId) :
    listing document (types ++ [decl]) id =
      listing document types id ++
        if id ∈ decl.targets then [⟨document, types.length⟩] else [] := by
  rw [listing, List.zipIdx_append, List.filter_append, List.map_append, Nat.zero_add]
  congr 1
  by_cases listed : id ∈ decl.targets
  · simp [listed]
  · simp [listed]

/-- The unions of a type are the datatypes of the model that list it, in model order. -/
theorem of_unionsOf_analyze (scope : Scope) (document : Nat) (defs : Definitions) (id : TypeId) :
    (analyze scope document defs).unionsOf.of id = listing document defs.types id := by
  rw [analyze]
  generalize defs.types = types
  induction types using List.reverseRecOn with
  | nil => rfl
  | append_singleton types decl ih =>
      rw [List.zipIdx_append, List.foldl_append, Nat.zero_add]
      rw [List.zipIdx_singleton, List.foldl_cons, List.foldl_nil, Analysis.of_unionsOf_addType, ih,
        listing_append_singleton]
      by_cases listed : id ∈ decl.targets
      · -- The declaration comes after all of those that were taken up.
        have fresh : (⟨document, types.length⟩ : TypeId) ∉ listing document types id := by
          rw [mem_listing]
          rintro ⟨-, earlier, declared, -⟩
          rw [List.getElem?_eq_none (Nat.le_refl _)] at declared
          contradiction
        rw [if_pos listed, if_pos listed, insertNew, if_neg fresh]
      · rw [if_neg listed, if_neg listed, List.append_nil]

/-- The primitive members of a type are those that it lists, if it is a datatype of the
model, each at its first occurrence. -/
theorem of_aliasesOf_analyze (scope : Scope) (document : Nat) (defs : Definitions)
    (key : TypeId) :
    (analyze scope document defs).aliasesOf.of key =
      if key.document = document then
        firstOccurrences id
          (((defs.types[key.index]?).elim [] (·.targets)).filter scope.isAliasable)
      else [] := by
  rw [analyze]
  generalize defs.types = types
  induction types using List.reverseRecOn with
  | nil => exact (ite_self _).symm
  | append_singleton types decl ih =>
      rw [List.zipIdx_append, List.foldl_append, Nat.zero_add]
      rw [List.zipIdx_singleton, List.foldl_cons, List.foldl_nil, Analysis.of_aliasesOf_addType, ih]
      by_cases last : (⟨document, types.length⟩ : TypeId) = key
      · subst last
        rw [if_pos rfl, if_pos rfl, if_pos rfl]
        rw [List.getElem?_eq_none (Nat.le_refl _), List.getElem?_concat_length]
        exact foldl_insertNew (decl.targets.filter scope.isAliasable)
      · rw [if_neg last]
        by_cases inside : key.document = document
        · have apart : key.index ≠ types.length := by
            intro same
            apply last
            rw [← inside, ← same]
          rw [if_pos inside, if_pos inside, List.getElem?_append]
          by_cases earlier : key.index < types.length
          · rw [if_pos earlier]
          · rw [if_neg earlier, List.getElem?_eq_none (by omega), List.getElem?_eq_none]
            simp only [List.length_singleton]
            omega
        · rw [if_neg inside, if_neg inside]

end DomainGen
