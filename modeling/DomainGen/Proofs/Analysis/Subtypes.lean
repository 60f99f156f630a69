import DomainGen.Proofs.Analysis.Supertypes
import DomainGen.Proofs.Analysis.Unions

/-!
# The subtypes of a type in order

The subtypes of a type are collected in a pass over the declarations of one model.  Every
entity is noted at once for all types on its chain of supertypes, so that after the pass
the subtypes of a type are the entities with the type on their chains, in model order
(`of_subtypes`).
-/

namespace DomainGen

/-- The types on the chain of supertypes of the declaration at a position. -/
def Scope.ancestorsOf (scope : Scope) (origin : TypeId) : TypeDecl → List TypeId
  | .entity type => scope.ancestors (scope.ids.erase origin) type
  | _ => []

namespace Scope

theorem isSome_of_reaches {scope : Scope} {sub super : TypeId}
    (reached : scope.Reaches sub super) : (scope.type? super).isSome := by
  obtain ⟨_, -, _, _, -, found⟩ := Relation.TransGen.tail'_iff.mp reached
  rw [type?_of_superOf? found]
  rfl

/-- What is on the chain of a declaration is what it reaches, except the declaration
itself. -/
theorem mem_ancestorsOf_iff {scope : Scope} {origin id : TypeId} {decl : TypeDecl}
    (found : scope.type? origin = some decl) :
    id ∈ scope.ancestorsOf origin decl ↔ scope.Reaches origin id ∧ id ≠ origin := by
  cases decl with
  | entity type => exact mem_ancestors_iff found
  | _ =>
      -- Only entities have supertypes.
      refine iff_of_false List.not_mem_nil ?_
      rintro ⟨reached, -⟩
      obtain ⟨_, ⟨_, _, type, -⟩, -⟩ := Relation.TransGen.head'_iff.mp reached
      cases found.symm.trans type

end Scope

/-- The positions of the declarations that have a type on their chain of supertypes. -/
def descending (scope : Scope) (document : Nat) (types : List TypeDecl) (id : TypeId) :
    List TypeId :=
  (types.zipIdx.filter fun indexed =>
    id ∈ scope.ancestorsOf ⟨document, indexed.2⟩ indexed.1).map (⟨document, ·.2⟩)

section

variable (scope : Scope) (document : Nat)

theorem mem_descending {types : List TypeDecl} {id origin : TypeId} :
    origin ∈ descending scope document types id ↔ origin.document = document ∧
      ∃ decl, types[origin.index]? = some decl ∧ id ∈ scope.ancestorsOf origin decl := by
  simp only [descending, List.mem_map, List.mem_filter, decide_eq_true_eq, Prod.exists,
    List.mem_zipIdx_iff_getElem?]
  constructor
  · rintro ⟨decl, index, ⟨declared, collected⟩, rfl⟩
    exact ⟨rfl, decl, declared, collected⟩
  · rintro ⟨rfl, decl, declared, collected⟩
    exact ⟨decl, origin.index, ⟨declared, collected⟩, rfl⟩

theorem descending_append_singleton (types : List TypeDecl) (decl : TypeDecl) (id : TypeId) :
    descending scope document (types ++ [decl]) id =
      descending scope document types id ++
        if id ∈ scope.ancestorsOf ⟨document, types.length⟩ decl then [⟨document, types.length⟩]
        else [] := by
  rw [descending, List.zipIdx_append, List.filter_append, List.map_append, Nat.zero_add]
  congr 1
  by_cases collected : id ∈ scope.ancestorsOf ⟨document, types.length⟩ decl
  · simp [collected]
  · simp [collected]

/-- Nothing is a subtype of what is not declared. -/
theorem descending_eq_nil {types : List TypeDecl}
    (declared : ∀ index, scope.type? ⟨document, index⟩ = types[index]?) {id : TypeId}
    (missing : scope.type? id = none) : descending scope document types id = [] := by
  rw [List.eq_nil_iff_forall_not_mem]
  intro origin member
  obtain ⟨rfl, decl, found, collected⟩ := (mem_descending scope document).mp member
  have reached := ((Scope.mem_ancestorsOf_iff ((declared _).trans found)).mp collected).1
  have some := Scope.isSome_of_reaches reached
  rw [missing] at some
  contradiction

/-- Relating several types to one value changes each of their lists once. -/
theorem Relation.of_foldl_add (relation : Relation) (keys : List TypeId) (value other : TypeId) :
    (keys.foldl (fun relation key => relation.add key value) relation).of other =
      if other ∈ keys then insertNew (relation.of other) value else relation.of other := by
  induction keys generalizing relation with
  | nil => rfl
  | cons key keys ih =>
      rw [List.foldl_cons, ih, of_add_eq]
      by_cases same : key = other
      · rw [if_pos same, insertNew_insertNew, ite_self, if_pos (same ▸ List.mem_cons_self)]
      · rw [if_neg same]
        simp only [List.mem_cons, Ne.symm same, false_or]

theorem of_addSubtype (relation : Relation) (decl : TypeDecl) (index : Nat) (id : TypeId) :
    (addSubtype scope document relation (decl, index)).of id =
      if id ∈ scope.ancestorsOf ⟨document, index⟩ decl then
        insertNew (relation.of id) ⟨document, index⟩
      else relation.of id := by
  cases decl with
  | entity type => exact Relation.of_foldl_add relation _ ⟨document, index⟩ id
  | dataType type => rfl
  | enum type => rfl
  | foreign name => rfl

/-- The subtypes of a type are the entities of the model with the type on their chains, in
model order. -/
theorem of_subtypes (defs : Definitions) (id : TypeId) :
    (subtypes scope document defs).of id = descending scope document defs.types id := by
  rw [subtypes]
  generalize defs.types = types
  induction types using List.reverseRecOn with
  | nil => rfl
  | append_singleton types decl ih =>
      rw [List.zipIdx_append, List.foldl_append, Nat.zero_add]
      rw [List.zipIdx_singleton, List.foldl_cons, List.foldl_nil, of_addSubtype, ih,
        descending_append_singleton]
      by_cases collected : id ∈ scope.ancestorsOf ⟨document, types.length⟩ decl
      · -- The entity comes after all of those that were noted.
        have fresh : (⟨document, types.length⟩ : TypeId) ∉
            descending scope document types id := by
          rw [mem_descending]
          rintro ⟨-, earlier, declared, -⟩
          rw [List.getElem?_eq_none (Nat.le_refl _)] at declared
          contradiction
        rw [if_pos collected, if_pos collected, insertNew, if_neg fresh]
      · rw [if_neg collected, if_neg collected, List.append_nil]

end

end DomainGen
