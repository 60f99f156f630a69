import DomainGen.Model.Document

/-!
# Relations between types

What generators need to know beyond the declarations: which unions list a
type, which members of a union stand for primitive types with accessors of
their own, and which entities extend an entity, directly or through others.
-/

namespace DomainGen

/-- For each type that is related to any, the types it is related to, without
repetition and in the order in which they were added. -/
abbrev Relation := List (TypeId × List TypeId)

namespace Relation

/-- The types a type is related to. -/
def of (relation : Relation) (key : TypeId) : List TypeId :=
  ((relation.find? (·.1 == key)).map (·.2)).getD []

/-- Relate two types, unless they are. -/
def add (key value : TypeId) : Relation → Relation
  | [] => [(key, [value])]
  | (other, values) :: rest =>
      if other = key then
        (other, if value ∈ values then values else values ++ [value]) :: rest
      else (other, values) :: add key value rest

/-- Adding to one type's list appends what is new there and leaves the other
lists alone. -/
theorem of_add (key value other : TypeId) (relation : Relation) :
    (add key value relation).of other =
      if key = other then
        if value ∈ relation.of key then relation.of key else relation.of key ++ [value]
      else relation.of other := by
  induction relation with
  | nil => by_cases same : key = other <;> simp [add, of, same]
  | cons entry rest ih =>
      obtain ⟨first, values⟩ := entry
      by_cases found : first = key
      · by_cases same : key = other <;> simp [add, of, found, same]
      · by_cases same : key = other
        · have passed : first ≠ other := same ▸ found
          simpa [add, of, found, passed, same] using ih
        · by_cases wanted : first = other
          · have apart : other ≠ key := Ne.symm same
            simp [add, of, wanted, apart, same]
          · simpa [add, of, found, wanted, same] using ih

end Relation

/-- The relations that unions give rise to. -/
structure Analysis where
  /-- For each type, the datatypes that list it as a member, in model order. -/
  unionsOf : Relation := []
  /-- For each datatype, its members that are primitive with accessors of their
  own, in member order. -/
  aliasesOf : Relation := []
  deriving Repr, DecidableEq, Inhabited

/-- Take up one member of the datatype at `union`.  An unresolved member counts
for nothing. -/
def Analysis.addMember (scope : Scope) (union : TypeId) (analysis : Analysis) (member : Ref) :
    Analysis :=
  match member.target with
  | none => analysis
  | some target =>
      { unionsOf := analysis.unionsOf.add target union
        aliasesOf :=
          if ((scope.type? target).bind (·.dataType?)).any (·.isAliasable) then
            analysis.aliasesOf.add union target
          else analysis.aliasesOf }

/-- Take up every member of one declaration. -/
def Analysis.addType (scope : Scope) (document : Nat) (analysis : Analysis)
    (indexed : TypeDecl × Nat) : Analysis :=
  match indexed with
  | (.dataType type, index) =>
      type.members.foldl (Analysis.addMember scope ⟨document, index⟩) analysis
  | _ => analysis

/-- The relations of the model at position `document` of the scope. -/
def analyze (scope : Scope) (document : Nat) (defs : Definitions) : Analysis :=
  defs.types.zipIdx.foldl (Analysis.addType scope document) {}

/-- The entities on the chain of supertypes of an entity, nearest first.  The
chain ends where it meets an entity that is not among those still `unseen`, so
a cyclic hierarchy has finite chains. -/
def Scope.ancestors (scope : Scope) (unseen : List TypeId) (entity : Entity) : List TypeId :=
  match scope.superOf? entity with
  | none => []
  | some (id, super) =>
      if id ∈ unseen then id :: scope.ancestors (unseen.erase id) super else []
  termination_by unseen.length
  decreasing_by
    rename_i member
    have := List.length_pos_of_mem member
    rw [List.length_erase_of_mem member]
    omega

/-- Note the entity at `origin` as a subtype of each entity on its chain.  An
entity is never its own subtype. -/
def addSubtype (scope : Scope) (document : Nat) (subtypes : Relation)
    (indexed : TypeDecl × Nat) : Relation :=
  match indexed with
  | (.entity entity, index) =>
      let origin : TypeId := ⟨document, index⟩
      (scope.ancestors (scope.ids.erase origin) entity).foldl
        (fun subtypes ancestor => subtypes.add ancestor origin) subtypes
  | _ => subtypes

/-- For each entity, the entities of the model whose chain of supertypes reaches
it, in model order. -/
def subtypes (scope : Scope) (document : Nat) (defs : Definitions) : Relation :=
  defs.types.zipIdx.foldl (addSubtype scope document) []

end DomainGen
