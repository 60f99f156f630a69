import DomainGen.Proofs.Analysis.Subtypes
import DomainGen.Proofs.Generate.Relocation

/-!
# Names and supertypes in a wider scope

A scope lies within another one if its declarations stand there at the same positions, and
their references mean none of the declarations that the other scope has besides.  Types
then have the same names in both scopes, and what a declaration of the narrow scope
reaches along supertypes is the same (`Within.reaches_iff`).
-/

namespace DomainGen

@[simp] theorem Ref.retargeted_id (ref : Ref) : ref.retargeted id = ref := by
  rw [retargeted, Option.map_id_apply]

@[simp] theorem TypeDecl.retargeted_id (decl : TypeDecl) : decl.retargeted id = decl := by
  rw [retargeted]
  simp only [Ref.retargeted_id]
  exact decl.mapRefs_self

@[simp] theorem DataType.retargeted_id (type : DataType) : type.retargeted id = type := by
  simp [retargeted]

@[simp] theorem Feature.retargeted_id (feature : Feature) : feature.retargeted id = feature := by
  simp [retargeted]

namespace Scope

/-- Whatever is declared in a scope is declared in the wider one at the same position, and
its references mean declared types. -/
abbrev Within (scope wider : Scope) : Prop := scope.Relocates wider id

namespace Within

variable {scope wider : Scope} (within : scope.Within wider)
include within

theorem type?_eq {id : TypeId} (declared : (scope.type? id).isSome) :
    wider.type? id = scope.type? id := by
  simpa using within.type?_of_isSome declared

theorem typeName_eq (builtins : BuiltinNames) {ref : Ref} (known : scope.Knows ref) :
    wider.typeName builtins ref = scope.typeName builtins ref := by
  simpa using within.typeName_retargeted known builtins

theorem primitives_eq {place : TypeId} {decl : TypeDecl}
    (found : scope.type? place = some decl) :
    Java.primitives wider decl = Java.primitives scope decl := by
  simpa using Java.primitives_retargeted within found

section Entity

variable {place : TypeId} {type : Entity} (found : scope.type? place = some (.entity type))
include found

theorem knows_super {ref : Ref} (super : type.super = some ref) : scope.Knows ref := by
  apply within.knows found .supertype
  rw [TypeDecl.refs, super, List.mem_append]
  exact .inl (List.mem_singleton_self _)

theorem knows_feature {feature : Feature} (member : feature ∈ type.features) :
    scope.Knows feature.type := by
  apply within.knows found .anyType
  rw [TypeDecl.refs, List.mem_append]
  exact .inr (List.mem_map_of_mem member)

theorem superOf?_eq : wider.superOf? type = scope.superOf? type := by
  rw [superOf?, superOf?]
  cases super : type.super with
  | none => rfl
  | some ref =>
      cases target : ref.target with
      | none => simp [target]
      | some id =>
          have declared := within.knows_super found super id target
          simp only [Option.bind_eq_bind, Option.bind_some, target, within.type?_eq declared]

end Entity

/-! ## Supertypes -/

theorem extends_iff {sub super : TypeId} (declared : (scope.type? sub).isSome) :
    wider.Extends sub super ↔ scope.Extends sub super := by
  unfold Extends
  rw [within.type?_eq declared]
  constructor
  · rintro ⟨entity, found, type, above⟩
    exact ⟨entity, found, type, within.superOf?_eq type ▸ above⟩
  · rintro ⟨entity, found, type, above⟩
    exact ⟨entity, found, type, (within.superOf?_eq type).trans above⟩

/-- A declared type reaches nothing more in the wider scope. -/
theorem reaches_iff {sub super : TypeId} (declared : (scope.type? sub).isSome) :
    wider.Reaches sub super ↔ scope.Reaches sub super := by
  constructor
  · intro reached
    induction reached with
    | single step => exact .single ((within.extends_iff declared).mp step)
    | tail _ step ih => exact ih.tail ((within.extends_iff (isSome_of_reaches ih)).mp step)
  · intro reached
    induction reached with
    | single step => exact .single ((within.extends_iff declared).mpr step)
    | tail earlier step ih =>
        exact ih.tail ((within.extends_iff (isSome_of_reaches earlier)).mpr step)

theorem mem_ancestorsOf {origin id : TypeId} {decl : TypeDecl}
    (found : scope.type? origin = some decl) :
    id ∈ wider.ancestorsOf origin decl ↔ id ∈ scope.ancestorsOf origin decl := by
  have declared : (scope.type? origin).isSome := found ▸ rfl
  rw [mem_ancestorsOf_iff found, mem_ancestorsOf_iff ((within.type?_eq declared).trans found),
    within.reaches_iff declared]

/-- The declarations of the narrow scope are subtypes of the same types in both scopes. -/
theorem descending_eq {document : Nat} {types : List TypeDecl}
    (declared : ∀ index, scope.type? ⟨document, index⟩ = types[index]?) (id : TypeId) :
    descending wider document types id = descending scope document types id := by
  rw [descending, descending]
  congr 1
  apply List.filter_congr
  intro indexed member
  have found := (declared indexed.2).trans (List.mem_zipIdx_iff_getElem?.mp member)
  exact decide_eq_decide.mpr (within.mem_ancestorsOf found)

end Within

end Scope

end DomainGen
