import DomainGen.Generate.Java
import DomainGen.Proofs.Analysis.Unions
import DomainGen.Proofs.Generate.Places
import DomainGen.Proofs.Link.Merging

/-!
# Names in a scope that has been relocated

What is generated for a type spells out the names of the types it refers to.  These names
are the same in a scope where the declarations stand at other positions, as long as the
references follow them.
-/

namespace DomainGen

/-! ## Declarations with other targets -/

section Retargeted

variable (move : TypeId → TypeId)

/-- The datatype with targets that follow the declarations they mean. -/
def DataType.retargeted (type : DataType) : DataType :=
  { type with members := type.members.map (·.retargeted move) }

/-- The feature with a target that follows the declaration it means. -/
def Feature.retargeted (feature : Feature) : Feature :=
  { feature with type := feature.type.retargeted move }

/-- The entity with targets that follow the declarations they mean. -/
def Entity.retargeted (type : Entity) : Entity :=
  { type with
    super := type.super.map (·.retargeted move)
    features := type.features.map (·.retargeted move) }

@[simp] theorem TypeDecl.name_retargeted (decl : TypeDecl) :
    (decl.retargeted move).name = decl.name :=
  decl.name_mapRefs _

theorem TypeDecl.dataType?_retargeted (decl : TypeDecl) :
    (decl.retargeted move).dataType? = decl.dataType?.map (·.retargeted move) := by
  cases decl <;> rfl

theorem TypeDecl.entity?_retargeted (decl : TypeDecl) :
    (decl.retargeted move).entity? = decl.entity?.map (·.retargeted move) := by
  cases decl <;> rfl

theorem TypeDecl.targets_retargeted (decl : TypeDecl) :
    (decl.retargeted move).targets = decl.targets.map move := by
  cases decl with
  | dataType type =>
      change (type.members.map (·.retargeted move)).filterMap (·.target) =
        (type.members.filterMap (·.target)).map move
      rw [List.filterMap_map, List.map_filterMap]
      rfl
  | entity type => rfl
  | enum type => rfl
  | foreign name => rfl

end Retargeted

/-- A type that a declaration lists is the target of one of its references. -/
theorem TypeDecl.exists_ref_of_mem_targets {decl : TypeDecl} {id : TypeId}
    (member : id ∈ decl.targets) : ∃ use ref, (use, ref) ∈ decl.refs ∧ ref.target = some id := by
  cases decl with
  | dataType type =>
      obtain ⟨ref, listed, target⟩ := List.mem_filterMap.mp member
      exact ⟨.anyType, ref, List.mem_map_of_mem listed, target⟩
  | entity type => exact absurd member List.not_mem_nil
  | enum type => exact absurd member List.not_mem_nil
  | foreign name => exact absurd member List.not_mem_nil

/-! ## References -/

namespace Scope

/-- If the reference has a target, then it means a declared type. -/
def Knows (scope : Scope) (ref : Ref) : Prop :=
  ∀ target, ref.target = some target → (scope.type? target).isSome

namespace Relocates

variable {scope other : Scope} {move : TypeId → TypeId} (relocates : scope.Relocates other move)
include relocates

theorem type?_of_isSome {id : TypeId} (declared : (scope.type? id).isSome) :
    other.type? (move id) = (scope.type? id).map (·.retargeted move) := by
  obtain ⟨decl, found⟩ := Option.isSome_iff_exists.mp declared
  rw [relocates.type id decl found, found, Option.map_some]

theorem knows {id : TypeId} {decl : TypeDecl} (found : scope.type? id = some decl) (use : RefUse)
    {ref : Ref} (member : (use, ref) ∈ decl.refs) : scope.Knows ref :=
  relocates.closed id decl found use ref member

theorem isSome_of_mem_targets {id target : TypeId} {decl : TypeDecl}
    (found : scope.type? id = some decl) (member : target ∈ decl.targets) :
    (scope.type? target).isSome := by
  obtain ⟨use, ref, listed, means⟩ := TypeDecl.exists_ref_of_mem_targets member
  exact relocates.closed id decl found use ref listed target means

section Ref

variable {ref : Ref} (known : scope.Knows ref)
include known

theorem target?_retargeted :
    other.target? (ref.retargeted move) = (scope.target? ref).map (·.retargeted move) := by
  rw [target?, Ref.retargeted, target?]
  cases target : ref.target with
  | none => rfl
  | some id => exact relocates.type?_of_isSome (known id target)

theorem typeName_retargeted (builtins : BuiltinNames) :
    other.typeName builtins (ref.retargeted move) = scope.typeName builtins ref := by
  simp only [typeName, nameOf, dataType?, relocates.target?_retargeted known]
  cases scope.target? ref with
  | none => rfl
  | some decl =>
      simp only [Option.map_some, Option.bind_some, TypeDecl.name_retargeted,
        TypeDecl.dataType?_retargeted, Option.bind_map]
      rfl

end Ref

theorem featureType_retargeted (builtins : BuiltinNames) {feature : Feature}
    (known : scope.Knows feature.type) :
    other.featureType builtins (feature.retargeted move) = scope.featureType builtins feature := by
  rw [featureType, Feature.retargeted, relocates.typeName_retargeted known, featureType]

theorem map_name_superOf?_retargeted {type : Entity}
    (known : ∀ ref, type.super = some ref → scope.Knows ref) :
    (other.superOf? (type.retargeted move)).map (·.2.name) =
      (scope.superOf? type).map (·.2.name) := by
  simp only [superOf?, Entity.retargeted]
  cases super : type.super with
  | none => rfl
  | some ref =>
      cases target : ref.target with
      | none => simp [Ref.retargeted, target]
      | some id =>
          have moved := relocates.type?_of_isSome (known ref super id target)
          simp only [Option.map_some, Option.bind_some, Ref.retargeted, target, moved,
            Option.bind_map, Option.bind_eq_bind, Option.pure_def]
          cases scope.type? id with
          | none => rfl
          | some decl =>
              simp only [Option.bind_some, Function.comp_apply, TypeDecl.entity?_retargeted]
              cases decl.entity? with
              | none => rfl
              | some entity => rfl

end Relocates

end Scope

namespace Java

/-! ## Primitive members -/

/-- The primitive members of a union that there are accessors for, one for each distinct
type. -/
def primitives (scope : Scope) (decl : TypeDecl) : List DataType :=
  firstOccurrences aliasType
    ((firstOccurrences id (decl.targets.filter scope.isAliasable)).filterMap fun id =>
      (scope.type? id).bind (·.dataType?))

theorem primitives_eq_nil_iff (scope : Scope) (decl : TypeDecl) :
    primitives scope decl = [] ↔ ∀ target ∈ decl.targets, ¬ scope.isAliasable target := by
  rw [primitives, firstOccurrences_eq_nil_iff, List.filterMap_eq_nil_iff]
  constructor
  · intro missing target member aliasable
    have some : firstOccurrences id (decl.targets.filter scope.isAliasable) ≠ [] := by
      rw [Ne, firstOccurrences_eq_nil_iff, List.filter_eq_nil_iff]
      exact fun none => none target member aliasable
    -- A member with accessors is a datatype, so it is not dropped.
    obtain ⟨first, kept⟩ := List.exists_mem_of_ne_nil _ some
    have offered := (List.mem_filter.mp (mem_of_mem_firstOccurrences kept)).2
    rw [Scope.isAliasable, missing first kept] at offered
    cases offered
  · intro none target kept
    have listed := List.mem_filter.mp (mem_of_mem_firstOccurrences kept)
    exact absurd listed.2 (none target listed.1)

/-- In a relocated scope the primitive members follow the union. -/
theorem primitives_retargeted {scope other : Scope} {move : TypeId → TypeId}
    (relocates : scope.Relocates other move) {place : TypeId} {decl : TypeDecl}
    (found : scope.type? place = some decl) :
    primitives other (decl.retargeted move) = (primitives scope decl).map (·.retargeted move) := by
  have declared : ∀ id ∈ decl.targets, (scope.type? id).isSome := fun id =>
    relocates.isSome_of_mem_targets found
  have aliasable : ∀ id ∈ decl.targets,
      other.isAliasable (move id) = scope.isAliasable id := by
    intro id member
    rw [Scope.isAliasable, relocates.type?_of_isSome (declared id member), Scope.isAliasable]
    cases scope.type? id with
    | none => rfl
    | some decl =>
        rw [Option.map_some, Option.bind_some, TypeDecl.dataType?_retargeted, Option.any_map,
          Option.bind_some]
        rfl
  have members : firstOccurrences id ((decl.retargeted move).targets.filter other.isAliasable) =
      (firstOccurrences id (decl.targets.filter scope.isAliasable)).map move := by
    have kept : (decl.targets.filter (other.isAliasable ∘ move)) =
        decl.targets.filter scope.isAliasable := List.filter_congr aliasable
    rw [TypeDecl.targets_retargeted, List.filter_map, kept, firstOccurrences_map]
    congr 1
    apply firstOccurrences_congr
    intro first member last listed
    rw [Bool.eq_iff_iff, beq_iff_eq, beq_iff_eq]
    constructor
    · exact relocates.injective first last (declared first (List.mem_of_mem_filter member))
        (declared last (List.mem_of_mem_filter listed))
    · exact congrArg move
  have types : ((firstOccurrences id (decl.targets.filter scope.isAliasable)).map move).filterMap
      (fun id => (other.type? id).bind (·.dataType?)) =
        ((firstOccurrences id (decl.targets.filter scope.isAliasable)).filterMap fun id =>
          (scope.type? id).bind (·.dataType?)).map (·.retargeted move) := by
    rw [List.filterMap_map, List.map_filterMap]
    apply List.filterMap_congr
    intro id kept
    have listed := (List.mem_filter.mp (mem_of_mem_firstOccurrences kept)).1
    rw [Function.comp_apply, relocates.type?_of_isSome (declared id listed)]
    cases scope.type? id with
    | none => rfl
    | some decl => exact decl.dataType?_retargeted move
  rw [primitives, members, types, firstOccurrences_map]
  rfl

end Java

end DomainGen
