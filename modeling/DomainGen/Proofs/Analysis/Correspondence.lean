import DomainGen.Proofs.Analysis.Subtypes
import DomainGen.Proofs.Analysis.Unions
import Mathlib.Data.List.Forall2

/-!
# Declarations that mean the same

Two references mean the same if they have corresponding targets, however they are spelled,
or if they have none and are spelled the same.  Two declarations are alike if they are of
the same kind, say the same in their own words, and have references that mean the same.
They may stand at different places of their sources.

Where corresponding types are declared alike, references have the same name
(`Corresponds.typeName_eq`), and chains of supertypes lead from corresponding types to
corresponding types (`Corresponds.mem_ancestorsOf_iff`).
-/

namespace DomainGen

/-! ## Lists that correspond entry by entry -/

section Lists

variable {α β γ δ : Type} {related : α → β → Prop} {ones : List α} {others : List β}

/-- Lists of which the same can be seen are seen as the same list. -/
theorem map_eq_of_forall₂ {first : α → γ} {second : β → γ}
    (same : List.Forall₂ related ones others)
    (seen : ∀ one other, related one other → first one = second other) :
    ones.map first = others.map second := by
  have images : List.Forall₂ (· = ·) (ones.map first) (others.map second) :=
    List.rel_map (fun one other here => seen one other here) same
  rwa [List.forall₂_eq_eq_eq] at images

theorem isEmpty_eq_of_forall₂ (same : List.Forall₂ related ones others) :
    ones.isEmpty = others.isEmpty := by
  cases same with
  | nil => rfl
  | cons first rest => rfl

/-- Keys that tell apart corresponding entries in the same way keep corresponding entries. -/
theorem forall₂_firstOccurrences [BEq γ] [BEq δ] {key : α → γ} {image : β → δ}
    (same : List.Forall₂ related ones others)
    (apart : ∀ one other last final, related one other → related last final →
      (key one == key last) = (image other == image final)) :
    List.Forall₂ related (firstOccurrences key ones) (firstOccurrences image others) := by
  have found : ∀ {kept : List α} {images : List β} {one : α} {other : β},
      List.Forall₂ related kept images → related one other →
        kept.any (key · == key one) = images.any (image · == image other) := by
    intro kept images one other alike here
    induction alike with
    | nil => rfl
    | cons first rest ih => rw [List.any_cons, List.any_cons, ih, apart _ _ _ _ first here]
  refine List.rel_foldl (P := List.Forall₂ related) ?_ .nil same
  intro kept images alike one other here
  beta_reduce
  rw [found alike here]
  split
  · exact alike
  · exact List.rel_append alike (.cons here .nil)

end Lists

/-! ## Alike -/

section Alike

variable (related : TypeId → TypeId → Prop)

/-- References that mean the same: their targets correspond, or they have none and are written
the same. -/
structure Ref.Alike (one other : Ref) : Prop where
  target : Option.Rel related one.target other.target
  text : one.target = none → one.text = other.text

/-- Features that differ in places and in how their types are written. -/
structure Feature.Alike (one other : Feature) : Prop where
  name : one.name = other.name
  type : one.type.Alike related other.type
  many : one.many = other.many
  nonNullable : one.nonNullable = other.nonNullable

/-- Entities that differ in places and in how types are written. -/
structure Entity.Alike (one other : Entity) : Prop where
  name : one.name = other.name
  super : Option.Rel (Ref.Alike related) one.super other.super
  features : List.Forall₂ (Feature.Alike related) one.features other.features

/-- Datatypes that differ in places and in how their members are written. -/
structure DataType.Alike (one other : DataType) : Prop where
  name : one.name = other.name
  members : List.Forall₂ (Ref.Alike related) one.members other.members
  primitive : one.primitive = other.primitive

/-- Enums that differ in places. -/
structure Enum.Alike (one other : Enum) : Prop where
  name : one.name = other.name
  literals : one.literals.map (·.name) = other.literals.map (·.name)

/-- Declarations of the same kind that differ in places and in how types are written. -/
inductive TypeDecl.Alike : TypeDecl → TypeDecl → Prop where
  | dataType {one other : DataType} (same : one.Alike related other) :
      TypeDecl.Alike (.dataType one) (.dataType other)
  | entity {one other : Entity} (same : one.Alike related other) :
      TypeDecl.Alike (.entity one) (.entity other)
  | enum {one other : Enum} (same : one.Alike other) : TypeDecl.Alike (.enum one) (.enum other)
  | foreign (name : String) : TypeDecl.Alike (.foreign name) (.foreign name)

/-- Elements that differ in places and in how types are written.  What is in a package is left
to other visits. -/
inductive Element.Alike : Element → Element → Prop where
  | package (name : String) (pos place : Position) (inner further : List Element) :
      Element.Alike (.package name pos inner) (.package name place further)
  | type {decl other : TypeDecl} (same : decl.Alike related other) :
      Element.Alike (.type decl) (.type other)
  | foreign (name : String) : Element.Alike (.foreign name) (.foreign name)

/-- Visits in the same package of elements that are alike. -/
structure Visit.Alike (one other : Visit) : Prop where
  path : one.path = other.path
  element : one.element.Alike related other.element

/-! Whether declarations are alike can be found out. -/

variable [∀ id counterpart, Decidable (related id counterpart)]

instance decidableOptionRel {α β : Type} (further : α → β → Prop)
    [∀ one other, Decidable (further one other)] :
    ∀ one other, Decidable (Option.Rel further one other)
  | some one, some other =>
      decidable_of_iff (further one other) ⟨.some, fun | .some same => same⟩
  | none, none => .isTrue .none
  | some _, none => .isFalse nofun
  | none, some _ => .isFalse nofun

instance (one other : Ref) : Decidable (one.Alike related other) :=
  decidable_of_iff (Option.Rel related one.target other.target ∧
    (one.target = none → one.text = other.text))
    ⟨fun ⟨target, text⟩ => ⟨target, text⟩, fun ⟨target, text⟩ => ⟨target, text⟩⟩

instance (one other : Feature) : Decidable (one.Alike related other) :=
  decidable_of_iff (one.name = other.name ∧ one.type.Alike related other.type ∧
    one.many = other.many ∧ one.nonNullable = other.nonNullable)
    ⟨fun ⟨name, type, many, nonNullable⟩ => ⟨name, type, many, nonNullable⟩,
      fun ⟨name, type, many, nonNullable⟩ => ⟨name, type, many, nonNullable⟩⟩

instance (one other : Entity) : Decidable (one.Alike related other) :=
  decidable_of_iff (one.name = other.name ∧
    Option.Rel (Ref.Alike related) one.super other.super ∧
    List.Forall₂ (Feature.Alike related) one.features other.features)
    ⟨fun ⟨name, super, features⟩ => ⟨name, super, features⟩,
      fun ⟨name, super, features⟩ => ⟨name, super, features⟩⟩

instance (one other : DataType) : Decidable (one.Alike related other) :=
  decidable_of_iff (one.name = other.name ∧
    List.Forall₂ (Ref.Alike related) one.members other.members ∧
    one.primitive = other.primitive)
    ⟨fun ⟨name, members, primitive⟩ => ⟨name, members, primitive⟩,
      fun ⟨name, members, primitive⟩ => ⟨name, members, primitive⟩⟩

instance (one other : Enum) : Decidable (one.Alike other) :=
  decidable_of_iff (one.name = other.name ∧
    one.literals.map (·.name) = other.literals.map (·.name))
    ⟨fun ⟨name, literals⟩ => ⟨name, literals⟩, fun ⟨name, literals⟩ => ⟨name, literals⟩⟩

instance TypeDecl.decidableAlike : ∀ decl other, Decidable (TypeDecl.Alike related decl other)
  | .dataType one, .dataType other =>
      decidable_of_iff (one.Alike related other) ⟨.dataType, fun | .dataType same => same⟩
  | .entity one, .entity other =>
      decidable_of_iff (one.Alike related other) ⟨.entity, fun | .entity same => same⟩
  | .enum one, .enum other =>
      decidable_of_iff (one.Alike other) ⟨.enum, fun | .enum same => same⟩
  | .foreign name, .foreign other =>
      decidable_of_iff (name = other) ⟨fun same => same ▸ .foreign name, fun | .foreign _ => rfl⟩
  | .dataType _, .entity _ | .dataType _, .enum _ | .dataType _, .foreign _ => .isFalse nofun
  | .entity _, .dataType _ | .entity _, .enum _ | .entity _, .foreign _ => .isFalse nofun
  | .enum _, .dataType _ | .enum _, .entity _ | .enum _, .foreign _ => .isFalse nofun
  | .foreign _, .dataType _ | .foreign _, .entity _ | .foreign _, .enum _ => .isFalse nofun

instance Element.decidableAlike : ∀ one other, Decidable (Element.Alike related one other)
  | .package name pos inner, .package other place further =>
      decidable_of_iff (name = other)
        ⟨fun same => same ▸ .package name pos place inner further, fun | .package .. => rfl⟩
  | .type decl, .type other =>
      decidable_of_iff (decl.Alike related other) ⟨.type, fun | .type same => same⟩
  | .foreign name, .foreign other =>
      decidable_of_iff (name = other) ⟨fun same => same ▸ .foreign name, fun | .foreign _ => rfl⟩
  | .package .., .type _ | .package .., .foreign _ => .isFalse nofun
  | .type _, .package .. | .type _, .foreign _ => .isFalse nofun
  | .foreign _, .package .. | .foreign _, .type _ => .isFalse nofun

instance (one other : Visit) : Decidable (one.Alike related other) :=
  decidable_of_iff (one.path = other.path ∧ one.element.Alike related other.element)
    ⟨fun ⟨path, element⟩ => ⟨path, element⟩, fun ⟨path, element⟩ => ⟨path, element⟩⟩

end Alike

variable {related : TypeId → TypeId → Prop}

/-- Both references mean a type, or none of them does. -/
theorem Ref.Alike.resolved_or_unresolved {one other : Ref} (alike : one.Alike related other) :
    (∃ id counterpart, one.target = some id ∧ other.target = some counterpart ∧
        related id counterpart) ∨
      one.target = none ∧ other.target = none ∧ one.text = other.text := by
  obtain ⟨target, text⟩ := alike
  generalize one.target = first at target text ⊢
  generalize other.target = second at target ⊢
  cases target with
  | none => exact .inr ⟨rfl, rfl, text rfl⟩
  | some same => exact .inl ⟨_, _, rfl, rfl, same⟩

namespace DataType.Alike

variable {one other : DataType} (alike : one.Alike related other)
include alike

theorem isBuiltin_eq : one.isBuiltin = other.isBuiltin := by
  rw [DataType.isBuiltin, DataType.isBuiltin, alike.primitive]

theorem isUnion_eq : one.isUnion = other.isUnion := by
  rw [DataType.isUnion, DataType.isUnion, isEmpty_eq_of_forall₂ alike.members]

end DataType.Alike

theorem Enum.Alike.isEmpty_eq {one other : Enum} (alike : one.Alike other) :
    one.literals.isEmpty = other.literals.isEmpty := by
  have same := congrArg List.isEmpty alike.literals
  rwa [List.isEmpty_map, List.isEmpty_map] at same

namespace TypeDecl.Alike

variable {decl other : TypeDecl} (alike : decl.Alike related other)
include alike

theorem name_eq : decl.name = other.name := by
  cases alike with
  | dataType same => exact same.name
  | entity same => exact same.name
  | enum same => exact same.name
  | foreign name => rfl

theorem dataType? : Option.Rel (DataType.Alike related) decl.dataType? other.dataType? := by
  cases alike with
  | dataType same => exact .some same
  | entity same => exact .none
  | enum same => exact .none
  | foreign name => exact .none

theorem entity? : Option.Rel (Entity.Alike related) decl.entity? other.entity? := by
  cases alike with
  | dataType same => exact .none
  | entity same => exact .some same
  | enum same => exact .none
  | foreign name => exact .none

/-- Declarations that are alike list corresponding types. -/
theorem targets : List.Forall₂ related decl.targets other.targets := by
  cases alike with
  | dataType same =>
      exact List.rel_filterMap (fun one other means => means.target) same.members
  | entity same => exact .nil
  | enum same => exact .nil
  | foreign name => exact .nil

end TypeDecl.Alike

/-! ## Scopes that correspond -/

/-- Corresponding types of two scopes are declared alike.  A type has at most one counterpart
each way. -/
structure Scope.Corresponds (scope other : Scope) (related : TypeId → TypeId → Prop) : Prop where
  unique : Relator.BiUnique related
  declared : ∀ id counterpart, related id counterpart → ∃ decl image,
    scope.type? id = some decl ∧ other.type? counterpart = some image ∧ decl.Alike related image

namespace Scope.Corresponds

variable {scope other : Scope} (corresponds : scope.Corresponds other related)
include corresponds

theorem type? {id counterpart : TypeId} (same : related id counterpart) :
    Option.Rel (TypeDecl.Alike related) (scope.type? id) (other.type? counterpart) := by
  obtain ⟨decl, image, found, standing, alike⟩ := corresponds.declared id counterpart same
  rw [found, standing]
  exact .some alike

theorem name_eq {id counterpart : TypeId} (same : related id counterpart) :
    (scope.type? id).map (·.name) = (other.type? counterpart).map (·.name) := by
  obtain ⟨decl, image, found, standing, alike⟩ := corresponds.declared id counterpart same
  rw [found, standing, Option.map_some, Option.map_some, alike.name_eq]

/-- A type that is listed has its counterpart listed. -/
theorem mem_targets_iff {id counterpart : TypeId} (same : related id counterpart)
    {decl image : TypeDecl} (alike : decl.Alike related image) :
    id ∈ decl.targets ↔ counterpart ∈ image.targets :=
  List.rel_mem corresponds.unique same alike.targets

theorem isAliasable_eq {id counterpart : TypeId} (same : related id counterpart) :
    scope.isAliasable id = other.isAliasable counterpart := by
  obtain ⟨decl, image, found, standing, alike⟩ := corresponds.declared id counterpart same
  rw [isAliasable, isAliasable, found, standing, Option.bind_some, Option.bind_some]
  have types := alike.dataType?
  generalize decl.dataType? = first at types ⊢
  generalize image.dataType? = second at types ⊢
  cases types with
  | none => rfl
  | some same =>
      rw [Option.any_some, Option.any_some, DataType.isAliasable, DataType.isAliasable,
        same.primitive]

/-- References that mean the same mean declarations that are alike, or nothing. -/
theorem target? {one image : Ref} (alike : one.Alike related image) :
    Option.Rel (TypeDecl.Alike related) (scope.target? one) (other.target? image) := by
  rw [Scope.target?, Scope.target?]
  obtain ⟨id, counterpart, first, second, same⟩ | ⟨first, second, -⟩ :=
    alike.resolved_or_unresolved
  · rw [first, second]
    exact corresponds.type? same
  · rw [first, second]
    exact .none

/-- References that mean the same have the same name in generated code. -/
theorem typeName_eq (builtins : BuiltinNames) {one image : Ref}
    (alike : one.Alike related image) :
    scope.typeName builtins one = other.typeName builtins image := by
  have named : scope.nameOf one = other.nameOf image := by
    obtain ⟨id, counterpart, first, second, same⟩ | ⟨first, second, text⟩ :=
      alike.resolved_or_unresolved
    · obtain ⟨decl, target, found, standing, alike⟩ := corresponds.declared id counterpart same
      simp only [nameOf, Scope.target?, first, second, Option.bind_some, found, standing,
        Option.map_some, Option.getD_some, alike.name_eq]
    · simp only [nameOf, Scope.target?, first, second, Option.bind_none, Option.map_none,
        Option.getD_none, text]
  have means := corresponds.target? alike
  simp only [typeName, Scope.dataType?, named]
  generalize scope.target? one = found at means ⊢
  generalize other.target? image = standing at means ⊢
  cases means with
  | none => rfl
  | some alike =>
      rw [Option.bind_some, Option.bind_some]
      have types := alike.dataType?
      rename_i decl target
      generalize decl.dataType? = first at types ⊢
      generalize target.dataType? = second at types ⊢
      cases types with
      | none => rfl
      | some same => simp only [Option.bind_some, same.isBuiltin_eq, same.primitive]

/-- Entities that are alike extend entities that correspond. -/
theorem superOf? {one image : Entity} (alike : one.Alike related image) :
    Option.Rel (fun first second => related first.1 second.1 ∧ first.2.Alike related second.2)
      (scope.superOf? one) (other.superOf? image) := by
  have means := alike.super
  simp only [Scope.superOf?, Option.bind_eq_bind, Option.pure_def]
  generalize one.super = first at means ⊢
  generalize image.super = second at means ⊢
  cases means with
  | none => exact .none
  | some means =>
      obtain ⟨id, counterpart, first, second, same⟩ | ⟨first, second, -⟩ :=
        means.resolved_or_unresolved
      · obtain ⟨decl, target, found, standing, alike⟩ := corresponds.declared id counterpart same
        simp only [Option.bind_some, first, second, found, standing]
        have types := alike.entity?
        generalize decl.entity? = super at types ⊢
        generalize target.entity? = above at types ⊢
        cases types with
        | none => exact .none
        | some alike => exact .some ⟨same, alike⟩
      · simp only [Option.bind_some, first, second]
        exact .none

/-- A step to a supertype leads to a type that corresponds, from either side. -/
theorem exists_extends {sub counterpart : TypeId} (same : related sub counterpart) :
    (∀ super, scope.Extends sub super →
      ∃ image, other.Extends counterpart image ∧ related super image) ∧
    ∀ image, other.Extends counterpart image →
      ∃ super, scope.Extends sub super ∧ related super image := by
  obtain ⟨decl, target, found, standing, alike⟩ := corresponds.declared sub counterpart same
  constructor
  · rintro super ⟨entity, above, declared, extended⟩
    rw [found] at declared
    cases declared
    cases alike with
    | entity alike =>
        rename_i image
        have supers := corresponds.superOf? alike
        rw [extended] at supers
        generalize reached : other.superOf? image = result at supers
        cases supers with
        | some same => exact ⟨_, ⟨image, _, standing, reached⟩, same.1⟩
  · rintro image ⟨entity, above, declared, extended⟩
    rw [standing] at declared
    cases declared
    cases alike with
    | entity alike =>
        rename_i origin
        have supers := corresponds.superOf? alike
        rw [extended] at supers
        generalize reached : scope.superOf? origin = result at supers
        cases supers with
        | some same => exact ⟨_, ⟨origin, _, found, reached⟩, same.1⟩

/-- Chains of supertypes lead from corresponding types to corresponding types. -/
theorem reaches_iff {sub super counterpart image : TypeId} (same : related sub counterpart)
    (above : related super image) :
    scope.Reaches sub super ↔ other.Reaches counterpart image := by
  constructor
  · intro reached
    obtain ⟨final, arrived, here⟩ : ∃ final, other.Reaches counterpart final ∧
        related super final := by
      clear above
      induction reached with
      | single step =>
          obtain ⟨final, step, here⟩ := (corresponds.exists_extends same).1 _ step
          exact ⟨final, .single step, here⟩
      | tail _ step ih =>
          obtain ⟨middle, arrived, there⟩ := ih
          obtain ⟨final, step, here⟩ := (corresponds.exists_extends there).1 _ step
          exact ⟨final, .tail arrived step, here⟩
    exact corresponds.unique.2 here above ▸ arrived
  · intro reached
    obtain ⟨final, arrived, here⟩ : ∃ final, scope.Reaches sub final ∧ related final image := by
      clear above
      induction reached with
      | single step =>
          obtain ⟨final, step, here⟩ := (corresponds.exists_extends same).2 _ step
          exact ⟨final, .single step, here⟩
      | tail _ step ih =>
          obtain ⟨middle, arrived, there⟩ := ih
          obtain ⟨final, step, here⟩ := (corresponds.exists_extends there).2 _ step
          exact ⟨final, .tail arrived step, here⟩
    exact corresponds.unique.1 here above ▸ arrived

/-- Corresponding types are on the chains of corresponding declarations. -/
theorem mem_ancestorsOf_iff {origin counterpart id image : TypeId} {decl target : TypeDecl}
    (found : scope.type? origin = some decl) (standing : other.type? counterpart = some target)
    (same : related origin counterpart) (above : related id image) :
    id ∈ scope.ancestorsOf origin decl ↔ image ∈ other.ancestorsOf counterpart target := by
  rw [Scope.mem_ancestorsOf_iff found, Scope.mem_ancestorsOf_iff standing,
    corresponds.reaches_iff same above]
  apply and_congr_right
  intro _
  apply not_congr
  constructor
  · rintro rfl
    exact corresponds.unique.2 above same
  · rintro rfl
    exact corresponds.unique.1 above same

end Scope.Corresponds

end DomainGen
