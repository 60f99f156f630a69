import DomainGen.Proofs.Model.References

/-!
# Models without places

`unplaced` takes out of a model where its parts were read, and leaves the rest.
Two models are the same up to places when they are equal without them.

Nothing else depends on places: visiting a model without places gives the same
visits without places, and so on for what is read off a model and for changes
of its references.
-/

namespace DomainGen

/-! ## Taking out the places -/

/-- The reference without its place. -/
def Ref.unplaced (ref : Ref) : Ref := { ref with pos := {} }

/-- The feature without places. -/
def Feature.unplaced (feature : Feature) : Feature :=
  { feature with type := feature.type.unplaced, pos := {} }

/-- The entity without places. -/
def Entity.unplaced (type : Entity) : Entity :=
  { type with
    super := type.super.map (·.unplaced)
    features := type.features.map (·.unplaced)
    pos := {} }

/-- The datatype without places. -/
def DataType.unplaced (type : DataType) : DataType :=
  { type with members := type.members.map (·.unplaced), pos := {} }

/-- The literal without its place. -/
def Literal.unplaced (literal : Literal) : Literal := { literal with pos := {} }

/-- The enum without places. -/
def Enum.unplaced (type : Enum) : Enum :=
  { type with literals := type.literals.map (·.unplaced), pos := {} }

/-- The declaration without places. -/
def TypeDecl.unplaced : TypeDecl → TypeDecl
  | dataType type => dataType type.unplaced
  | entity type => entity type.unplaced
  | enum type => enum type.unplaced
  | foreign name => foreign name

mutual

/-- The element without places. -/
def Element.unplaced : Element → Element
  | .package name _ elements => .package name {} (unplacedIn elements)
  | .type decl => .type decl.unplaced
  | .foreign name => .foreign name

/-- The elements without places. -/
def unplacedIn : List Element → List Element
  | [] => []
  | element :: rest => element.unplaced :: unplacedIn rest

end

/-- The model without places, that of its file included. -/
def Definitions.unplaced (defs : Definitions) : Definitions :=
  { source := "", elements := unplacedIn defs.elements }

/-! ## Declarations -/

@[simp] theorem Ref.text_unplaced (ref : Ref) : ref.unplaced.text = ref.text := rfl

@[simp] theorem Ref.target_unplaced (ref : Ref) : ref.unplaced.target = ref.target := rfl

@[simp] theorem DataType.name_unplaced (type : DataType) : type.unplaced.name = type.name := rfl

@[simp] theorem DataType.primitive_unplaced (type : DataType) :
    type.unplaced.primitive = type.primitive := rfl

@[simp] theorem DataType.isBuiltin_unplaced (type : DataType) :
    type.unplaced.isBuiltin = type.isBuiltin := rfl

@[simp] theorem DataType.isAliasable_unplaced (type : DataType) :
    type.unplaced.isAliasable = type.isAliasable := rfl

@[simp] theorem DataType.isUnion_unplaced (type : DataType) :
    type.unplaced.isUnion = type.isUnion := by
  simp [DataType.isUnion, DataType.unplaced]

@[simp] theorem Entity.name_unplaced (type : Entity) : type.unplaced.name = type.name := rfl

@[simp] theorem Enum.name_unplaced (type : Enum) : type.unplaced.name = type.name := rfl

theorem Enum.names_unplaced (type : Enum) :
    type.unplaced.literals.map (·.name) = type.literals.map (·.name) := by
  rw [Enum.unplaced, List.map_map]
  rfl

theorem Enum.isEmpty_unplaced (type : Enum) :
    type.unplaced.literals.isEmpty = type.literals.isEmpty := by
  rw [Enum.unplaced, List.isEmpty_map]

namespace TypeDecl

variable (decl : TypeDecl)

@[simp] theorem name_unplaced : decl.unplaced.name = decl.name := by
  cases decl <;> rfl

@[simp] theorem isEntity_unplaced : decl.unplaced.isEntity = decl.isEntity := by
  cases decl <;> rfl

@[simp] theorem entity?_unplaced : decl.unplaced.entity? = decl.entity?.map (·.unplaced) := by
  cases decl <;> rfl

@[simp] theorem dataType?_unplaced :
    decl.unplaced.dataType? = decl.dataType?.map (·.unplaced) := by
  cases decl <;> rfl

theorem refs_unplaced :
    decl.unplaced.refs = decl.refs.map fun (use, ref) => (use, ref.unplaced) := by
  cases decl with
  | dataType type => simp [unplaced, DataType.unplaced, refs]
  | entity type =>
      cases super : type.super with
      | none => simp [unplaced, Entity.unplaced, refs, super, Feature.unplaced]
      | some ref => simp [unplaced, Entity.unplaced, refs, super, Feature.unplaced]
  | enum type => rfl
  | foreign name => rfl

/-- A change of references that does not look at places commutes with taking them
out. -/
theorem unplaced_mapRefs (change : RefUse → Ref → Ref)
    (blind : ∀ use ref, (change use ref).unplaced = change use ref.unplaced) :
    (decl.mapRefs change).unplaced = decl.unplaced.mapRefs change := by
  cases decl with
  | dataType type => simp [mapRefs, unplaced, DataType.unplaced, blind]
  | entity type =>
      cases super : type.super with
      | none => simp [mapRefs, unplaced, Entity.unplaced, Feature.unplaced, super, blind]
      | some ref => simp [mapRefs, unplaced, Entity.unplaced, Feature.unplaced, super, blind]
  | enum type => rfl
  | foreign name => rfl

end TypeDecl

/-! ## Models -/

/-- The visit without the places in its element. -/
def Visit.unplaced (visit : Visit) : Visit := ⟨visit.path, visit.element.unplaced⟩

theorem Element.decl?_unplaced (element : Element) :
    element.unplaced.decl? = element.decl?.map (·.unplaced) := by
  cases element with
  | package name pos elements => rw [Element.unplaced]; rfl
  | type decl => rw [Element.unplaced]; rfl
  | foreign name => rw [Element.unplaced]; rfl

mutual

theorem Element.visits_unplaced (path : List String) (element : Element) :
    element.unplaced.visits path = (element.visits path).map (·.unplaced) := by
  cases element with
  | package name pos elements =>
      rw [Element.unplaced, Element.visits, Element.visits, visitsIn_unplacedIn, List.map_cons,
        Visit.unplaced, Element.unplaced]
  | type decl => simp [Element.unplaced, Element.visits, Visit.unplaced]
  | foreign name => simp [Element.unplaced, Element.visits, Visit.unplaced]

theorem visitsIn_unplacedIn (path : List String) (elements : List Element) :
    visitsIn path (unplacedIn elements) = (visitsIn path elements).map (·.unplaced) := by
  cases elements with
  | nil => rfl
  | cons element elements =>
      rw [unplacedIn, visitsIn, visitsIn, List.map_append, Element.visits_unplaced,
        visitsIn_unplacedIn]

end

mutual

theorem Element.unplaced_mapRefs (change : List String → RefUse → Ref → Ref)
    (blind : ∀ path use ref, (change path use ref).unplaced = change path use ref.unplaced)
    (path : List String) (element : Element) :
    (element.mapRefs change path).unplaced = element.unplaced.mapRefs change path := by
  cases element with
  | package name pos elements =>
      simp only [Element.mapRefs, Element.unplaced]
      rw [unplacedIn_mapRefsIn change blind]
  | type decl =>
      simp only [Element.mapRefs, Element.unplaced]
      rw [decl.unplaced_mapRefs _ (blind path)]
  | foreign name => simp [Element.mapRefs, Element.unplaced]

theorem unplacedIn_mapRefsIn (change : List String → RefUse → Ref → Ref)
    (blind : ∀ path use ref, (change path use ref).unplaced = change path use ref.unplaced)
    (path : List String) (elements : List Element) :
    unplacedIn (mapRefsIn change path elements) = mapRefsIn change path (unplacedIn elements) := by
  cases elements with
  | nil => rfl
  | cons element elements =>
      rw [mapRefsIn, unplacedIn, unplacedIn, mapRefsIn,
        Element.unplaced_mapRefs change blind, unplacedIn_mapRefsIn change blind]

end

namespace Definitions

variable (defs : Definitions)

theorem visits_unplaced : defs.unplaced.visits = defs.visits.map (·.unplaced) :=
  visitsIn_unplacedIn [] defs.elements

theorem locatedTypes_unplaced :
    defs.unplaced.locatedTypes =
      defs.locatedTypes.map fun (path, decl) => (path, decl.unplaced) := by
  simp only [locatedTypes, visits_unplaced, List.filterMap_map, List.map_filterMap]
  congr 1
  funext visit
  simp [Visit.unplaced, Element.decl?_unplaced, Function.comp_def]

theorem types_unplaced : defs.unplaced.types = defs.types.map (·.unplaced) := by
  rw [types, locatedTypes_unplaced, types, List.map_map, List.map_map]
  rfl

theorem unplaced_mapRefs (change : List String → RefUse → Ref → Ref)
    (blind : ∀ path use ref, (change path use ref).unplaced = change path use ref.unplaced) :
    (defs.mapRefs change).unplaced = defs.unplaced.mapRefs change := by
  simp only [unplaced, mapRefs]
  rw [unplacedIn_mapRefsIn change blind]

theorem unresolvedRefs_unplaced :
    defs.unplaced.unresolvedRefs =
      defs.unresolvedRefs.map fun (use, ref) => (use, ref.unplaced) := by
  simp only [unresolvedRefs, refs, types_unplaced, List.flatMap_map, TypeDecl.refs_unplaced,
    ← List.map_flatMap, List.filter_map]
  rfl

end Definitions

end DomainGen
