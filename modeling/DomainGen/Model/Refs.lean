import DomainGen.Model.Walk

/-!
# References of a model

The references of a model in visiting order (the members of a datatype; the
supertype of an entity, then the types of its features), and the change of all
of them at once.
-/

namespace DomainGen

/-- What a reference is for.  A supertype has to be an entity; a member of a
union or the type of a feature can be any type. -/
inductive RefUse where
  | anyType
  | supertype
  deriving Repr, DecidableEq, Inhabited

/-- The word for what a reference is meant to name. -/
def RefUse.word : RefUse → String
  | anyType => "Type"
  | supertype => "Entity"

/-- Whether a reference can mean a declaration, given whether that is an
entity. -/
def RefUse.accepts (use : RefUse) (isEntity : Bool) : Bool :=
  match use with
  | anyType => true
  | supertype => isEntity

namespace TypeDecl

/-- The references of a declaration. -/
def refs : TypeDecl → List (RefUse × Ref)
  | dataType type => type.members.map (.anyType, ·)
  | entity type =>
      type.super.toList.map (.supertype, ·) ++ type.features.map (.anyType, ·.type)
  | enum _ => []
  | foreign _ => []

/-- Change the references of a declaration. -/
def mapRefs (change : RefUse → Ref → Ref) : TypeDecl → TypeDecl
  | dataType type => dataType { type with members := type.members.map (change .anyType) }
  | entity type =>
      entity { type with
        super := type.super.map (change .supertype)
        features := type.features.map fun feature =>
          { feature with type := change .anyType feature.type } }
  | enum type => enum type
  | foreign name => foreign name

end TypeDecl

mutual

/-- Change the references at and below an element of the package at `path`. -/
def Element.mapRefs (change : List String → RefUse → Ref → Ref) (path : List String) :
    Element → Element
  | .package name pos elements =>
      .package name pos (mapRefsIn change (packagePath path name) elements)
  | .type decl => .type (decl.mapRefs (change path))
  | .foreign name => .foreign name

/-- Change the references at and below the elements of the package at `path`. -/
def mapRefsIn (change : List String → RefUse → Ref → Ref) (path : List String) :
    List Element → List Element
  | [] => []
  | element :: rest => element.mapRefs change path :: mapRefsIn change path rest

end

namespace Definitions

/-- The references of a model in visiting order. -/
def refs (defs : Definitions) : List (RefUse × Ref) := defs.types.flatMap (·.refs)

/-- The references of a model that have no target. -/
def unresolvedRefs (defs : Definitions) : List (RefUse × Ref) :=
  defs.refs.filter fun (_, ref) => !ref.isResolved

/-- Change every reference of a model. -/
def mapRefs (defs : Definitions) (change : List String → RefUse → Ref → Ref) : Definitions :=
  { defs with elements := mapRefsIn change [] defs.elements }

end Definitions

end DomainGen
