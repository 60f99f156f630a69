import DomainGen.Model.Primitive
import DomainGen.Text.Segments

/-!
# Domain models

A model is a forest of elements: packages nest further elements, and type
declarations (entities, datatypes and enums) are the leaves.

A reference keeps the name as written.  When it is resolved it also holds the
*position* of the declaration it means: the number of the document and the
number of the type in it, counted in declaration order.  Positions, rather
than names, tell equally named declarations apart.
-/

namespace DomainGen

/-- A place in a source text: line and column counted from one, zero when the
place is unknown. -/
structure Position where
  line : Nat := 0
  column : Nat := 0
  deriving Repr, DecidableEq, Inhabited

/-- The position of a type declaration: the `index`-th type of the `document`-th
document. -/
structure TypeId where
  document : Nat
  index : Nat
  deriving Repr, DecidableEq, Inhabited

/-- A reference to a type by name. -/
structure Ref where
  text : String
  pos : Position := {}
  target : Option TypeId := none
  deriving Repr, DecidableEq, Inhabited

/-- Whether the reference has a target. -/
def Ref.isResolved (ref : Ref) : Bool := ref.target.isSome

/-- A named, typed field of an entity. -/
structure Feature where
  name : String
  type : Ref
  many : Bool := false
  nonNullable : Bool := false
  pos : Position := {}
  deriving Repr, DecidableEq, Inhabited

/-- A record type with at most one supertype. -/
structure Entity where
  name : String
  super : Option Ref := none
  features : List Feature := []
  pos : Position := {}
  deriving Repr, DecidableEq, Inhabited

/-- A named type that is a union of its members, or left open when it has
none.  The primitive type it stands for is a mark of its own, which is set by
the name wherever a datatype is read. -/
structure DataType where
  name : String
  members : List Ref := []
  pos : Position := {}
  primitive : Option Primitive := Primitive.classify name
  deriving Repr, DecidableEq, Inhabited

/-- Whether the datatype lists members. -/
def DataType.isUnion (type : DataType) : Bool := !type.members.isEmpty

/-- Whether the datatype is built into every target language. -/
def DataType.isBuiltin (type : DataType) : Bool := type.primitive.any (·.isBuiltin)

/-- Whether a union that lists the datatype offers accessors for it. -/
def DataType.isAliasable (type : DataType) : Bool := type.primitive.any (·.isAliasable)

/-- One value of an enum. -/
structure Literal where
  name : String
  pos : Position := {}
  deriving Repr, DecidableEq, Inhabited

/-- A closed set of named values. -/
structure Enum where
  name : String
  literals : List Literal := []
  pos : Position := {}
  deriving Repr, DecidableEq, Inhabited

/-- A type declaration.  A type of a foreign kind can be named and referred to,
but nothing is known about it. -/
inductive TypeDecl where
  | dataType (type : DataType)
  | entity (type : Entity)
  | enum (type : Enum)
  | foreign (name : String)
  deriving Repr, DecidableEq, Inhabited

namespace TypeDecl

/-- The declared name. -/
def name : TypeDecl → String
  | dataType type => type.name
  | entity type => type.name
  | enum type => type.name
  | foreign name => name

/-- Where the declaration starts; unknown for foreign types. -/
def pos : TypeDecl → Position
  | dataType type => type.pos
  | entity type => type.pos
  | enum type => type.pos
  | foreign _ => {}

/-- Whether the declaration is an entity. -/
def isEntity : TypeDecl → Bool
  | entity _ => true
  | _ => false

/-- The declaration as an entity. -/
def entity? : TypeDecl → Option Entity
  | entity type => some type
  | _ => none

/-- The declaration as a datatype. -/
def dataType? : TypeDecl → Option DataType
  | dataType type => some type
  | _ => none

theorem entity?_eq_some_iff {decl : TypeDecl} {entity : Entity} :
    decl.entity? = some entity ↔ decl = .entity entity := by
  cases decl with
  | entity type => simp [entity?]
  | dataType type => simp [entity?]
  | enum type => simp [entity?]
  | foreign name => simp [entity?]

theorem dataType?_eq_some_iff {decl : TypeDecl} {type : DataType} :
    decl.dataType? = some type ↔ decl = .dataType type := by
  cases decl with
  | entity type => simp [dataType?]
  | dataType type => simp [dataType?]
  | enum type => simp [dataType?]
  | foreign name => simp [dataType?]

/-- The primitive type the declaration stands for: only datatypes have one. -/
def primitive? (decl : TypeDecl) : Option Primitive :=
  decl.dataType?.bind (·.primitive)

/-- Whether the declaration is a datatype with members. -/
def isUnion (decl : TypeDecl) : Bool := decl.dataType?.any (·.isUnion)

end TypeDecl

/-- What a model is made of.  An element of a foreign kind is carried along and
otherwise ignored. -/
inductive Element where
  | package (name : String) (pos : Position) (elements : List Element)
  | type (decl : TypeDecl)
  | foreign (name : String)
  deriving Repr, Inhabited

/-- The name of an element. -/
def Element.name : Element → String
  | package name _ _ => name
  | type decl => decl.name
  | foreign name => name

/-- The type an element declares. -/
def Element.decl? : Element → Option TypeDecl
  | type decl => some decl
  | _ => none

/-- One model: its elements and the file it was read from, if any. -/
structure Definitions where
  source : String := ""
  elements : List Element := []
  deriving Repr, Inhabited

/-- The path of a package inside the package at `parent`: a dotted name stands
for one segment per non-empty part. -/
def packagePath (parent : List String) (name : String) : List String :=
  parent ++ (Text.segments '.' name).filter (· ≠ "")

end DomainGen
