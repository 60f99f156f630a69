import DomainGen.Model.Refs
import DomainGen.Diagnostic

/-!
# Documents

A model with the file it came from and what has been found out about it.
Documents that are linked together form a workspace; the position of a
document in it is part of the position of each of its types.
-/

namespace DomainGen

/-- A model file.  A document can be without a model. -/
structure Document where
  path : String := ""
  definitions : Option Definitions := none
  diagnostics : List Diagnostic := []
  deriving Repr, Inhabited

namespace Document

/-- Record a finding; it concerns this document's file unless it names one. -/
def report (doc : Document) (diagnostic : Diagnostic) : Document :=
  let placed := if diagnostic.file = "" then diagnostic.inFile doc.path else diagnostic
  { doc with diagnostics := doc.diagnostics ++ [placed] }

/-- The findings that leave the model usable. -/
def warnings (doc : Document) : List Diagnostic := doc.diagnostics.filter (·.isWarning)

/-- Every type of the document with the path of its package. -/
def locatedTypes (doc : Document) : List (List String × TypeDecl) :=
  doc.definitions.elim [] (·.locatedTypes)

/-- Every type of the document. -/
def types (doc : Document) : List TypeDecl := doc.definitions.elim [] (·.types)

end Document

/-- The types of every document of a workspace, by position. -/
structure Scope where
  types : Array (Array TypeDecl)
  deriving Repr, Inhabited

namespace Scope

/-- The types of the documents. -/
def ofDocuments (docs : List Document) : Scope :=
  ⟨(docs.map fun doc => doc.types.toArray).toArray⟩

/-- The declaration at a position. -/
def type? (scope : Scope) (id : TypeId) : Option TypeDecl :=
  (scope.types[id.document]?).bind (·[id.index]?)

/-- The positions of all declarations. -/
def ids (scope : Scope) : List TypeId :=
  scope.types.toList.zipIdx.flatMap fun (types, document) =>
    (List.range types.size).map (TypeId.mk document)

/-- The declaration a reference means. -/
def target? (scope : Scope) (ref : Ref) : Option TypeDecl := ref.target.bind scope.type?

/-- The datatype a reference means. -/
def dataType? (scope : Scope) (ref : Ref) : Option DataType :=
  (scope.target? ref).bind (·.dataType?)

/-- The name of what a reference means, else the reference as written. -/
def nameOf (scope : Scope) (ref : Ref) : String :=
  ((scope.target? ref).map (·.name)).getD ref.text

/-- The entity an entity extends, with its position.  There is none when the
supertype did not resolve to an entity. -/
def superOf? (scope : Scope) (entity : Entity) : Option (TypeId × Entity) := do
  let id ← entity.super.bind (·.target)
  let super ← (scope.type? id).bind (·.entity?)
  return (id, super)

end Scope

/-- How many declarations of each kind a model has, and how many of its
references are unresolved. -/
structure Summary where
  packages : Nat
  entities : Nat
  dataTypes : Nat
  enums : Nat
  unresolved : Nat
  deriving Repr, DecidableEq, Inhabited

/-- Count the declarations of a model. -/
def Definitions.summary (defs : Definitions) : Summary where
  packages := defs.visits.countP fun visit => visit.element matches .package ..
  entities := defs.types.countP (· matches .entity _)
  dataTypes := defs.types.countP (· matches .dataType _)
  enums := defs.types.countP (· matches .enum _)
  unresolved := defs.unresolvedRefs.length

end DomainGen
