import DomainGen.Model.Document

/-!
# Declared names

Every type is known by its qualified name: the path of its package and its own
name, joined by dots.  When several types share a qualified name, the first
declaration counts.

A reference is looked up from inside its package outward: in the package
itself, then in each enclosing one, and last among the types outside any
package.  A declaration that the reference cannot mean does not end the
search.
-/

namespace DomainGen

/-- A declared type: where it is, and whether it is an entity. -/
structure Declared where
  id : TypeId
  isEntity : Bool
  deriving Repr, DecidableEq, Inhabited

/-- Declared types by qualified name, in order of declaration. -/
abbrev Index := List (String × Declared)

/-- The name of a type in the package at `path`. -/
def qualify (path : List String) (name : String) : String :=
  if path.isEmpty then name else Text.join "." path ++ "." ++ name

/-- A package path and the paths of the packages around it, innermost first. -/
def outward (path : List String) : List (List String) :=
  (List.range (path.length + 1)).reverse.map path.take

namespace Index

/-- The type declared under a qualified name. -/
def find? (index : Index) (name : String) : Option Declared :=
  (List.find? (·.1 == name) index).map (·.2)

/-- The position of the type that a reference inside the package at `path`
means. -/
def lookup (index : Index) (path : List String) (use : RefUse) (text : String) :
    Option TypeId :=
  (outward path).findSome? fun scope =>
    match index.find? (qualify scope text) with
    | some declared => if use.accepts declared.isEntity then some declared.id else none
    | none => none

end Index

/-- The warning about a type whose qualified name is taken. -/
def duplicateWarning (decl : TypeDecl) (name : String) : Diagnostic :=
  .warningAt .semantic decl.pos
    ("Duplicate type name '" ++ name ++ "'; the first declaration wins.")

/-- Declare one type, unless its name is taken. -/
def Index.declare (document : Nat) (state : Index × Document)
    (located : (List String × TypeDecl) × Nat) : Index × Document :=
  let ((path, decl), position) := located
  let (index, doc) := state
  let name := qualify path decl.name
  match index.find? name with
  | some _ => (index, doc.report (duplicateWarning decl name))
  | none => (index ++ [(name, ⟨⟨document, position⟩, decl.isEntity⟩)], doc)

/-- Declare every type of a document, with a warning for each name that is
taken. -/
def Index.declareAll (index : Index) (document : Nat) (doc : Document) : Index × Document :=
  doc.locatedTypes.zipIdx.foldl (Index.declare document) (index, doc)

end DomainGen
