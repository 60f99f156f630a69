import DomainGen.Model.Basic

/-!
# Visiting a model

A model is visited depth first in declaration order, a package before its
elements.  Each visit knows the path of the packages around the element; for a
package that is the path of its parent.

`visits` lists the visits, `walk` performs an action at each of them, and the
remaining functions are filters of the listing.
-/

namespace DomainGen

/-- One element and the path of the packages that enclose it. -/
structure Visit where
  path : List String
  element : Element
  deriving Repr, Inhabited

mutual

/-- Every element at or below an element that lies in the package at `path`. -/
def Element.visits (path : List String) : Element → List Visit
  | .package name pos elements =>
      ⟨path, .package name pos elements⟩ :: visitsIn (packagePath path name) elements
  | .type decl => [⟨path, .type decl⟩]
  | .foreign name => [⟨path, .foreign name⟩]

/-- Every element at or below the elements of the package at `path`. -/
def visitsIn (path : List String) : List Element → List Visit
  | [] => []
  | element :: rest => element.visits path ++ visitsIn path rest

end

mutual

/-- Perform an action at an element and at everything below it. -/
def Element.walk {m : Type → Type} [Monad m] (visit : List String → Element → m Unit)
    (path : List String) : Element → m Unit
  | .package name pos elements => do
      visit path (.package name pos elements)
      walkIn visit (packagePath path name) elements
  | .type decl => visit path (.type decl)
  | .foreign name => visit path (.foreign name)

/-- Perform an action at every element of the package at `path` and below. -/
def walkIn {m : Type → Type} [Monad m] (visit : List String → Element → m Unit)
    (path : List String) : List Element → m Unit
  | [] => pure ()
  | element :: rest => do
      element.walk visit path
      walkIn visit path rest

end

namespace Definitions

/-- Every element of the model in visiting order. -/
def visits (defs : Definitions) : List Visit := visitsIn [] defs.elements

/-- Perform an action at every element of the model. -/
def walk {m : Type → Type} [Monad m] (defs : Definitions)
    (visit : List String → Element → m Unit) : m Unit :=
  walkIn visit [] defs.elements

/-- Every type of the model with the path of its package, in visiting order. -/
def locatedTypes (defs : Definitions) : List (List String × TypeDecl) :=
  defs.visits.filterMap fun visit => visit.element.decl?.map (visit.path, ·)

/-- Every type of the model in visiting order. -/
def types (defs : Definitions) : List TypeDecl := defs.locatedTypes.map (·.2)

/-- Every entity of the model in visiting order. -/
def entities (defs : Definitions) : List Entity := defs.types.filterMap (·.entity?)

/-- Every datatype of the model in visiting order. -/
def dataTypes (defs : Definitions) : List DataType := defs.types.filterMap (·.dataType?)

end Definitions

end DomainGen
