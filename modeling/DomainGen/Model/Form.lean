import DomainGen.Data.Json
import DomainGen.Diagnostic
import DomainGen.Model.Basic
import DomainGen.Yaml.Writer

/-!
# Models as data

The form in which a model is written in data formats.  An element is a record
with one key for its kind, whose value is its name, and keys for what belongs
to the kind.  A field that is empty is left out.

`formsOf` gives the form of a model, and `elementsOf` reads a form back.  A
form can hold any combination of keys; it stands for an element when exactly
one of the four kinds is given and every feature has a name and a type.
-/

namespace DomainGen

/-- A feature as data. -/
structure FeatureForm where
  name : String := ""
  type : String := ""
  many : Bool := false
  nonNullable : Bool := false
  deriving Repr, DecidableEq, Inhabited

/-- An element as data, and where it was read. -/
structure ElementForm where
  package : String := ""
  dataType : String := ""
  entity : String := ""
  enum : String := ""
  elements : List ElementForm := []
  members : List String := []
  super : String := ""
  features : List FeatureForm := []
  literals : List String := []
  pos : Position := {}
  deriving Repr, Inhabited

mutual

/-- The form of an element; elements of a foreign kind have none. -/
def Element.form? : Element → Option ElementForm
  | .package name _ elements => some { package := name, elements := formsOf elements }
  | .type (.dataType type) =>
      some { dataType := type.name, members := type.members.map (·.text) }
  | .type (.entity type) =>
      some {
        entity := type.name
        super := (type.super.map (·.text)).getD ""
        features := type.features.map fun feature =>
          ⟨feature.name, feature.type.text, feature.many, feature.nonNullable⟩ }
  | .type (.enum type) => some { enum := type.name, literals := type.literals.map (·.name) }
  | .type (.foreign _) => none
  | .foreign _ => none

/-- The forms of elements. -/
def formsOf : List Element → List ElementForm
  | [] => []
  | element :: rest =>
      match element.form? with
      | some form => form :: formsOf rest
      | none => formsOf rest

end

/-- Why a form does not stand for an element. -/
inductive FormFault where
  /-- The kinds that are given, where there should be one. -/
  | kinds (found : List String)
  /-- A feature of this entity lacks a name or a type. -/
  | incompleteFeature (entity : String)
  deriving Repr, DecidableEq, Inhabited

/-- A fault of a form as a diagnostic. -/
def FormFault.diagnostic (fault : FormFault) (pos : Position) : Diagnostic :=
  match fault with
  | kinds found =>
      { Diagnostic.malformedAt pos
          ("element must have exactly one of package, datatype, entity or enum (found " ++
            toString found.length ++ ")") with
        token := Text.join ", " found }
  | incompleteFeature entity =>
      .malformedAt pos ("feature of entity " ++ entity ++ " needs a name and a type")

namespace ElementForm

/-- The kinds that a form gives, in alphabetical order. -/
def kinds (form : ElementForm) : List String :=
  [("datatype", form.dataType), ("entity", form.entity), ("enum", form.enum),
    ("package", form.package)].filterMap fun (kind, name) =>
      if name = "" then none else some kind

/-- The features of an entity at `pos`. -/
def featuresAt (pos : Position) (entity : String) (forms : List FeatureForm) :
    Except (FormFault × Position) (List Feature) :=
  forms.mapM fun form =>
    if form.name = "" || form.type = "" then .error (.incompleteFeature entity, pos)
    else .ok ⟨form.name, ⟨form.type, pos, none⟩, form.many, form.nonNullable, pos⟩

/-- The type that a form other than a package stands for. -/
def decl (form : ElementForm) : Except (FormFault × Position) TypeDecl :=
  match form.kinds with
  | ["datatype"] =>
      .ok (.dataType {
        name := form.dataType, members := form.members.map (⟨·, form.pos, none⟩), pos := form.pos })
  | ["entity"] => do
      let super := if form.super = "" then none else some ⟨form.super, form.pos, none⟩
      let features ← featuresAt form.pos form.entity form.features
      return .entity ⟨form.entity, super, features, form.pos⟩
  | ["enum"] => .ok (.enum ⟨form.enum, form.literals.map (⟨·, form.pos⟩), form.pos⟩)
  | kinds => .error (.kinds kinds, form.pos)

end ElementForm

mutual

/-- The element that a form stands for. -/
def ElementForm.element : ElementForm → Except (FormFault × Position) Element
  | ⟨package, dataType, entity, enum, elements, members, super, features, literals, pos⟩ =>
      let form : ElementForm :=
        ⟨package, dataType, entity, enum, elements, members, super, features, literals, pos⟩
      match form.kinds with
      | ["package"] => do
          let inner ← elementsOf elements
          return .package package pos inner
      | _ => do
          let decl ← form.decl
          return .type decl

/-- The elements that forms stand for, or the first fault. -/
def elementsOf : List ElementForm → Except (FormFault × Position) (List Element)
  | [] => .ok []
  | form :: rest => do
      let element ← form.element
      let elements ← elementsOf rest
      return element :: elements

end

/-- A feature form as a data tree. -/
def FeatureForm.data (form : FeatureForm) : Data :=
  .record ([("name", .text form.name), ("type", .text form.type)] ++
    Data.flagField "many" form.many ++ Data.flagField "nonNullable" form.nonNullable)

mutual

/-- An element form as a data tree. -/
def ElementForm.data : ElementForm → Data
  | ⟨package, dataType, entity, enum, elements, members, super, features, literals, _⟩ =>
      .record (Data.textField "package" package ++ Data.textField "datatype" dataType ++
        Data.textField "entity" entity ++ Data.textField "enum" enum ++
        Data.listField "elements" (formsData elements) ++
        Data.listField "members" (members.map .text) ++ Data.textField "extends" super ++
        Data.listField "features" (features.map (·.data)) ++
        Data.listField "literals" (literals.map .text))

/-- Element forms as data trees. -/
def formsData : List ElementForm → List Data
  | [] => []
  | form :: rest => form.data :: formsData rest

end

/-- A model as a data tree. -/
def Definitions.data (defs : Definitions) : Data :=
  .record [("elements", .list (formsData (formsOf defs.elements)))]

/-- A model as a YAML document. -/
def Definitions.toYaml (defs : Definitions) : String := defs.data.toYaml 2

/-- A model as a JSON document. -/
def Definitions.toJson (defs : Definitions) : String := defs.data.toJson ++ "\n"

end DomainGen
