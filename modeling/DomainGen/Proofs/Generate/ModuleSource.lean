import DomainGen.Generate.TypeScript
import DomainGen.Proofs.Text.Dotted

/-!
# The syntax of generated modules

A generated module as a list of items: interfaces, factory functions and type aliases.
The text of a module is that of its items with blank lines between them
(`renderModule_eq`), so that what it declares, and how, can be read off the items.
-/

namespace DomainGen.TypeScript

/-- A property of an interface: its name, whether it can be left out, and its type, of
which it can hold many values. -/
structure PropertySource where
  name : String
  optional : Bool
  type : String
  many : Bool
  deriving Repr, DecidableEq

/-- A property as it is written. -/
def PropertySource.text (source : PropertySource) : String :=
  "    " ++ source.name ++ (if source.optional then "?" else "") ++ ": " ++
    (if source.many then source.type ++ "[]" else source.type) ++ ";\n"

/-- An interface. -/
structure InterfaceSource where
  name : String
  /-- The interface it extends, if there is one. -/
  super : Option String
  /-- The names that its discriminant lists. -/
  literals : List String
  properties : List PropertySource
  deriving Repr, DecidableEq

/-- An interface as it is written. -/
def InterfaceSource.text (source : InterfaceSource) : String :=
  "export interface " ++ source.name ++ source.super.elim "" (" extends " ++ ·) ++ " \x7b\n" ++
    "    " ++ "$type: " ++ quotedUnion source.literals ++ ";\n" ++
    String.join (source.properties.map (·.text)) ++ "\x7d\n"

/-- A declaration of a module. -/
inductive Item where
  | interface (source : InterfaceSource)
  /-- The function that creates values of the interface of the given name. -/
  | factory (name : String)
  /-- A name for a union of alternatives. -/
  | typeAlias (name : String) (arms : List String)
  deriving Repr, DecidableEq

/-- A declaration as it is written. -/
def Item.text : Item → String
  | interface source => source.text
  | factory name =>
      "export function create" ++ name ++ "(data: Omit<" ++ name ++ ", '$type'>): " ++ name ++
        " \x7b\n" ++ "    " ++ "return \x7b\n" ++ "    " ++ "    " ++ "$type: '" ++ name ++
        "', ...data\n" ++ "    " ++ "\x7d\n" ++ "\x7d\n"
  | typeAlias name arms => "export type " ++ name ++ " = " ++ Text.join " | " arms ++ ";\n"

/-! ## The items of a model -/

/-- The property for a feature. -/
def PropertySource.ofFeature (scope : Scope) (feature : Feature) : PropertySource where
  name := feature.name
  optional := !feature.nonNullable
  type := scope.typeName builtins feature.type
  many := feature.many

/-- The interface of an entity with the given subtypes. -/
def InterfaceSource.ofEntity (scope : Scope) (subtypes : List TypeId) (type : Entity) :
    InterfaceSource where
  name := type.name
  super := (scope.superOf? type).map (·.2.name)
  literals := discriminant scope type subtypes
  properties := type.features.map (.ofFeature scope)

/-- The alternatives of an enum: its literals in quotes, or a type without values. -/
def enumArms (type : Enum) : List String :=
  if type.literals.isEmpty then ["never"]
  else type.literals.map fun literal => "'" ++ literal.name ++ "'"

/-- The items for a type with the given subtypes. -/
def itemsOf (scope : Scope) (subtypes : List TypeId) : TypeDecl → List Item
  | .entity type => [.interface (.ofEntity scope subtypes type), .factory type.name]
  | .dataType type =>
      if type.isBuiltin || !type.isUnion then []
      else [.typeAlias type.name (unionArms scope type)]
  | .enum type => [.typeAlias type.name (enumArms type)]
  | .foreign _ => []

/-- The items of the module for the model at position `document` of the scope. -/
def items (scope : Scope) (document : Nat) (defs : Definitions) : List Item :=
  defs.types.zipIdx.flatMap fun indexed =>
    itemsOf scope ((subtypes scope document defs).of ⟨document, indexed.2⟩) indexed.1

section Text

variable (scope : Scope) (subtypes : List TypeId)

theorem text_property (feature : Feature) :
    (PropertySource.ofFeature scope feature).text = renderFeature scope feature := by
  unfold renderFeature PropertySource.text PropertySource.ofFeature
  cases feature.nonNullable with
  | false => rfl
  | true => rfl

theorem text_interface (type : Entity) :
    (InterfaceSource.ofEntity scope subtypes type).text = renderInterface scope type subtypes := by
  have properties : (type.features.map (PropertySource.ofFeature scope)).map (·.text) =
      type.features.map (renderFeature scope) := by
    rw [List.map_map]
    exact List.map_congr_left fun feature _ => text_property scope feature
  unfold renderInterface InterfaceSource.text InterfaceSource.ofEntity
  rw [properties]
  cases scope.superOf? type with
  | none => rfl
  | some super => rfl

theorem text_factory (type : Entity) : (Item.factory type.name).text = renderFactory type := rfl

theorem text_enum (type : Enum) :
    "export type " ++ type.name ++ " = " ++ Text.join " | " (enumArms type) ++ ";\n" =
      renderEnum type := by
  unfold renderEnum enumArms quotedUnion
  cases type.literals with
  | nil => rfl
  | cons first rest =>
      simp only [List.isEmpty_cons, Bool.false_eq_true, if_false, List.map_map, Function.comp_def]

/-- The declaration of a type is made of its items.  Without items there is none. -/
theorem renderType?_eq (decl : TypeDecl) :
    renderType? scope subtypes decl =
      if itemsOf scope subtypes decl = [] then none
      else some (Text.join "\n" ((itemsOf scope subtypes decl).map Item.text)) := by
  have single : ∀ text, Text.join "\n" [text] = text := fun text => String.intercalate_singleton
  cases decl with
  | entity type =>
      have parts : Text.join "\n" [renderInterface scope type subtypes, renderFactory type] =
          renderInterface scope type subtypes ++ "\n" ++ renderFactory type := by
        rw [Text.join, String.intercalate_cons_cons, String.intercalate_singleton]
      have items : (itemsOf scope subtypes (.entity type)).map Item.text =
          [renderInterface scope type subtypes, renderFactory type] := by
        rw [← text_interface, ← text_factory]
        rfl
      have some : itemsOf scope subtypes (.entity type) ≠ [] := List.cons_ne_nil _ _
      rw [if_neg some, items, parts]
      rfl
  | dataType type =>
      rw [itemsOf, renderType?]
      split
      · rfl
      · rw [if_neg (by simp), List.map_singleton, single]
        rfl
  | enum type =>
      rw [itemsOf, renderType?, if_neg (by simp), List.map_singleton, single, ← text_enum]
      rfl
  | foreign name => rfl

end Text

/-- Joining the joins of some groups is joining all of their parts, as long as no group is
empty. -/
theorem join_flatten (separator : String) {groups : List (List String)}
    (filled : ∀ group ∈ groups, group ≠ []) :
    Text.join separator groups.flatten =
      Text.join separator (groups.map (Text.join separator)) := by
  induction groups with
  | nil => rfl
  | cons group groups ih =>
      have some : group ≠ [] := filled group List.mem_cons_self
      have rest := ih fun group member => filled group (List.mem_cons_of_mem _ member)
      cases groups with
      | nil => simp [Text.join]
      | cons next groups =>
          have more : (next :: groups).flatten ≠ [] := by
            simp [filled next (by simp)]
          rw [List.flatten_cons, Text.join, String.intercalate_append_of_ne_nil some more,
            ← Text.join, ← Text.join, rest]
          exact String.intercalate_cons_cons.symm

/-- The same holds where the groups that are empty are left out. -/
theorem join_filterMap {α : Type} (separator : String) (entries : List α)
    (parts : α → List String) :
    Text.join separator (entries.filterMap fun entry =>
        if parts entry = [] then none else some (Text.join separator (parts entry))) =
      Text.join separator (entries.flatMap parts) := by
  have groups : (entries.filterMap fun entry =>
      if parts entry = [] then none else some (Text.join separator (parts entry))) =
        ((entries.map parts).filter (· ≠ [])).map (Text.join separator) := by
    induction entries with
    | nil => rfl
    | cons entry entries ih =>
        by_cases none : parts entry = []
        · simpa [none] using ih
        · simpa [none] using ih
  have filled : ∀ group ∈ (entries.map parts).filter (· ≠ []), group ≠ [] := by
    intro group member
    simpa using (List.mem_filter.mp member).2
  rw [groups, ← join_flatten separator filled, List.flatten_filter_ne_nil, List.flatMap]

/-- The text of a module is that of its items, with blank lines between them. -/
theorem renderModule_eq (scope : Scope) (document : Nat) (defs : Definitions) :
    renderModule scope document defs =
      Text.join "\n" ((items scope document defs).map Item.text) := by
  have groups := join_filterMap "\n" defs.types.zipIdx fun indexed =>
    (itemsOf scope ((subtypes scope document defs).of ⟨document, indexed.2⟩) indexed.1).map
      Item.text
  rw [renderModule, declarations, items, List.map_flatMap, ← groups]
  simp only [renderType?_eq, List.map_eq_nil_iff]

end DomainGen.TypeScript
