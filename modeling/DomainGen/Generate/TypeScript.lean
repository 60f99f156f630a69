import DomainGen.Analysis
import DomainGen.Generate.Artifact
import DomainGen.Generate.TypeName

/-!
# TypeScript definitions

One module for the whole model; packages leave no trace.  An entity becomes an
interface with a discriminant that lists the entity and all of its subtypes,
and a factory function.  Unions and enums become type aliases.
-/

namespace DomainGen.TypeScript

/-- How references to built-in types are spelled. -/
def builtins : BuiltinNames
  | .boolean => some "boolean"
  | .byte | .short | .int | .long | .float | .double | .number => some "number"
  | .char | .string => some "string"
  | .object => none

private def indentation : String := "    "

/-- One property of an interface. -/
def renderFeature (scope : Scope) (feature : Feature) : String :=
  let optional := if feature.nonNullable then "" else "?"
  indentation ++ feature.name ++ optional ++ ": " ++ scope.featureType builtins feature ++ ";\n"

/-- The names in the discriminant of an entity: its own, then those of its
subtypes. -/
def discriminant (scope : Scope) (type : Entity) (subtypes : List TypeId) : List String :=
  type.name :: subtypes.filterMap fun id => (scope.type? id).map (·.name)

/-- An entity as an interface. -/
def renderInterface (scope : Scope) (type : Entity) (subtypes : List TypeId) : String :=
  let extension := (scope.superOf? type).elim "" fun (_, super) => " extends " ++ super.name
  "export interface " ++ type.name ++ extension ++ " \x7b\n" ++
    indentation ++ "$type: " ++ quotedUnion (discriminant scope type subtypes) ++ ";\n" ++
    String.join (type.features.map (renderFeature scope)) ++ "\x7d\n"

/-- The factory function of an entity. -/
def renderFactory (type : Entity) : String :=
  let name := type.name
  "export function create" ++ name ++ "(data: Omit<" ++ name ++ ", '$type'>): " ++ name ++
    " \x7b\n" ++ indentation ++ "return \x7b\n" ++
    indentation ++ indentation ++ "$type: '" ++ name ++ "', ...data\n" ++
    indentation ++ "\x7d\n" ++ "\x7d\n"

/-- The alternatives of a union; members with the same spelling appear once. -/
def unionArms (scope : Scope) (type : DataType) : List String :=
  firstOccurrences id (type.members.map (scope.typeName builtins))

/-- A union as a type alias. -/
def renderUnion (scope : Scope) (type : DataType) : String :=
  "export type " ++ type.name ++ " = " ++ Text.join " | " (unionArms scope type) ++ ";\n"

/-- An enum as a union of its literals; without literals it has no values. -/
def renderEnum (type : Enum) : String :=
  let literals := if type.literals.isEmpty then "never"
    else quotedUnion (type.literals.map (·.name))
  "export type " ++ type.name ++ " = " ++ literals ++ ";\n"

/-- The declaration of a type.  Built-in datatypes, datatypes without members and
foreign types have none. -/
def renderType? (scope : Scope) (subtypes : List TypeId) : TypeDecl → Option String
  | .entity type => some (renderInterface scope type subtypes ++ "\n" ++ renderFactory type)
  | .dataType type =>
      if type.isBuiltin || !type.isUnion then none else some (renderUnion scope type)
  | .enum type => some (renderEnum type)
  | .foreign _ => none

/-- The declarations of a model in order. -/
def declarations (scope : Scope) (document : Nat) (defs : Definitions) : List String :=
  let subtypes := subtypes scope document defs
  defs.types.zipIdx.filterMap fun (decl, index) =>
    renderType? scope (subtypes.of ⟨document, index⟩) decl

/-- The text of the module: the declarations, separated by blank lines. -/
def renderModule (scope : Scope) (document : Nat) (defs : Definitions) : String :=
  Text.join "\n" (declarations scope document defs)

/-- The name of the module: that of the source file, or a fixed one when the
model has no source. -/
def moduleName (options : GenerateOptions) : String :=
  let name := outputName options.source
  if name = "" || name = "." then "definitions" else name

/-- The module of the model at position `document` of the scope. -/
def generate (scope : Scope) (document : Nat) (defs : Definitions)
    (options : GenerateOptions) : List Artifact :=
  [.file (moduleName options ++ ".ts") (renderModule scope document defs)]

end DomainGen.TypeScript
