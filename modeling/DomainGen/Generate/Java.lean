import DomainGen.Analysis
import DomainGen.Generate.Artifact
import DomainGen.Generate.TypeName

/-!
# Java sources

One file per type in directories that follow the packages.  A datatype becomes
a marker interface that its member entities implement, an enum an enum, and an
entity a class with a private field and accessors for each feature.

A feature whose type is a union with primitive members is stored as an object.
It has one more setter and one more getter for each such member.
-/

namespace DomainGen.Java

/-- The reference type for a primitive. -/
def boxedName : Primitive → String
  | .boolean => "Boolean"
  | .byte => "Byte"
  | .char => "Character"
  | .short => "Short"
  | .int => "Integer"
  | .long => "Long"
  | .float => "Float"
  | .double => "Double"
  | .number => "Number"
  | .string => "String"
  | .object => "Object"

/-- How references to built-in types are spelled. -/
def builtins : BuiltinNames := fun primitive => some (boxedName primitive)

private def margin : String := "    "

/-- The type that stands for a primitive member of a union. -/
def aliasType (type : DataType) : String := (type.primitive.map boxedName).getD type.name

/-- What is rendered for one feature. -/
structure Accessors where
  /-- The name of the feature. -/
  name : String
  /-- Its name with a capital. -/
  capitalized : String
  /-- Its type, with array brackets when it holds many values. -/
  type : String
  /-- The primitive members of its union, one for each distinct type. -/
  aliases : List DataType
  deriving Repr, DecidableEq, Inhabited

namespace Accessors

/-- Collect what is rendered for a feature. -/
def ofFeature (scope : Scope) (analysis : Analysis) (feature : Feature) : Accessors where
  name := feature.name
  capitalized := Text.upperFirst feature.name
  type := scope.featureType builtins feature
  aliases :=
    let ids := match feature.type.target, scope.dataType? feature.type with
      | some target, some _ => analysis.aliasesOf.of target
      | _, _ => []
    firstOccurrences aliasType
      (ids.filterMap fun id => (scope.type? id).bind (·.dataType?))

/-- The declared type of the field. -/
def fieldType (accessors : Accessors) : String :=
  if accessors.aliases.isEmpty then accessors.type else "Object"

end Accessors

/-- A method of one statement. -/
structure Method where
  result : String
  name : String
  /-- The type and name of the parameter, if there is one. -/
  parameter : Option (String × String) := none
  statement : String
  deriving Repr, DecidableEq, Inhabited

/-- The text of a method as a member of a class. -/
def Method.render (method : Method) : String :=
  let parameter := method.parameter.elim "" fun (type, name) => type ++ " " ++ name
  margin ++ "public " ++ method.result ++ " " ++ method.name ++ "(" ++ parameter ++ ") \x7b\n" ++
    margin ++ margin ++ method.statement ++ "\n" ++ margin ++ "\x7d\n"

namespace Accessors

/-- The method that stores a value of a type. -/
def setter (accessors : Accessors) (type : String) : Method where
  result := "void"
  name := "set" ++ accessors.capitalized
  parameter := some (type, accessors.name)
  statement := "this." ++ accessors.name ++ " = " ++ accessors.name ++ ";"

/-- The method that returns the value. -/
def getter (accessors : Accessors) : Method where
  result := accessors.type
  name := "get" ++ accessors.capitalized
  statement :=
    let cast := if accessors.aliases.isEmpty then "" else "(" ++ accessors.type ++ ") "
    "return " ++ cast ++ "this." ++ accessors.name ++ ";"

/-- The method that returns the value if it is of an alias type. -/
def aliasGetter (accessors : Accessors) (type : DataType) : Method where
  result := aliasType type
  name := "get" ++ accessors.capitalized ++ "As" ++ Text.upperFirst type.name
  statement :=
    let field := "this." ++ accessors.name
    let boxed := aliasType type
    "return " ++ field ++ " instanceof " ++ boxed ++ " ? (" ++ boxed ++ ") " ++ field ++ " : null;"

/-- All methods of a feature: the setter, a setter for each alias, the getter, a
getter for each alias. -/
def methods (accessors : Accessors) : List Method :=
  accessors.setter accessors.type ::
    accessors.aliases.map (accessors.setter ∘ aliasType) ++
    accessors.getter :: accessors.aliases.map accessors.aliasGetter

end Accessors

/-- A datatype as a marker interface. -/
def renderInterface (type : DataType) : String :=
  "public interface " ++ type.name ++ " \x7b\n\x7d\n"

private def constants : List String → String
  | [] => ""
  | [name] => margin ++ name ++ "();\n"
  | name :: rest => margin ++ name ++ "(),\n" ++ constants rest

/-- An enum with constants and a private constructor. -/
def renderEnum (type : Enum) : String :=
  let body := if type.literals.isEmpty then margin ++ ";\n"
    else constants (type.literals.map (·.name))
  "public enum " ++ type.name ++ " \x7b\n" ++ body ++
    "\n" ++ margin ++ "private " ++ type.name ++ "() \x7b\n" ++ margin ++ "\x7d\n" ++ "\x7d\n"

/-- The header of a class: its name, what it extends and what it implements. -/
def classHeader (scope : Scope) (analysis : Analysis) (id : TypeId) (type : Entity) : String :=
  let extension := (scope.superOf? type).elim "" fun (_, super) => " extends " ++ super.name
  let unions := (analysis.unionsOf.of id).filterMap fun union =>
    (scope.type? union).map (·.name)
  let implementation := if unions.isEmpty then "" else " implements " ++ Text.join ", " unions
  "public class " ++ type.name ++ extension ++ implementation

/-- An entity as a class: the fields, then the methods of each feature. -/
def renderClass (scope : Scope) (analysis : Analysis) (id : TypeId) (type : Entity) : String :=
  let features := type.features.map (Accessors.ofFeature scope analysis)
  let fields := features.map fun feature =>
    margin ++ "private " ++ feature.fieldType ++ " " ++ feature.name ++ ";\n"
  let methods := features.flatMap (·.methods)
  classHeader scope analysis id type ++ " \x7b\n" ++ String.join fields ++
    String.join (methods.map ("\n" ++ ·.render)) ++ "\x7d\n"

/-- The declaration of a type; built-in and foreign types have none. -/
def renderType? (scope : Scope) (analysis : Analysis) (id : TypeId) :
    TypeDecl → Option String
  | .dataType type => if type.isBuiltin then none else some (renderInterface type)
  | .entity type => some (renderClass scope analysis id type)
  | .enum type => some (renderEnum type)
  | .foreign _ => none

/-- A source file: the package line, which is written for the default package
too, and a declaration. -/
def renderFile (package : List String) (body : String) : String :=
  "package " ++ Text.join "." package ++ ";\n\n" ++ body

/-- The output for one visited element.  `index` is the number of types visited
before it. -/
def artifactOf? (scope : Scope) (document : Nat) (analysis : Analysis) (root : List String)
    (visit : Visit) (index : Nat) : Option Artifact :=
  let package := root ++ visit.path
  match visit.element with
  | .package name _ _ => some (.directory (Text.join "/" (packagePath package name)))
  | .type decl =>
      (renderType? scope analysis ⟨document, index⟩ decl).map fun body =>
        .file (Text.join "/" (package ++ [decl.name ++ ".java"])) (renderFile package body)
  | .foreign _ => none

/-- The output for visited elements in order. -/
def artifactsFrom (scope : Scope) (document : Nat) (analysis : Analysis) (root : List String) :
    (index : Nat) → List Visit → List Artifact
  | _, [] => []
  | index, visit :: rest =>
      let next := if visit.element.decl?.isSome then index + 1 else index
      (artifactOf? scope document analysis root visit index).toList ++
        artifactsFrom scope document analysis root next rest

/-- The path of the root package. -/
def rootPath (options : GenerateOptions) : List String := packagePath [] options.rootPackage

/-- The directory of the root package, relative to the destination. -/
def root (options : GenerateOptions) : String := Text.join "/" (rootPath options)

/-- The sources of the model at position `document` of the scope. -/
def generate (scope : Scope) (document : Nat) (analysis : Analysis) (defs : Definitions)
    (options : GenerateOptions) : List Artifact :=
  let path := rootPath options
  (if path.isEmpty then [] else [.directory (root options)]) ++
    artifactsFrom scope document analysis path 0 defs.visits

end DomainGen.Java
