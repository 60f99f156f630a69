import DomainGen.Model.Document

/-!
# Names of types in generated code

How a reference is spelled in a target language: a built-in primitive by the
language's own name for it, anything else by the name of what it means, and an
unresolved reference as it was written.
-/

namespace DomainGen

/-- How a language names the built-in primitive types. -/
abbrev BuiltinNames := Primitive → Option String

/-- The spelling of a reference. -/
def Scope.typeName (scope : Scope) (builtins : BuiltinNames) (ref : Ref) : String :=
  let mapped := (scope.dataType? ref).bind fun type =>
    if type.isBuiltin then type.primitive.bind builtins else none
  mapped.getD (scope.nameOf ref)

/-- The spelling of a feature's type; a feature that holds many values has an
array type. -/
def Scope.featureType (scope : Scope) (builtins : BuiltinNames) (feature : Feature) : String :=
  let name := scope.typeName builtins feature.type
  if feature.many then name ++ "[]" else name

/-- Names as literals between single quotes, separated by bars. -/
def quotedUnion (names : List String) : String :=
  Text.join " | " (names.map fun name => "'" ++ name ++ "'")

/-- The first occurrence of each entry of a list, judged by a key. -/
def firstOccurrences {α β : Type} [BEq β] (key : α → β) (entries : List α) : List α :=
  entries.foldl
    (fun kept entry => if kept.any (key · == key entry) then kept else kept ++ [entry]) []

end DomainGen
