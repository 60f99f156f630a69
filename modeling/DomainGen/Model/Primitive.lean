import DomainGen.Text.Case

/-!
# Primitive types

A datatype whose name, in any case, is one of eleven well-known words stands
for a primitive type.  Generators ask three questions about it: whether it is
built into every target language, whether a union that lists it offers
accessors for it, and whether it is a number.
-/

namespace DomainGen

/-- The primitive types a datatype can stand for. -/
inductive Primitive where
  | boolean | byte | char | short | int | long | float | double | number | string | object
  deriving Repr, DecidableEq

namespace Primitive

/-- Every primitive type. -/
def all : List Primitive :=
  [boolean, byte, char, short, int, long, float, double, number, string, object]

/-- The word that names a primitive type. -/
def name : Primitive → String
  | boolean => "boolean"
  | byte => "byte"
  | char => "char"
  | short => "short"
  | int => "int"
  | long => "long"
  | float => "float"
  | double => "double"
  | number => "number"
  | string => "string"
  | object => "object"

/-- The primitive type a datatype of this name stands for, whatever the case of
its letters. -/
def classify (name : String) : Option Primitive :=
  all.find? fun primitive => primitive.name == Text.lowerCase name

/-- Built-in types are never declared in generated code.  `object` is not one of
them. -/
def isBuiltin (primitive : Primitive) : Bool := primitive != object

/-- Whether a union that lists the type offers accessors for it.  There are none
for `byte`, `char` and `short`. -/
def isAliasable : Primitive → Bool
  | byte | char | short => false
  | _ => true

/-- Whether the type is a number. -/
def isNumeric : Primitive → Bool
  | byte | short | int | long | float | double | number => true
  | _ => false

end Primitive

end DomainGen
