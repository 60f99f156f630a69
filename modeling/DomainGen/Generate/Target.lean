import DomainGen.Generate.Java
import DomainGen.Generate.TypeScript
import DomainGen.Text.Blank

/-!
# Target languages

The languages code can be generated for, and the words that select them.
-/

namespace DomainGen

/-- A language code can be generated for. -/
inductive Target where
  | java
  | typeScript
  deriving Repr, DecidableEq, Inhabited

namespace Target

/-- Every target, in the order in which they are offered. -/
def all : List Target := [java, typeScript]

/-- The word that selects a target. -/
def language : Target → String
  | java => "java"
  | typeScript => "ts"

/-- What is generated for a target. -/
def label : Target → String
  | java => "Java classes"
  | typeScript => "TypeScript definitions"

/-- A selector without blanks around it and in lower case; the long name of a
language becomes its short one. -/
def normalize (selector : String) : String :=
  let word := Text.lowerCase (Text.trimBlanks selector)
  if word = "typescript" then typeScript.language else word

/-- The target that a selector means. -/
def ofSelector? (selector : String) : Option Target :=
  all.find? fun target => target.language == normalize selector

/-- The place in the destination that is reported once generation succeeds. -/
def root (target : Target) (options : GenerateOptions) : String :=
  match target with
  | java => Java.root options
  | typeScript => ""

/-- The output for the model at position `document` of the scope. -/
def generate (target : Target) (scope : Scope) (document : Nat) (analysis : Analysis)
    (defs : Definitions) (options : GenerateOptions) : List Artifact :=
  match target with
  | java => Java.generate scope document analysis defs options
  | typeScript => TypeScript.generate scope document defs options

end Target

end DomainGen
