import DomainGen.Model.Basic
import DomainGen.Yaml.Scalar

/-!
# Nodes of a YAML document

What a document says: scalars, sequences and mappings, each with the short form
of its tag and its place.  An alias holds the node it stands for; an alias
inside the very collection it names holds that collection without its contents.
-/

namespace DomainGen.Yaml

/-- A node of a document. -/
inductive Node where
  | scalar (pos : Position) (tag value : String)
  | sequence (pos : Position) (tag : String) (items : List Node)
  | mapping (pos : Position) (tag : String) (entries : List (Node × Node))
  | reference (pos : Position) (name : String) (target : Node)
  | selfReference (pos : Position) (name : String) (outline : Node)
  deriving Repr, Inhabited

namespace Node

/-- Where a node starts. -/
def pos : Node → Position
  | scalar pos .. | sequence pos .. | mapping pos .. => pos
  | reference pos .. | selfReference pos .. => pos

/-- The text of a scalar or the name of an alias; empty for collections. -/
def value : Node → String
  | scalar _ _ value => value
  | reference _ name _ | selfReference _ name _ => name
  | _ => ""

/-- The node that a node stands for: itself, or the target of an alias. -/
def resolved : Node → Node
  | reference _ _ target => target.resolved
  | selfReference _ _ outline => outline
  | node => node

/-- Whether two keys of a mapping are the same. -/
def sameKey : Node → Node → Bool
  | scalar _ _ left, scalar _ _ right => left == right
  | sequence .., sequence .. => true
  | mapping .., mapping .. => true
  | left@(reference ..), right@(reference ..) => left.value == right.value
  | left@(reference ..), right@(selfReference ..) => left.value == right.value
  | left@(selfReference ..), right@(reference ..) => left.value == right.value
  | left@(selfReference ..), right@(selfReference ..) => left.value == right.value
  | _, _ => false

mutual

/-- The number of levels of a node. -/
def depth : Node → Nat
  | scalar .. => 1
  | sequence _ _ items => depthOfItems items + 1
  | mapping _ _ entries => depthOfEntries entries + 1
  | reference _ _ target => target.depth + 1
  | selfReference .. => 1

/-- The number of levels of the deepest item. -/
def depthOfItems : List Node → Nat
  | [] => 0
  | item :: rest => max item.depth (depthOfItems rest)

/-- The number of levels of the deepest key or value. -/
def depthOfEntries : List (Node × Node) → Nat
  | [] => 0
  | (key, value) :: rest => max (max key.depth value.depth) (depthOfEntries rest)

end

end Node

/-- The short form of a tag. -/
def shortTag (tag : String) : String :=
  let long := "tag:yaml.org,2002:"
  if Text.startsWith long tag then
    "!!" ++ String.ofList (tag.toList.drop long.length)
  else tag

end DomainGen.Yaml
