import DomainGen.Failure.Basic
import DomainGen.Text.Case
import DomainGen.Toml.Inventory.Reader

/-!
# Unknown keys

Loading passes over keys that mean nothing.  An audit holds a file against the
settings there are: it lists the keys that mean nothing, and it is strict about
what the others stand for.  Upper and lower case do not matter.
-/

namespace DomainGen.Config

open Toml (Inventory Shape Key Complaint)

/-- What a setting has to be. -/
inductive Expected where
  | text | boolean | integer
  deriving Repr, DecidableEq, Inhabited

namespace Expected

/-- The name of what a setting has to be. -/
def name : Expected → String
  | text => "string"
  | boolean => "boolean"
  | integer => "integer"

/-- Whether a shape is what a setting has to be. -/
def admits : Expected → Shape → Bool
  | text, .text => true
  | boolean, .boolean => true
  | integer, .integer => true
  | _, _ => false

end Expected

/-- A section of the settings. -/
structure SectionSchema where
  name : String
  /-- The section in messages. -/
  title : String
  settings : List (String × Expected)
  deriving Repr, DecidableEq, Inhabited

/-- All settings. -/
def schema : List SectionSchema :=
  [{ name := "generate", title := "config.GenerateConfig",
     settings := [("target", .text), ("destination", .text), ("root", .text),
       ("quiet", .boolean)] },
    { name := "java", title := "config.JavaConfig", settings := [("root_package", .text)] },
    { name := "log", title := "config.LogConfig",
      settings := [("json", .boolean), ("verbosity", .integer)] },
    { name := "watch", title := "config.WatchConfig", settings := [("debounce_ms", .integer)] }]

private def folded (text : String) : String := Text.lowerCase (Text.upperCase text)

/-- The item that a key means: the one with its name, or else one whose name
differs only in case. -/
def meant? {α : Type} (name : α → String) (items : List α) (key : String) : Option α :=
  (items.find? (name · = key)).or (items.find? fun item => folded (name item) = folded key)

private def complaintAt (inventory : Inventory) (key : Key) (message : String) : Complaint :=
  { line := inventory.lineOf key, lastKey := Key.text key, message }

/-- The keys of a section that mean something. -/
def auditSection (inventory : Inventory) (found : SectionSchema) (key : String) :
    List (String × Shape) → Except Complaint (List Key)
  | [] => .ok []
  | (name, shape) :: rest =>
      match meant? (·.1) found.settings name with
      | none => auditSection inventory found key rest
      | some (_, expected) =>
          if expected.admits shape then do
            let more ← auditSection inventory found key rest
            return [key, name] :: more
          else .error (complaintAt inventory [key, name]
            ("incompatible types: TOML value has type " ++ shape.name ++
              "; destination has type " ++ expected.name))

/-- The keys of a document that mean something. -/
def auditSections (inventory : Inventory) : List (String × Shape) → Except Complaint (List Key)
  | [] => .ok []
  | (key, shape) :: rest =>
      match meant? (·.name) schema key with
      | none => auditSections inventory rest
      | some found =>
          match shape with
          | .table entries => do
              let own ← auditSection inventory found key entries
              let more ← auditSections inventory rest
              return [key] :: own ++ more
          | _ => .error (complaintAt inventory [key]
              ("type mismatch for " ++ found.title ++ ": expected table but found " ++ shape.name))

/-- The keys of a text that mean nothing, sorted. -/
def unknownKeysOf (text : List Char) : Except Complaint (List String) := do
  let inventory ← Toml.takeInventory text
  let known ← auditSections inventory inventory.root
  return ((inventory.keys.filter (!known.contains ·)).map Key.text).mergeSort
    fun one other => one ≤ other

end DomainGen.Config
