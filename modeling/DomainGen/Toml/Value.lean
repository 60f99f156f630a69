import DomainGen.Number.Binary64
import DomainGen.Toml.Moment

/-!
# TOML values

Scalars, arrays, and tables whose keys keep the order in which they were
defined.
-/

namespace DomainGen.Toml

/-- A value. -/
inductive Value where
  | text (value : String)
  | integer (value : Int)
  | float (value : Binary64)
  | boolean (value : Bool)
  | moment (value : Moment)
  | array (items : List Value)
  | table (entries : List (String × Value))
  deriving Repr, Inhabited

/-- The entries of a table. -/
abbrev Table := List (String × Value)

namespace Table

/-- The value of a key. -/
def get? (table : Table) (key : String) : Option Value :=
  (List.find? (·.1 == key) table).map (·.2)

/-- Give a key a value, in place of the one it has. -/
def set (key : String) (value : Value) : Table → Table
  | [] => [(key, value)]
  | entry :: rest =>
      if entry.1 = key then (key, value) :: rest else entry :: set key value rest

end Table

mutual

/-- A value as it is shown to a reader. -/
def Value.shown : Value → String
  | .text value => value
  | .integer value => toString value
  | .float value => value.text
  | .boolean value => if value then "true" else "false"
  | .moment value => value.shown
  | .array items => "[" ++ Text.join " " (shownItems items) ++ "]"
  | .table entries =>
      "map[" ++ Text.join " "
        (((shownEntries entries).mergeSort fun one other => one.1 ≤ other.1).map
          fun (key, value) => key ++ ":" ++ value) ++ "]"

/-- Values as they are shown to a reader. -/
def shownItems : List Value → List String
  | [] => []
  | item :: rest => item.shown :: shownItems rest

/-- The values of a table as they are shown to a reader. -/
def shownEntries : List (String × Value) → List (String × String)
  | [] => []
  | (key, value) :: rest => (key, value.shown) :: shownEntries rest

end

end DomainGen.Toml
