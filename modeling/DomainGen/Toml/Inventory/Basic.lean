import DomainGen.Text.Quoted
import DomainGen.Text.Segments

/-!
# The inventory of a TOML document

Which keys a document has, in order, what each of them stands for, and on which
line.  Of values only the shape is kept.
-/

namespace DomainGen.Toml

/-- What a key stands for. -/
inductive Shape where
  | text | integer | float | boolean | moment | array
  | tables (items : List (List (String × Shape)))
  | table (entries : List (String × Shape))
  deriving Repr, Inhabited

/-- The name of a shape in messages. -/
def Shape.name : Shape → String
  | .text => "string"
  | .integer => "int64"
  | .float => "float64"
  | .boolean => "bool"
  | .moment => "time.Time"
  | .array => "[]any"
  | .tables _ => "[]map[string]any"
  | .table _ => "map[string]any"

/-- A key of several parts. -/
abbrev Key := List String

private def isBare (c : Char) : Bool :=
  ('A' ≤ c && c ≤ 'Z') || ('a' ≤ c && c ≤ 'z') || ('0' ≤ c && c ≤ '9') || c = '-' || c = '_'

private def escapeInKey (c : Char) : List Char :=
  match c with
  | '"' => ['\\', '"']
  | '\\' => ['\\', '\\']
  | '\t' => ['\\', 't']
  | '\n' => ['\\', 'n']
  | '\r' => ['\\', 'r']
  | _ =>
      if c.toNat = 8 then ['\\', 'b']
      else if c.toNat = 12 then ['\\', 'f']
      else if c.toNat < 32 || c.toNat = 127 then '\\' :: 'u' :: Text.hexDigits 4 c.toNat
      else [c]

/-- A part of a key, in quotes where it has to be. -/
def keyPartText (part : String) : String :=
  if part ≠ "" && part.toList.all isBare then part
  else String.ofList ('"' :: part.toList.flatMap escapeInKey ++ ['"'])

/-- A key with dots between its parts. -/
def Key.text (key : Key) : String := Text.join "." (key.map keyPartText)

/-- Why a document has no inventory: what is wrong on which line, and the key
that was read last. -/
structure Complaint where
  line : Nat
  lastKey : String := ""
  message : String
  deriving Repr, Inhabited

/-- A complaint in words. -/
def Complaint.text (complaint : Complaint) : String :=
  "toml: line " ++ toString complaint.line ++
    (if complaint.lastKey = "" then ""
      else " (last key " ++ Text.quoted complaint.lastKey ++ ")") ++
    ": " ++ complaint.message

/-- The inventory of a document as far as it was read. -/
structure Inventory where
  root : List (String × Shape) := []
  /-- Every key that was written, in order. -/
  keys : List Key := []
  /-- Tables that exist only because a longer key runs through them. -/
  implied : List Key := []
  /-- The line of each key, and whether an array was written there. -/
  places : List (Key × Nat × Bool) := []
  /-- The table that is being filled. -/
  context : Key := []
  /-- The key in it whose value is being read. -/
  key : String := ""
  /-- The line of the key that was begun last. -/
  line : Nat := 1
  deriving Repr, Inhabited

namespace Inventory

/-- The shape of a key in a table. -/
def lookup? (name : String) (entries : List (String × Shape)) : Option Shape :=
  (entries.find? (·.1 == name)).map (·.2)

/-- Give a key of a table a shape. -/
def assign (name : String) (shape : Shape) : List (String × Shape) → List (String × Shape)
  | [] => [(name, shape)]
  | entry :: rest =>
      if entry.1 = name then (name, shape) :: rest else entry :: assign name shape rest

/-- The table at a key; an array of tables on the way stands for its last table.
Otherwise the part of the key that is not a table. -/
def tableAt (walked : Key) : Key → List (String × Shape) → Except Key (List (String × Shape))
  | [], entries => .ok entries
  | part :: rest, entries =>
      match lookup? part entries with
      | some (.table inner) => tableAt (walked ++ [part]) rest inner
      | some (.tables items) => tableAt (walked ++ [part]) rest (items.getLast?.getD [])
      | none => tableAt (walked ++ [part]) rest []
      | some _ => .error (walked ++ [part])

/-- Change the table at a key. -/
def changeAt (change : List (String × Shape) → List (String × Shape)) :
    Key → List (String × Shape) → List (String × Shape)
  | [], entries => change entries
  | part :: rest, entries =>
      match lookup? part entries with
      | some (.tables items) =>
          assign part
            (.tables (items.dropLast ++ [changeAt change rest (items.getLast?.getD [])])) entries
      | some (.table inner) => assign part (.table (changeAt change rest inner)) entries
      | _ => assign part (.table (changeAt change rest [])) entries

/-- The key that was read last. -/
def lastKey (inventory : Inventory) : String :=
  if inventory.key = "" then Key.text inventory.context
  else if inventory.context.isEmpty then inventory.key
  else Key.text inventory.context ++ "." ++ inventory.key

/-- A complaint about the key that was begun last. -/
def complain (inventory : Inventory) (message : String) : Complaint :=
  { line := inventory.line, lastKey := inventory.lastKey, message }

/-- Note that a table is implied by a longer key. -/
def imply (key : Key) (inventory : Inventory) : Inventory :=
  { inventory with implied := key :: inventory.implied }

private def forget (key : Key) (inventory : Inventory) : Inventory :=
  { inventory with implied := inventory.implied.filter (· ≠ key) }

/-- Whether an array was written at a key. -/
def isArray (inventory : Inventory) (key : Key) : Bool :=
  match inventory.places.find? (·.1 = key) with
  | some (_, _, array) => array
  | none => false

/-- The line of a key. -/
def lineOf (inventory : Inventory) (key : Key) : Nat :=
  match inventory.places.find? (·.1 = key) with
  | some (_, line, _) => line
  | none => 0

/-- Note the line of a key of the table that is being filled; the empty key is
the table itself. -/
def place (name : String) (line : Nat) (array : Bool) (inventory : Inventory) : Inventory :=
  let key := inventory.context ++ (if name = "" then [] else [name])
  let key := if key.isEmpty then [""] else key
  { inventory with places := (key, line, array) :: inventory.places.filter (·.1 ≠ key) }

/-- Give a key of the table that is being filled a shape.  An array can be
written anew, and an implied table can be written out once. -/
def define (name : String) (shape : Shape) (inventory : Inventory) :
    Except Complaint Inventory :=
  let key := inventory.context ++ [name]
  let put := { inventory with
    root := changeAt (assign name shape) inventory.context inventory.root }
  match tableAt [] inventory.context inventory.root with
  | .error clash =>
      .error (inventory.complain ("Key '" ++ Key.text clash ++ "' has already been defined."))
  | .ok entries =>
      if (lookup? name entries).isNone then .ok put
      else if inventory.isArray key then .ok (put.forget key)
      else if inventory.implied.contains key then .ok (inventory.forget key)
      else .error (inventory.complain ("Key '" ++ Key.text key ++ "' has already been defined."))

/-- Go down the parts of a key before its last, implying tables that are
missing. -/
def openParents (walked : Key) : Key → Inventory → Except Complaint Inventory
  | [], inventory => .ok inventory
  | part :: rest, inventory =>
      let path := walked ++ [part]
      match tableAt [] walked inventory.root with
      | .error clash => .error (inventory.complain
          ("Key '" ++ Key.text clash ++ "' was already created as a hash."))
      | .ok entries =>
          match lookup? part entries with
          | none =>
              openParents path rest
                { inventory.imply path with
                  root := changeAt (assign part (.table [])) walked inventory.root }
          | some (.table _) | some (.tables _) => openParents path rest inventory
          | some _ => .error (inventory.complain
              ("Key '" ++ Key.text path ++ "' was already created as a hash."))

/-- Make a table the one that is being filled. -/
def openTable (key : Key) (inventory : Inventory) : Except Complaint Inventory := do
  let inventory ← inventory.openParents [] key.dropLast
  let inventory := { inventory with context := key.dropLast }
  let inventory ← inventory.define (key.getLast?.getD "") (.table [])
  return { inventory with context := key }

/-- Make a new last table of an array the one that is being filled. -/
def openTables (key : Key) (inventory : Inventory) : Except Complaint Inventory := do
  let inventory ← inventory.openParents [] key.dropLast
  let inventory := { inventory with context := key.dropLast }
  let name := key.getLast?.getD ""
  let items := match tableAt [] inventory.context inventory.root with
    | .ok entries => match lookup? name entries with
        | none => some []
        | some (.tables items) => some items
        | some _ => none
    | .error _ => none
  match items with
  | none => throw (inventory.complain
      ("Key '" ++ Key.text key ++ "' was already created and cannot be used as an array."))
  | some items =>
      return { inventory with
        root := changeAt (assign name (.tables (items ++ [[]]))) inventory.context inventory.root
        context := key }

/-- Begin a key: the parts before its last open tables that they imply. -/
def begin (key : Key) (inventory : Inventory) : Except Complaint Inventory := do
  let inventory ← key.dropLast.foldlM
    (fun inventory part =>
      let path := inventory.context ++ [part]
      (inventory.imply path).openTable path)
    { inventory with key := key.getLast?.getD "" }
  return { inventory with keys := inventory.keys ++ [inventory.context ++ [inventory.key]] }

end Inventory

end DomainGen.Toml
