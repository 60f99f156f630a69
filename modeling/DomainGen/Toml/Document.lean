import DomainGen.Toml.Registry

/-!
# TOML documents

A document is a table.  Its expressions are taken one by one: read, held against
the keys that are taken, evaluated, and put in place.
-/

namespace DomainGen.Toml

/-- Change the value at a key of several parts.  An array on the way stands for
its last table. -/
def Table.alter (change : Option Value → Value) : List String → Table → Table
  | [], table => table
  | [part], table => table.set part (change (table.get? part))
  | part :: next :: rest, table =>
      table.set part (match table.get? part with
        | some (.table entries) => .table (alter change (next :: rest) entries)
        | some (.array items) =>
            match items.getLast? with
            | some (.table entries) =>
                .array (items.dropLast ++ [.table (alter change (next :: rest) entries)])
            | _ => .array items
        | _ => .table (alter change (next :: rest) []))

mutual

/-- The value that a term stands for. -/
def Term.value : Term → Except String Value
  | .text value => .ok (.text value)
  | .boolean value => .ok (.boolean value)
  | .integer word => (integer word).map .integer
  | .float word => (float word).map .float
  | .moment shape word => (moment shape word).map .moment
  | .array items => (itemValues items).map .array
  | .table entries => (entryValues [] entries).map .table

/-- The values of the items of an array. -/
def itemValues : List Term → Except String (List Value)
  | [] => .ok []
  | item :: rest => do
      let value ← item.value
      let values ← itemValues rest
      return value :: values

/-- A table with the entries of an inline table. -/
def entryValues (table : Table) : List (List String × Term) → Except String Table
  | [] => .ok table
  | (key, term) :: rest => do
      let value ← term.value
      entryValues (table.alter (fun _ => value) key) rest

end

/-- A document as far as it was read. -/
structure Draft where
  table : Table := []
  registry : Registry := {}
  deriving Repr, Inhabited

/-- Add what an expression defines. -/
def Draft.extend (found : Draft) (expression : Expression) : Except String Draft := do
  let registry ← found.registry.note expression
  let table ← match expression with
    | .table key =>
        pure (found.table.alter
          (fun | some (.table entries) => .table entries | _ => .table []) key)
    | .arrayTable key =>
        pure (found.table.alter
          (fun
            | some (.array items) => .array (items ++ [.table []])
            | _ => .array [.table []]) key)
    | .entry key term => do
        let value ← term.value
        pure (found.table.alter (fun _ => value) (found.registry.current ++ key))
  return { table, registry }

/-- Read the expressions of a text, each on a line of its own.  Every step takes
at least a line away, so the length of the text bounds their number. -/
def readExpressions : (fuel : Nat) → (first : Bool) → Draft → List Char →
    Except String Draft
  | 0, _, found, _ => .ok found
  | fuel + 1, first, found, text => do
      if text.isEmpty then return found
      let text ← if first then pure text else endOfLine text
      if text.isEmpty then return found
      match ← expression text with
      | (none, rest) => readExpressions fuel false found rest
      | (some expression, rest) => readExpressions fuel false (← found.extend expression) rest

/-- The table that a text describes. -/
def parse (text : List Char) : Except String Table :=
  (readExpressions (text.length + 1) true {} text).map (·.table)

end DomainGen.Toml
