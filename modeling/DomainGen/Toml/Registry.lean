import DomainGen.Toml.Expression

/-!
# Which keys are taken

A key may be defined once.  Whether a later expression may still add to it
depends on what it was defined as: a value is closed, a table may gain keys but
not a second header, an array of tables may gain elements.
-/

namespace DomainGen.Toml

/-- What a key was defined as. -/
inductive KeyKind where
  | value | table | arrayTable
  deriving Repr, DecidableEq, Inhabited

/-- The name of a kind in messages. -/
def KeyKind.name : KeyKind → String
  | .value => "value"
  | .table => "table"
  | .arrayTable => "array table"

/-- A key that is taken. -/
structure KeySlot where
  path : List String
  kind : KeyKind
  /-- No further header may define the table. -/
  closed : Bool := false
  /-- The table came about by the key of a pair. -/
  dotted : Bool := false
  deriving Repr, Inhabited

/-- The keys that are taken, and the table that pairs add to. -/
structure Registry where
  slots : List KeySlot := []
  current : List String := []
  deriving Repr, Inhabited

namespace Registry

/-- The slot of a key. -/
def find? (registry : Registry) (path : List String) : Option KeySlot :=
  registry.slots.find? (·.path = path)

/-- Take a key. -/
def add (slot : KeySlot) (registry : Registry) : Registry :=
  { registry with slots := registry.slots ++ [slot] }

/-- Change the slot of a key. -/
def change (path : List String) (update : KeySlot → KeySlot) (registry : Registry) : Registry :=
  { registry with
    slots := registry.slots.map fun slot => if slot.path = path then update slot else slot }

private def isBelow (path : List String) (slot : KeySlot) : Bool :=
  path.length < slot.path.length && path.isPrefixOf slot.path

/-- Free all keys below one. -/
def clear (path : List String) (registry : Registry) : Registry :=
  { registry with slots := registry.slots.filter (!isBelow path ·) }

/-- A new header closes the tables that pairs of the table before it brought
about. -/
def leave (registry : Registry) : Registry :=
  { registry with
    slots := registry.slots.map fun slot =>
      if isBelow registry.current slot && slot.dotted then
        { slot with closed := true, dotted := false }
      else slot }

/-- Go down to the table that a header's last part belongs to. -/
def descend (walked : List String) : List String → Registry → Except String Registry
  | [], registry => .ok registry
  | part :: rest, registry =>
      let path := walked ++ [part]
      match registry.find? path with
      | none => descend path rest (registry.add { path, kind := .table })
      | some slot =>
          if slot.kind = .value then
            .error ("expected " ++ part ++ " to be a table, not a " ++ slot.kind.name)
          else descend path rest registry

/-- Take note of a table header. -/
def enterTable (key : List String) (registry : Registry) : Except String Registry := do
  let registry ← registry.leave.descend [] key.dropLast
  let part := key.getLast?.getD ""
  match registry.find? key with
  | none =>
      return { registry.add { path := key, kind := .table, closed := true } with current := key }
  | some slot =>
      if slot.kind ≠ .table then
        throw ("key " ++ part ++ " should be a table, not a " ++ slot.kind.name)
      if slot.closed then throw ("table " ++ part ++ " already exists")
      return { registry.change key ({ · with closed := true }) with current := key }

/-- Take note of a header of an array of tables. -/
def enterArrayTable (key : List String) (registry : Registry) : Except String Registry := do
  let registry ← registry.leave.descend [] key.dropLast
  match registry.find? key with
  | none =>
      let entered := registry.add { path := key, kind := .arrayTable, closed := true }
      return { entered with current := key }
  | some slot =>
      if slot.kind ≠ .arrayTable then
        throw ("key " ++ slot.kind.name ++ " already exists as a " ++ key.getLast?.getD "" ++
          ",  but should be an array table")
      return { registry.clear key with current := key }

/-- Take a key of several parts for a value. -/
def define (walked : List String) : List String → Registry → Except String Registry
  | [], registry => .ok (registry.change walked ({ · with kind := .value }))
  | part :: rest, registry =>
      let path := walked ++ [part]
      match registry.find? path with
      | none => define path rest (registry.add { path, kind := .table, dotted := true })
      | some slot =>
          if rest.isEmpty then .error ("key " ++ part ++ " is already defined")
          else if slot.kind ≠ .table then
            .error ("expected " ++ part ++ " to be a table, not a " ++ slot.kind.name)
          else if slot.closed then
            .error ("cannot redefine table " ++ part ++
              " that has already been explicitly defined")
          else define path rest registry

end Registry

mutual

/-- The keys inside a value, each inline table by itself. -/
def Term.checkKeys : Term → Except String Unit
  | .array items => checkItemKeys items
  | .table entries => do
      let _ ← checkEntryKeys {} entries
      return ()
  | _ => .ok ()

/-- The keys inside the items of an array. -/
def checkItemKeys : List Term → Except String Unit
  | [] => .ok ()
  | item :: rest => do
      item.checkKeys
      checkItemKeys rest

/-- The keys of an inline table, one after the other. -/
def checkEntryKeys (registry : Registry) : List (List String × Term) → Except String Registry
  | [] => .ok registry
  | (key, term) :: rest => do
      let registry ← registry.define [] key
      term.checkKeys
      checkEntryKeys registry rest

end

/-- Take note of what an expression defines. -/
def Registry.note (registry : Registry) : Expression → Except String Registry
  | .table key => registry.enterTable key
  | .arrayTable key => registry.enterArrayTable key
  | .entry key term => do
      let registry ← registry.define registry.current key
      term.checkKeys
      return registry

end DomainGen.Toml
