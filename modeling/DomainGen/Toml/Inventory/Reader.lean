import DomainGen.Text.CharClass
import DomainGen.Toml.Inventory.Scalar

/-!
# Taking inventory

Reads a document from top to bottom.  A key is entered when it was read, before
its value is; so a complaint about the value names the key.
-/

namespace DomainGen.Toml

/-- How far reading came. -/
structure Stock where
  cursor : Cursor
  inventory : Inventory := {}
  deriving Repr, Inhabited

/-- A step of reading. -/
abbrev Taking := StateT Stock (Except Complaint)

namespace Taking

/-- Raise a complaint, with the key that was read last. -/
def fail {α : Type} (complaint : Complaint) : Taking α := do
  let stock ← get
  throw { complaint with lastKey := stock.inventory.lastKey }

/-- Read at the cursor. -/
def read {α : Type} (reader : Cursor → Except Complaint (α × Cursor)) : Taking α := do
  let stock ← get
  match reader stock.cursor with
  | .error complaint => fail complaint
  | .ok (value, cursor) =>
      set { stock with cursor }
      return value

/-- Look at the cursor. -/
def look {α : Type} (reader : Cursor → Except Complaint α) : Taking α :=
  read fun cursor => (reader cursor).map (·, cursor)

/-- Move the cursor. -/
def move (change : Cursor → Cursor) : Taking Unit :=
  modify fun stock => { stock with cursor := change stock.cursor }

/-- The cursor. -/
def cursor : Taking Cursor := return (← get).cursor

/-- Change the inventory by a step that may fail. -/
def enter (change : Inventory → Except Complaint Inventory) : Taking Unit := do
  let stock ← get
  match change stock.inventory with
  | .error complaint => throw complaint
  | .ok inventory => set { stock with inventory }

/-- Change the inventory. -/
def note (change : Inventory → Inventory) : Taking Unit :=
  enter fun inventory => .ok (change inventory)

/-- A complaint about the line of the cursor. -/
def failHere {α : Type} (message : String) : Taking α := do
  fail ((← cursor).complaint message)

/-- A complaint about what was just read. -/
def failAbout {α : Type} (found : Option Char) (message : String) : Taking α := do
  fail (Cursor.complaintAbout found (← cursor) message)

private def comment : Taking Unit := read fun cursor => (cursor.skipComment).map ((), ·)

private def isBareKey (c : Char) : Bool :=
  ('A' ≤ c && c ≤ 'Z') || ('a' ≤ c && c ≤ 'z') || ('0' ≤ c && c ≤ '9') || c = '-' || c = '_'

/-- The text that the body of a string stands for. -/
def unescaped (body : List Char) : Taking (List Char) := do
  match replaceEscapes (body.length + 1) body with
  | .ok text => return text
  | .error message => failHere message

/-- A part of a key. -/
def keyPart : Taking String := do
  let part ← match ← look Cursor.peek with
    | some '"' => do
        move (·.skip 1)
        let body ← read fun cursor => Cursor.shortString '"' (cursor.rest.length + 1) [] cursor
        unescaped body
    | some '\'' => do
        move (·.skip 1)
        read fun cursor => Cursor.shortString '\'' (cursor.rest.length + 1) [] cursor
    | _ => read (Cursor.span isBareKey)
  return String.ofList part

/-- The name of a table in a header, up to the first closing bracket. -/
def headerName : (fuel : Nat) → Taking Key
  | 0 => return []
  | fuel + 1 => do
      move Cursor.skipBlanks
      match ← look Cursor.peek with
      | none | some ']' => failHere "unexpected end of table name (table names cannot be empty)"
      | some '.' => failHere "unexpected table separator (table names cannot be empty)"
      | _ => pure ()
      let part ← keyPart
      move Cursor.skipBlanks
      let found ← read Cursor.next
      match found with
      | some '.' => return part :: (← headerName fuel)
      | some ']' => return [part]
      | _ => failAbout found ("expected '.' or ']' to end table name, but got " ++
          Cursor.shown found ++ " instead")

/-- The parts of a key up to the equals sign. -/
def keyParts : (fuel : Nat) → (first : Bool) → Taking Key
  | 0, _ => return []
  | fuel + 1, first => do
      move Cursor.skipBlanks
      match ← look Cursor.peek with
      | none | some '=' =>
          failHere (if first then "unexpected '=': key name appears blank" else "unexpected '='")
      | some '.' =>
          failHere (if first then "unexpected '.': keys cannot start with a '.'"
            else "unexpected '.'")
      | _ => pure ()
      let part ← keyPart
      if first then do
        let line := (← cursor).line
        note ({ · with line })
      move Cursor.skipBlanks
      let found ← read Cursor.next
      match found with
      | some '.' => return part :: (← keyParts fuel false)
      | some '=' => return [part]
      | none => failAbout none "unexpected EOF; expected key separator '='"
      | some c =>
          let message := "expected '.' or '=', but got " ++ Text.quotedChar c ++ " instead"
          if c = '\n' then fail ((← cursor).complaintBefore message)
          else failHere message

/-- A key, which is entered. -/
def key : Taking Unit := do
  let parts ← keyParts ((← cursor).rest.length + 1) true
  enter (Inventory.begin parts)

private def checked (found : BareWord) : Taking Shape := do
  match found.check with
  | .ok _ => return found.shape
  | .error message => failHere message

private def string (quote : Char) : Taking Shape := do
  let rest := (← cursor).rest
  if rest.take 2 = [quote, quote] then
    move (·.skip 2)
    let body ← read fun cursor => Cursor.longString quote (cursor.rest.length + 1) [] cursor
    if quote = '"' then
      let _ ← unescaped (joinLines (body.length + 1) (dropLeadingBreak body))
    return .text
  else
    let body ← read fun cursor => Cursor.shortString quote (cursor.rest.length + 1) [] cursor
    if quote = '"' then
      let _ ← unescaped body
    return .text

/-- A word of letters. -/
private def letters : Taking Shape := do
  let word ← read (Cursor.span Text.isLetter)
  let text := String.ofList word
  if text = "true" || text = "false" then return .boolean
  failHere ("expected value but found " ++ Text.quoted text ++ " instead")

private def startsWithList (word text : List Char) : Bool := word.isPrefixOf text

/-- A word that starts with `i` or `n`, which was not read yet: a number that is
none, or the letters of another word.  Of those, the ones that could have
continued such a number are passed over. -/
private def unusualFloat : Taking Shape := do
  let rest := (← cursor).rest.drop 1
  let (read, special) :=
    if startsWithList ['n', 'f'] rest then (2, true)
    else
      let passed := if rest.head? = some 'n' then 1 else 0
      let others := rest.drop passed
      if startsWithList ['a', 'n'] others then (passed + 2, true)
      else if others.head? = some 'a' then (passed + 1, false)
      else (passed, false)
  if special then
    let word := (← cursor).rest.take (read + 1)
    move (·.skip (read + 1))
    let _ ← look Cursor.peek
    checked { shape := .float, word }
  else
    move (·.skip read)
    letters

/-- What stands after a key or in an array, when nothing is nested. -/
private def scalar (c : Char) : Taking Shape := do
  if '0' ≤ c && c ≤ '9' then checked (← read Cursor.unsignedWord)
  else if c = '"' || c = '\'' then
    move (·.skip 1)
    string c
  else if c = '.' then
    move (·.skip 1)
    failHere "floats must start with a digit, not '.'"
  else if c = '+' || c = '-' then
    move (·.skip 1)
    checked (← read (Cursor.signedWord c))
  else if c = 'i' || c = 'n' then unusualFloat
  else if Text.isLetter c then letters
  else
    let _ ← read Cursor.next
    let message := "expected value but found " ++ Text.quotedChar c ++ " instead"
    if c = '\n' then fail ((← cursor).complaintBefore message)
    else failHere message

private def gotText (found : Option Char) : String :=
  match found with
  | none => "end of file"
  | some c => "'" ++ String.singleton c ++ "'"

private def isLineEnd (c : Char) : Bool := c = '\n' || c = '\r'

private def isGapChar (c : Char) : Bool := c = ' ' || c = '\t' || isLineEnd c

/-- Move past blanks, line ends and comments. -/
private def gaps : (fuel : Nat) → Taking Unit
  | 0 => return ()
  | fuel + 1 => do
      match ← look Cursor.peek with
      | some c =>
          if isGapChar c then
            let _ ← read Cursor.next
            gaps fuel
          else if c = '#' then
            move (·.skip 1)
            comment
            gaps fuel
          else return ()
      | none => return ()

private def skipGaps : Taking Unit := do gaps ((← cursor).rest.length + 1)

mutual

/-- A value.  `inArray` tells whether it is an item of an array. -/
def value : (fuel : Nat) → (inArray : Bool) → Taking (Shape × Nat)
  | 0, _ => failHere "unexpected EOF; expected value"
  | fuel + 1, inArray => do
      move Cursor.skipBlanks
      match ← look Cursor.peek with
      | none => failAbout none "unexpected EOF; expected value"
      | some '[' =>
          move (·.skip 1)
          let line := (← cursor).line
          note fun inventory => inventory.place inventory.key line true
          items fuel
          return (.array, line)
      | some '\x7b' =>
          move (·.skip 1)
          let line := (← cursor).line
          let outer := (← get).inventory
          let key := outer.context ++ [outer.key]
          note ({ · with context := key, key := "" })
          note (Inventory.imply key)
          enter fun inventory =>
            if inArray then inventory.openTables key else inventory.openTable key
          entries fuel key
          note ({ · with context := outer.context, key := outer.key })
          return (.table [], line)
      | some c =>
          let shape ← scalar c
          return (shape, (← cursor).line)

/-- The items of an array, up to its end. -/
def items : (fuel : Nat) → Taking Unit
  | 0 => return ()
  | fuel + 1 => do
      skipGaps
      match ← look Cursor.peek with
      | some ',' =>
          move (·.skip 1)
          failHere "unexpected comma"
      | some ']' => move (·.skip 1)
      | _ =>
          let _ ← value fuel true
          skipGaps
          let found ← read Cursor.next
          match found with
          | some ',' => items fuel
          | some ']' => return ()
          | _ =>
              failAbout found ("expected a comma (',') or array terminator (']'), but got " ++
                gotText found)

/-- The entries of an inline table at a key, up to its end. -/
def entries : (fuel : Nat) → (table : Key) → Taking Unit
  | 0, _ => return ()
  | fuel + 1, table => do
      skipGaps
      match ← look Cursor.peek with
      | some ',' =>
          move (·.skip 1)
          failHere "unexpected comma"
      | some '\x7d' => move (·.skip 1)
      | _ =>
          let line := (← cursor).line
          key
          let (shape, _) ← value fuel false
          enter fun inventory => inventory.define inventory.key shape
          note fun inventory =>
            inventory.place inventory.key line (shape matches .array)
          note ({ · with context := table })
          skipGaps
          let found ← read Cursor.next
          match found with
          | some ',' => entries fuel table
          | some '\x7d' => return ()
          | _ =>
              failAbout found ("expected a comma or an inline table terminator '\x7d', but got " ++
                gotText found ++ " instead")

end

/-- A table header, after its first bracket. -/
def header : Taking Unit := do
  let line := (← cursor).line
  let fuel := (← cursor).rest.length + 1
  match ← look Cursor.peek with
  | some '[' =>
      move (·.skip 1)
      let name ← headerName fuel
      let found ← read Cursor.next
      if found ≠ some ']' then
        failAbout found ("expected end of table array name delimiter ']', but got " ++
          Cursor.shown found ++ " instead")
      note ({ · with line })
      enter (Inventory.openTables name)
      note fun inventory => { inventory.place "" line false with keys := inventory.keys ++ [name] }
  | _ =>
      let name ← headerName fuel
      note ({ · with line })
      enter (Inventory.openTable name)
      note fun inventory => { inventory.place "" line false with keys := inventory.keys ++ [name] }

/-- A key and its value. -/
def entry : Taking Unit := do
  let outer := (← get).inventory.context
  key
  let (shape, line) ← value (4 * (← cursor).rest.length + 8) false
  enter fun inventory => inventory.define inventory.key shape
  note fun inventory => inventory.place inventory.key line (shape matches .array)
  note ({ · with context := outer, key := "" })

/-- The end of a line after a header or an entry. -/
def lineEnd : Taking Unit := do
  move Cursor.skipBlanks
  match ← look Cursor.peek with
  | none => return ()
  | some '#' =>
      move (·.skip 1)
      comment
  | some c =>
      let _ ← read Cursor.next
      if !isLineEnd c then
        failHere ("expected a top-level item to end with a newline, comment, or EOF, but got " ++
          Text.quotedChar c ++ " instead")

/-- The headers and entries of a document. -/
def lines : (fuel : Nat) → Taking Unit
  | 0 => return ()
  | fuel + 1 => do
      skipGaps
      match ← look Cursor.peek with
      | none => return ()
      | some '[' =>
          move (·.skip 1)
          header
          lineEnd
          lines fuel
      | some _ =>
          entry
          lineEnd
          lines fuel

end Taking

private def mark : Char := Char.ofNat 0xFEFF

/-- The inventory of a text. -/
def takeInventory (text : List Char) : Except Complaint Inventory := do
  let text := if text.head? = some mark then text.drop 1 else text
  let start := (String.ofList text).toUTF8.toList.take 6
  if start.contains 0 then
    throw { line := 1, message :=
      "files cannot contain NULL bytes; probably using UTF-16; TOML files must be UTF-8" }
  let (_, stock) ← (Taking.lines (text.length + 1)).run { cursor := { rest := text } }
  return stock.inventory

end DomainGen.Toml
