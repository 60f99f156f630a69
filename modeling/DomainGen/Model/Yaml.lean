import DomainGen.Model.Form
import DomainGen.Yaml.Document

/-!
# Models in YAML

Reading the form of a model from a YAML document.  A node of the wrong type is
noted, and reading goes on, so that all such mistakes are reported together;
an element with a key that does not belong there is reported at once.
-/

namespace DomainGen.Yaml

/-- Why reading stops at once. -/
inductive Halt where
  | problem (text : String)
  | finding (diagnostic : Diagnostic)
  deriving Repr, Inhabited

/-- Reading, with the mistakes noted so far. -/
abbrev Reading := StateT (List String) (Except Halt)

namespace Reading

/-- Note a mistake. -/
def note (line : Nat) (text : String) : Reading Unit :=
  modify (· ++ ["line " ++ toString line ++ ": " ++ text])

/-- Stop at once. -/
def halt {α : Type} (text : String) : Reading α := throw (.problem text)

/-- Note that something with a tag cannot become a value of a type.  Its text is
shown, shortened, unless its tag is that of a collection. -/
def mismatchAt (pos : Position) (tag value type : String) : Reading Unit :=
  let shown :=
    if tag == Tag.seq.short || tag == Tag.map.short then value
    else if Text.byteLength value > 10 then " `" ++ Text.takeBytes 7 value ++ "...`"
    else " `" ++ value ++ "`"
  note pos.line ("cannot unmarshal " ++ tag ++ shown ++ " into " ++ type)

/-- Note that a node cannot become a value of a type. -/
def mismatch (node : Node) (type : String) : Reading Unit :=
  match node with
  | .scalar pos tag value => mismatchAt pos tag value type
  | .sequence pos tag _ | .mapping pos tag _ => mismatchAt pos tag "" type
  | _ => pure ()

private def base64Value? (c : Char) : Option Nat :=
  if 'A' ≤ c && c ≤ 'Z' then some (c.toNat - 65)
  else if 'a' ≤ c && c ≤ 'z' then some (c.toNat - 71)
  else if '0' ≤ c && c ≤ '9' then some (c.toNat + 4)
  else if c == '+' then some 62
  else if c == '/' then some 63
  else none

/-- The bytes of a text in base 64, padded to full groups. -/
def base64? : List Char → Option (List UInt8)
  | [] => some []
  | [a, b, '=', '='] => do
      let a ← base64Value? a
      let b ← base64Value? b
      return [UInt8.ofNat (a * 4 + b / 16)]
  | [a, b, c, '='] => do
      let a ← base64Value? a
      let b ← base64Value? b
      let c ← base64Value? c
      return [UInt8.ofNat (a * 4 + b / 16), UInt8.ofNat (b % 16 * 16 + c / 4)]
  | a :: b :: c :: d :: rest => do
      let a ← base64Value? a
      let b ← base64Value? b
      let c ← base64Value? c
      let d ← base64Value? d
      let more ← base64? rest
      return UInt8.ofNat (a * 4 + b / 16) :: UInt8.ofNat (b % 16 * 16 + c / 4) ::
        UInt8.ofNat (c % 4 * 64 + d) :: more
  | _ => none

/-- What a scalar means: a type and a text. -/
def meaning (tag value : String) : Reading (String × String) := do
  match Tag.ofShort? tag with
  | some .str => return (tag, value)
  | some .binary =>
      match base64? (value.toList.filter fun c => c != '\n' && c != '\r') with
      | some bytes => return (tag, String.ofList (Text.ofBytes bytes))
      | none => halt "!!binary value contains invalid base64 data"
  | some expected =>
      if expected ∈ [.bool, .int, .float, .null, .timestamp] then
        let found := if expected == .timestamp || plainTag value != .timestamp then plainTag value
          else .str
        if found == expected || (expected == .float && found == .int) then return (tag, value)
        else halt ("cannot decode " ++ found.short ++ " `" ++ value ++ "` as a " ++ tag)
      else return (tag, value)
  | none => return (tag, value)

/-- Note the repeated keys of a mapping, and tell whether there are none. -/
def keysAreDistinct (entries : List (Node × Node)) : Reading Bool := do
  let before := (← get).length
  check (entries.map (·.1))
  return (← get).length == before
where
  check : List Node → Reading Unit
    | [] => pure ()
    | key :: rest => do
        for other in rest do
          if key.sameKey other then
            note other.pos.line ("mapping key " ++ Text.quoted other.value ++
              " already defined at line " ++ toString key.pos.line)
        check rest

/-- Note a collection where another type is asked for. -/
def wrongCollection (node : Node) (type : String) : Reading Unit := do
  match node with
  | .mapping _ _ entries => if ← keysAreDistinct entries then mismatch node type
  | _ => mismatch node type

/-- A text.  Null is no text. -/
def text? (node : Node) : Reading (Option String) := do
  let node := node.resolved
  match node with
  | .scalar _ tag value =>
      let (tag, value) ← meaning tag value
      return if tag == Tag.null.short then none else some value
  | _ => wrongCollection node "string"; return none

/-- A truth value.  Null is none. -/
def flag? (node : Node) : Reading (Option Bool) := do
  let node := node.resolved
  match node with
  | .scalar _ tag value =>
      let (tag, value) ← meaning tag value
      match Tag.ofShort? tag with
      | some .null => return none
      | some .bool => return some (value ∈ trueWords)
      | some .int | some .float | some .timestamp => mismatch node "bool"; return none
      | _ =>
          if value ∈ oldTrueWords then return some true
          else if value ∈ oldFalseWords then return some false
          else mismatch node "bool"; return none
  | _ => wrongCollection node "bool"; return none

/-- A list.  Null is the empty list, and an item that cannot be read is left
out. -/
def list? {α : Type} (type : String) (item : Node → Reading (Option α)) (node : Node) :
    Reading (Option (List α)) := do
  let node := node.resolved
  match node with
  | .scalar _ tag value =>
      let (tag, _) ← meaning tag value
      if tag == Tag.null.short then return some []
      mismatch node type
      return none
  | .sequence _ _ items => return some (← items.filterMapM item)
  | _ => wrongCollection node type; return none

/-- How a record of a type is read: what each key does to it. -/
structure Schema (α : Type) where
  type : String
  field? : String → Option (Node → α → Reading α)
  /-- Whether a key that is not known is a mistake. -/
  strict : Bool := false

private def isMergeKey : Node → Bool
  | .scalar _ tag "<<" => tag == Tag.merge.short
  | _ => false

private def failWantMap {α : Type} : Reading α :=
  halt "map merge requires map or sequence of maps as the value"

private def failSelfMerge {α : Type} (name : String) : Reading α :=
  halt ("anchor '" ++ name ++ "' value contains itself")

/-- The mapping that is to be merged: a mapping, or one that an alias stands
for. -/
def mergeSource : Node → Reading Node
  | .mapping pos tag entries => return .mapping pos tag entries
  | .reference _ _ (.mapping pos tag entries) => return .mapping pos tag entries
  | .selfReference _ name (.mapping ..) => failSelfMerge name
  | _ => failWantMap

/-- Read the entries of a record into it.  `merged` holds, while another mapping
is merged in, the keys that are taken. -/
def fields {α : Type} (schema : Schema α) :
    List (Node × Node) → (merged : Option (List String)) → (done : List String) →
    (merge : Option Node) → α → Reading (α × Option (List String) × Option Node)
  | [], merged, _, merge, record => return (record, merged, merge)
  | (key, value) :: rest, merged, done, merge, record => do
      if isMergeKey key then fields schema rest merged done (some value) record
      else
        match ← text? key with
        | none => fields schema rest merged done merge record
        | some name =>
            if merged.any (·.contains name) then fields schema rest merged done merge record
            else
              let merged := merged.map (name :: ·)
              match schema.field? name with
              | some assign =>
                  if done.contains name then
                    note key.pos.line ("field " ++ name ++ " already set in type " ++ schema.type)
                    fields schema rest merged done merge record
                  else
                    let record ← assign value record
                    fields schema rest merged (name :: done) merge record
              | none =>
                  if schema.strict then
                    note key.pos.line ("field " ++ name ++ " not found in type " ++ schema.type)
                  fields schema rest merged done merge record

private def keyTexts (entries : List (Node × Node)) : List String :=
  entries.filterMap fun (key, _) => match key.resolved with
    | .scalar _ _ value => some value
    | _ => none

mutual

/-- Read a mapping into a record. -/
def mapping {α : Type} (schema : Schema α) :
    Nat → (merged : Option (List String)) → Node → α →
    Reading (α × Option (List String))
  | 0, merged, _, record => return (record, merged)
  | fuel + 1, merged, node, record => do
      let node := node.resolved
      match node with
      | .mapping _ _ entries =>
          if !(← keysAreDistinct entries) then return (record, merged)
          let (record, merged, merge) ← fields schema entries merged [] none record
          match merge with
          | none => return (record, merged)
          | some source =>
              let taken := merged.getD (keyTexts entries)
              let (record, taken) ← mergeFrom schema fuel taken source record
              return (record, merged.map fun _ => taken)
      | .scalar _ tag value =>
          let (tag, _) ← meaning tag value
          if tag != Tag.null.short then mismatch node schema.type
          return (record, merged)
      | _ => mismatch node schema.type; return (record, merged)

/-- Merge a mapping, or a sequence of mappings, into a record. -/
def mergeFrom {α : Type} (schema : Schema α) :
    Nat → (taken : List String) → Node → α → Reading (α × List String)
  | 0, taken, _, record => return (record, taken)
  | fuel + 1, taken, source, record => do
      match source with
      | .sequence _ _ items => mergeItems schema fuel taken items record
      | other =>
          let target ← mergeSource other
          let (record, merged) ← mapping schema fuel (some taken) target record
          return (record, merged.getD taken)

/-- Merge mappings into a record, one after the other. -/
def mergeItems {α : Type} (schema : Schema α) :
    Nat → (taken : List String) → List Node → α → Reading (α × List String)
  | 0, taken, _, record => return (record, taken)
  | _ + 1, taken, [], record => return (record, taken)
  | fuel + 1, taken, item :: rest, record => do
      let target ← mergeSource item
      let (record, merged) ← mapping schema fuel (some taken) target record
      mergeItems schema fuel (merged.getD taken) rest record

end

/-- The most levels of merging that a node can give rise to. -/
def mergeBound (node : Node) : Nat := 4 * node.depth + 1000

private def textInto {α : Type} (set : String → α → α) (node : Node) (record : α) : Reading α := do
  match ← text? node with
  | some value => return set value record
  | none => return record

private def flagInto {α : Type} (set : Bool → α → α) (node : Node) (record : α) : Reading α := do
  match ← flag? node with
  | some value => return set value record
  | none => return record

private def listInto {α β : Type} (type : String) (item : Node → Reading (Option β))
    (set : List β → α → α) (node : Node) (record : α) : Reading α := do
  match ← list? type item node with
  | some values => return set values record
  | none => return record

/-- How a feature is read. -/
def featureSchema : Schema FeatureForm where
  type := "dsl.yamlFeature"
  field? := fun
    | "name" => some (textInto fun value form => { form with name := value })
    | "type" => some (textInto fun value form => { form with type := value })
    | "many" => some (flagInto fun value form => { form with many := value })
    | "nonNullable" => some (flagInto fun value form => { form with nonNullable := value })
    | _ => none

private def isNull : Node → Bool
  | .scalar _ tag _ => tag == Tag.null.short
  | _ => false

/-- A record; null and a node of the wrong type are none. -/
def record? {α : Type} (schema : Schema α) (start : α) (node : Node) :
    Reading (Option α) := do
  let node := node.resolved
  match node with
  | .mapping _ _ entries =>
      if !(← keysAreDistinct entries) then return none
      let (record, merged, merge) ← fields schema entries none [] none start
      match merge with
      | none => return some record
      | some source =>
          let taken := merged.getD (keyTexts entries)
          let (record, _) ← mergeFrom schema (mergeBound node) taken source record
          return some record
  | .scalar _ tag value =>
      let (tag, _) ← meaning tag value
      if tag != Tag.null.short then mismatch node schema.type
      return none
  | _ => mismatch node schema.type; return none

/-- The keys of an element. -/
def elementKeys : List String :=
  ["package", "datatype", "entity", "enum", "elements", "members", "extends", "features",
    "literals"]

/-- How an element is read, given how its nested elements are. -/
def elementSchema (nested : Node → Reading (Option ElementForm)) : Schema ElementForm where
  type := "dsl.plain"
  field? := fun
    | "package" => some (textInto fun value form => { form with package := value })
    | "datatype" => some (textInto fun value form => { form with dataType := value })
    | "entity" => some (textInto fun value form => { form with entity := value })
    | "enum" => some (textInto fun value form => { form with enum := value })
    | "extends" => some (textInto fun value form => { form with super := value })
    | "elements" =>
        some (listInto "[]dsl.yamlElement" nested fun values form =>
          { form with elements := values })
    | "members" =>
        some (listInto "[]string" text? fun values form => { form with members := values })
    | "literals" =>
        some (listInto "[]string" text? fun values form => { form with literals := values })
    | "features" =>
        some (listInto "[]dsl.yamlFeature" (record? featureSchema {}) fun values form =>
          { form with features := values })
    | _ => none

/-- Stop at a key that does not belong into an element. -/
def checkKeys : List (Node × Node) → Reading Unit
  | [] => pure ()
  | (key, _) :: rest =>
      if key.value ∈ elementKeys then checkKeys rest
      else throw (.finding (.malformedAt key.pos
        ("unknown element key " ++ Text.quoted key.value)))

/-- An element.  The mistakes inside an element spoil it as a whole. -/
def element? : Nat → Node → Reading (Option ElementForm)
  | 0, _ => return none
  | fuel + 1, node => do
      let node := node.resolved
      if isNull node then
        discard <| text? node
        return none
      if let .mapping _ _ entries := node then checkKeys entries
      let outside ← get
      set ([] : List String)
      let form ← record? (elementSchema (element? fuel)) {} node
      let inside ← get
      set (outside ++ inside)
      if inside.isEmpty then return some { form.getD {} with pos := node.pos } else return none

/-- How the whole document is read. -/
def documentSchema (bound : Nat) : Schema (List ElementForm) where
  type := "dsl.yamlDocument"
  field? := fun
    | "elements" => some (listInto "[]dsl.yamlElement" (element? bound) fun values _ => values)
    | _ => none
  strict := true

end Reading

end DomainGen.Yaml

namespace DomainGen

/-- The forms of the elements of a YAML document. -/
def formsOfYaml (bytes : List UInt8) : Except Diagnostic (List ElementForm) := do
  let root ← (Yaml.firstDocument bytes).mapError (Diagnostic.malformedAt {})
  match root with
  | none => return []
  | some root =>
      let schema := Yaml.Reading.documentSchema (root.depth + 1)
      match (Yaml.Reading.record? schema [] root).run [] with
      | .error (.problem text) => .error (.malformedAt {} text)
      | .error (.finding diagnostic) => .error diagnostic
      | .ok (forms, []) => return forms.getD []
      | .ok (_, mistakes) =>
          .error (.malformedAt {} ("unmarshal errors:\n  " ++ Text.join "\n  " mistakes))

/-- Read a model from a YAML document. -/
def Definitions.ofYaml (bytes : List UInt8) : Except Diagnostic Definitions := do
  let forms ← formsOfYaml bytes
  let elements ← (elementsOf forms).mapError fun (fault, pos) => fault.diagnostic pos
  return { elements }

end DomainGen
