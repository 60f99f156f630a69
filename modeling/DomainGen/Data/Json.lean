import DomainGen.Data.Basic
import DomainGen.Text.Quoted
import DomainGen.Text.Segments

/-!
# JSON

Data trees in JSON, one entry per line.  Characters that matter to HTML are
escaped, so that the text can stand inside a page.
-/

namespace DomainGen.Json

/-- The escape of a character that may not stand for itself. -/
def escape (c : Char) : List Char :=
  match c with
  | '"' => ['\\', '"']
  | '\\' => ['\\', '\\']
  | '\n' => ['\\', 'n']
  | '\r' => ['\\', 'r']
  | '\t' => ['\\', 't']
  | c =>
      let code := c.toNat
      if code == 8 then ['\\', 'b']
      else if code == 12 then ['\\', 'f']
      else if code < 0x20 || c == '<' || c == '>' || c == '&' || code == 0x2028 ||
          code == 0x2029 then
        '\\' :: 'u' :: Text.hexDigits 4 code
      else [c]

/-- A text between quotes. -/
def string (text : String) : String :=
  String.ofList ('"' :: text.toList.flatMap escape ++ ['"'])

/-- Entries between brackets, one per line; nothing stands between them when there
are no entries. -/
def enclosed (opening closing : String) (depth : Nat) (entries : List String) : String :=
  if entries.isEmpty then opening ++ closing
  else
    let margin := "\n" ++ Text.repeated (depth + 1) "  "
    opening ++ margin ++ Text.join ("," ++ margin) entries ++ "\n" ++
      Text.repeated depth "  " ++ closing

mutual

/-- A tree whose first line is already indented by `depth` steps. -/
def render (depth : Nat) : Data → String
  | .text value => string value
  | .bool value => if value then "true" else "false"
  | .int value => toString value
  | .list items => enclosed "[" "]" depth (renderItems (depth + 1) items)
  | .record fields => enclosed "\x7b" "\x7d" depth (renderFields (depth + 1) fields)

/-- The items of a list. -/
def renderItems (depth : Nat) : List Data → List String
  | [] => []
  | item :: rest => render depth item :: renderItems depth rest

/-- The fields of a record. -/
def renderFields (depth : Nat) : List (String × Data) → List String
  | [] => []
  | (name, value) :: rest =>
      (string name ++ ": " ++ render depth value) :: renderFields depth rest

end

end DomainGen.Json

namespace DomainGen

/-- A tree as JSON. -/
def Data.toJson (data : Data) : String := Json.render 0 data

end DomainGen
