import DomainGen.Log.Verbosity
import DomainGen.Number.Binary64
import DomainGen.Text.Quoted

/-!
# Log entries

What is logged, and the two ways in which an entry is written: as a coloured
line for a reader and as a JSON object for a program.
-/

namespace DomainGen

/-- The value of a field of a log entry. -/
inductive LogValue where
  | text (value : String)
  | int (value : Int)
  | float (value : Binary64)
  | bool (value : Bool)
  | texts (values : List String)
  deriving Repr, DecidableEq, Inhabited

namespace LogValue

/-- A value as it is shown to a reader. -/
def shown : LogValue → String
  | text value => value
  | int value => toString value
  | float value => value.text
  | bool value => if value then "true" else "false"
  | texts values => "[" ++ Text.join " " values ++ "]"

end LogValue

/-- Something worth noting.  A field can be without a value. -/
structure LogEntry where
  level : LogLevel
  /-- The part of the program that speaks; the empty name is the program. -/
  logger : String := ""
  message : String
  fields : List (String × Option LogValue) := []
  deriving Repr, DecidableEq, Inhabited

namespace LogEntry

private def paint (codes text : String) : String := "\x1b[" ++ codes ++ "m" ++ text ++ "\x1b[0m"

/-- The label of a level that asks for attention. -/
def attention (level : LogLevel) : Option String :=
  match level with
  | .debug | .info => none
  | .warn => some (paint "1m\x1b[48;5;58m\x1b[38;5;179" level.label)
  | _ => some (paint "1m\x1b[48;5;52m\x1b[38;5;167" level.label)

/-- The time of day, given in seconds. -/
def clockTime (seconds : Int) : String :=
  let ofDay := (seconds % 86400).toNat
  Text.join ":" [Text.twoDigits (ofDay / 3600), Text.twoDigits (ofDay / 60 % 60),
    Text.twoDigits (ofDay % 60)]

/-- A field as it is shown.  Paths and durations stand out. -/
def shownField (name : String) (value : LogValue) : String :=
  if name = "duration_ms" then name ++ "=" ++ paint "38;5;108" value.shown ++ "ms"
  else if name ∈ ["path", "source", "file"] then name ++ "=" ++ paint "38;5;109" value.shown
  else name ++ "=" ++ value.shown

/-- The value that a field name stands for: of fields with the same name, the
last one with a value counts. -/
def value? (entry : LogEntry) (name : String) : Option LogValue :=
  entry.fields.reverse.findSome? fun (other, value) => if other = name then value else none

/-- The fields, each with the value its name stands for. -/
def shownFields (entry : LogEntry) : List String :=
  entry.fields.filterMap fun (name, _) => (entry.value? name).map (shownField name)

/-- An entry as a line for a reader, with the time at which it was made. -/
def line (seconds : Int) (entry : LogEntry) : String :=
  let parts := [paint "38;5;107" (clockTime seconds)] ++ (attention entry.level).toList ++
    (if entry.logger = "" then [] else [paint "38;5;108" entry.logger]) ++
    [paint "38;5;223" entry.message] ++
    (if entry.shownFields.isEmpty then [] else [Text.join " " entry.shownFields])
  Text.join "  " parts ++ "\n"

/-- The escape of a character inside a JSON string. -/
private def jsonEscape (c : Char) : List Char :=
  match c with
  | '"' => ['\\', '"']
  | '\\' => ['\\', '\\']
  | '\n' => ['\\', 'n']
  | '\r' => ['\\', 'r']
  | '\t' => ['\\', 't']
  | c => if c.toNat < 0x20 then '\\' :: 'u' :: Text.hexDigits 4 c.toNat else [c]

private def jsonString (text : String) : String :=
  String.ofList ('"' :: text.toList.flatMap jsonEscape ++ ['"'])

private def jsonValue : LogValue → String
  | .text value => jsonString value
  | .int value => toString value
  | .float value => value.toPlain
  | .bool value => if value then "true" else "false"
  | .texts values => "[" ++ Text.join "," (values.map jsonString) ++ "]"

private def jsonField (name value : String) : String := jsonString name ++ ":" ++ value

/-- An entry as a JSON object on a line of its own, with the time at which it
was made and the run it belongs to. -/
def json (seconds : Int) (run : String) (entry : LogEntry) : String :=
  let fields :=
    [jsonField "level" (jsonString entry.level.word), jsonField "ts" (toString seconds)] ++
    (if entry.logger = "" then [] else [jsonField "logger" (jsonString entry.logger)]) ++
    [jsonField "msg" (jsonString entry.message), jsonField "run_id" (jsonString run)] ++
    entry.fields.filterMap fun (name, value) => value.map fun value =>
      jsonField name (jsonValue value)
  "\x7b" ++ Text.join "," fields ++ "\x7d\n"

end LogEntry

end DomainGen
