import DomainGen.Config.Basic
import DomainGen.Config.Layer

/-!
# From settings to a configuration

Settings are taken over generously: a number can stand for a text, a text for a
number or a truth value.  All settings that cannot be taken over are reported
together, one line each.
-/

namespace DomainGen.Config

open Toml (Value Table Moment Date Time)

/-- The name of the type that a moment has. -/
private def momentType : Moment → String
  | .date _ => "toml.LocalDate"
  | .time _ => "toml.LocalTime"
  | .dateTime .. => "toml.LocalDateTime"
  | .instant .. => "time.Time"

/-- The name of the type that a value has. -/
def typeName : Value → String
  | .text _ => "string"
  | .integer _ => "int64"
  | .float _ => "float64"
  | .boolean _ => "bool"
  | .moment moment => momentType moment
  | .array _ => "[]interface \x7b\x7d"
  | .table _ => "map[string]interface \x7b\x7d"

/-- The name of the kind of types that a value belongs to. -/
def kindName : Value → String
  | .array _ => "slice"
  | .moment _ => "struct"
  | .table _ => "map"
  | value => typeName value

private def braced (type : String) (parts : List String) : String :=
  type ++ "\x7b" ++ Text.join ", " parts ++ "\x7d"

private def spelledDate (date : Date) : String :=
  braced "toml.LocalDate" ["Year:" ++ toString date.year, "Month:" ++ toString date.month,
    "Day:" ++ toString date.day]

private def spelledTime (time : Time) : String :=
  braced "toml.LocalTime" ["Hour:" ++ toString time.hour, "Minute:" ++ toString time.minute,
    "Second:" ++ toString time.second, "Nanosecond:" ++ toString time.nanosecond,
    "Precision:" ++ toString time.precision]

private def monthNames : List String :=
  ["January", "February", "March", "April", "May", "June", "July", "August", "September",
    "October", "November", "December"]

private def spelledMoment : Moment → String
  | .date date => spelledDate date
  | .time time => spelledTime time
  | .dateTime date time =>
      braced "toml.LocalDateTime"
        ["LocalDate:" ++ spelledDate date, "LocalTime:" ++ spelledTime time]
  | .instant date time ahead =>
      "time.Date(" ++ Text.join ", "
        [toString date.year, "time." ++ monthNames.getD (date.month - 1) "", toString date.day,
          toString time.hour, toString time.minute, toString time.second,
          toString time.nanosecond, if ahead = 0 then "time.UTC" else "time.Location(\"\")"] ++ ")"

mutual

/-- A value with its type. -/
def spelled : Value → String
  | .text value => Text.quoted value
  | .integer value => toString value
  | .float value => value.text
  | .boolean value => if value then "true" else "false"
  | .moment value => spelledMoment value
  | .array items => braced "[]interface \x7b\x7d" (spelledItems items)
  | .table entries =>
      braced "map[string]interface \x7b\x7d"
        (((spelledEntries entries).mergeSort fun one other => one.1 ≤ other.1).map
          fun (key, value) => Text.quoted key ++ ":" ++ value)

/-- Values with their types. -/
def spelledItems : List Value → List String
  | [] => []
  | item :: rest => spelled item :: spelledItems rest

/-- The values of a table with their types. -/
def spelledEntries : List (String × Value) → List (String × String)
  | [] => []
  | (key, value) :: rest => (key, spelled value) :: spelledEntries rest

end

private def unconvertible (name wanted : String) (value : Value) : String :=
  "'" ++ name ++ "' expected type '" ++ wanted ++ "', got unconvertible type '" ++
    typeName value ++ "', value: '" ++ value.shown ++ "'"

/-- A value as a text. -/
def asText (name : String) : Value → Except String String
  | .text value => .ok value
  | .boolean value => .ok (if value then "1" else "0")
  | .integer value => .ok (toString value)
  | .float value => .ok value.toPlain
  | value => .error (unconvertible name "string" value)

/-- The least integer of 64 bits, which a number out of their range becomes. -/
def leastInteger : Int := -9223372036854775808

/-- A value as an integer. -/
def asInteger (name : String) : Value → Except String Int
  | .integer value => .ok value
  | .float value => .ok (value.truncated?.getD leastInteger)
  | .boolean value => .ok (if value then 1 else 0)
  | .text value =>
      let digits := if value = "" then "0" else value
      (Number.readInteger 0 digits).mapError fun fault =>
        "cannot parse '" ++ name ++ "' as int: " ++ fault.text "ParseInt" digits
  | value => .error (unconvertible name "int" value)

/-- A value as a truth value. -/
def asBool (name : String) : Value → Except String Bool
  | .boolean value => .ok value
  | .integer value => .ok (value ≠ 0)
  | .float value => .ok (!value.isZero)
  | .text value =>
      match Number.readBool? value with
      | some value => .ok value
      | none =>
          if value = "" then .ok false
          else .error ("cannot parse '" ++ name ++ "' as bool: " ++
            NumberFault.malformed.text "ParseBool" value)
  | value =>
      .error ("'" ++ name ++ "' expected type '%!s(bool=false)', got unconvertible type '" ++
        spelled value ++ "', value: '" ++ spelled value ++ "'")

/-- A section of the settings.  A moment counts as a section without settings. -/
def asSection (table : Table) (name : String) : Except String Table :=
  match table.get? name with
  | none => .ok []
  | some (.table entries) => .ok entries
  | some (.moment _) => .ok []
  | some value => .error ("'" ++ name ++ "' expected a map, got '" ++ kindName value ++ "'")

/-- A setting of a section.  A setting that is missing is `absent`. -/
def asField {α : Type} (section_ : Table) (sectionName name : String) (absent : α)
    (convert : String → Value → Except String α) : Except String α :=
  match section_.get? name with
  | none => .ok absent
  | some value => convert (sectionName ++ "." ++ name) value

private def complaints {α : Type} : Except String α → List String
  | .ok _ => []
  | .error complaint => [complaint]

/-- The configuration that settings describe.  A setting that is missing is empty
or zero. -/
def ofSettings (settings : Table) : Except (List String) Config :=
  let generate := asSection settings "generate"
  let java := asSection settings "java"
  let log := asSection settings "log"
  let watch := asSection settings "watch"
  let field {α : Type} (found : Except String Table) (sectionName name : String) (absent : α)
      (convert : String → Value → Except String α) : Except String α :=
    asField (found.toOption.getD []) sectionName name absent convert
  let target := field generate "generate" "target" "" asText
  let destination := field generate "generate" "destination" "" asText
  let root := field generate "generate" "root" "" asText
  let quiet := field generate "generate" "quiet" false asBool
  let rootPackage := field java "java" "root_package" "" asText
  let jsonLog := field log "log" "json" false asBool
  let verbosity := field log "log" "verbosity" 0 asInteger
  let debounceMs := field watch "watch" "debounce_ms" 0 asInteger
  let found := complaints generate ++ complaints target ++ complaints destination ++
    complaints root ++ complaints quiet ++ complaints java ++ complaints rootPackage ++
    complaints log ++ complaints jsonLog ++ complaints verbosity ++ complaints watch ++
    complaints debounceMs
  if found.isEmpty then .ok {
    target := target.toOption.getD ""
    destination := destination.toOption.getD ""
    root := root.toOption.getD ""
    quiet := quiet.toOption.getD false
    rootPackage := rootPackage.toOption.getD ""
    jsonLog := jsonLog.toOption.getD false
    verbosity := verbosity.toOption.getD 0
    debounceMs := debounceMs.toOption.getD 0 }
  else .error found

/-- The configuration that settings describe, or a failure with everything that is
wrong with them. -/
def decode (settings : Table) : Except Failure Config :=
  (ofSettings settings).mapError fun complaints =>
    .context "failed to unmarshal config"
      (.external ("decoding failed due to the following error(s):\n\n" ++
        Text.join "\n" complaints))

end DomainGen.Config
