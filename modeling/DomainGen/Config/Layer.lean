import DomainGen.Text.Case
import DomainGen.Toml.Document

/-!
# Layers of settings

Settings come from several layers: defaults, files and environment variables.
A setting is known by the names on the way to it, with dots between them and in
lower case.  Files are merged table by table; a variable overrides the setting
it is named after, wherever that comes from.
-/

namespace DomainGen.Config

open Toml (Value Table)

mutual

/-- A value whose keys are in lower case. -/
def lowered : Value → Value
  | .table entries => .table (loweredEntries [] entries)
  | .array items => .array (loweredItems items)
  | value => value

/-- Values whose keys are in lower case. -/
def loweredItems : List Value → List Value
  | [] => []
  | item :: rest => lowered item :: loweredItems rest

/-- The entries of a table under their keys in lower case, after some others.  Of
two keys that become one, the later counts. -/
def loweredEntries (done : Table) : List (String × Value) → Table
  | [] => done
  | (key, value) :: rest =>
      loweredEntries (done.set (Text.lowerCase key) (lowered value)) rest

end

mutual

/-- The names of the settings in a value at a path. -/
def names (path : String) : Value → List String
  | .table entries => namesBelow path entries
  | _ => [path]

/-- The names of the settings in the entries of a table at a path. -/
def namesBelow (path : String) : List (String × Value) → List String
  | [] => []
  | (key, value) :: rest =>
      names (if path = "" then key else path ++ "." ++ key) value ++ namesBelow path rest

end

/-- The names of the settings in a table, without repetition. -/
def settingNames (table : Table) : List String := (namesBelow "" table).eraseDups

/-- The value at a path whose first names, `walked`, belong to one key.  Longer
keys are tried first. -/
def searchFrom (table : Table) (walked : List String) : List String → Option Value
  | [] => none
  | name :: rest =>
      let key := walked ++ [name]
      (searchFrom table key rest).or
        (match table.get? (Text.join "." key) with
          | none => none
          | some value =>
              if rest.isEmpty then some value
              else match value with
                | .table entries => searchFrom entries [] rest
                | _ => none)

/-- The value at the names of a path.  A key may itself have dots. -/
def search (table : Table) (path : List String) : Option Value := searchFrom table [] path

/-- Give the setting at a path a value, opening tables on the way. -/
def assign (value : Value) : List String → Table → Table
  | [], table => table
  | [name], table => table.set name value
  | name :: next :: rest, table =>
      table.set name (.table (assign value (next :: rest)
        (match table.get? name with
          | some (.table entries) => entries
          | _ => [])))

mutual

/-- A value that is merged into what is there.  Tables are merged key by key;
another value replaces what is there, except for a table. -/
def mergeValue (present : Option Value) : Value → Value
  | .table more =>
      match present with
      | some (.table entries) => .table (merge entries more)
      | _ => .table more
  | value =>
      match present with
      | some (.table entries) => .table entries
      | _ => value

/-- A table into which entries are merged. -/
def merge (target : Table) : List (String × Value) → Table
  | [] => target
  | (key, value) :: rest =>
      merge (target.set key (mergeValue (target.get? key) value)) rest

end

/-- The tree of the settings with a value. -/
def tree (settings : List (String × Value)) : Table :=
  settings.foldl (fun table (name, value) => assign value (Text.segments '.' name) table) []

/-- The settings of a table, without tables that have none. -/
def settled (table : Table) : Table :=
  tree ((settingNames table).filterMap fun name =>
    (search table (Text.segments '.' name)).map (name, ·))

/-- What holds where no other layer says anything. -/
def defaults : List (String × Value) :=
  [("generate.target", .text "java"), ("generate.destination", .text ""),
    ("generate.root", .text ""), ("generate.quiet", .boolean false),
    ("java.root_package", .text ""), ("log.json", .boolean false), ("log.verbosity", .integer 0),
    ("watch.debounce_ms", .integer 300)]

/-- The names that a name is below. -/
def parents (name : String) : List String :=
  let path := Text.segments '.' name
  (List.range (path.length - 1)).map fun count => Text.join "." (path.take (count + 1))

/-- The names of all settings: those of the files, and those of the defaults that
no setting of the files stands above. -/
def knownNames (files : Table) : List String :=
  let own := settingNames files
  (own ++ (defaults.map (·.1)).filter fun name => !(parents name).any (own.contains ·)).eraseDups

/-- The variable that overrides a setting. -/
def variableName (name : String) : String :=
  "DDGEN_" ++ (Text.upperCase name).map fun c => if c = '.' then '_' else c

/-- The value of a setting, from the variables that are set, the files and the
defaults.  A variable named after a table takes the settings in it away. -/
def settingValue (assigned : List (String × String)) (files : Table) (name : String) :
    Option Value :=
  match assigned.lookup (variableName name) with
  | some text => some (.text text)
  | none =>
      if (parents name).any fun parent => (assigned.lookup (variableName parent)).isSome then none
      else (search files (Text.segments '.' name)).or (defaults.lookup name)

/-- All settings, as a tree. -/
def settings (assigned : List (String × String)) (files : Table) : Table :=
  tree ((knownNames files).filterMap fun name =>
    (settingValue assigned files name).map (name, ·))

/-- The variables that can matter for the settings of files. -/
def variableNames (files : Table) : List String :=
  ((knownNames files).flatMap fun name =>
    variableName name :: (parents name).map variableName).eraseDups

end DomainGen.Config
