import DomainGen.Cli.Command

/-!
# Help texts

What a command does, how it is called, the commands below it and the flags it
knows.
-/

namespace DomainGen.Cli

/-- A flag with its letter, name and value. -/
def flagLabel (flag : Flag) : String :=
  (match flag.letter with
    | some letter => "  -" ++ String.singleton letter ++ ", --"
    | none => "      --") ++ flag.name ++
    (if flag.kind.valueName = "" then "" else " " ++ flag.kind.valueName)

/-- What a flag is for, and what holds without it. -/
def flagDescription (flag : Flag) : String :=
  flag.description ++
    (if flag.default = "" then "" else " (default " ++ Text.quoted flag.default ++ ")")

/-- The lines about some flags, sorted by name, with descriptions below each
other. -/
def flagLines (flags : List Flag) : List String :=
  let sorted := flags.mergeSort fun one other => one.name ≤ other.name
  let width := (sorted.map fun flag => (flagLabel flag).length).foldl max 0
  sorted.map fun flag => Text.padRight width (flagLabel flag) ++ "   " ++ flagDescription flag

/-- The least width of the names in a list of commands. -/
def nameWidth : Nat := 11

private def titled (title : String) (lines : List String) : String :=
  if lines.isEmpty then "" else "\n\n" ++ title ++ "\n" ++ Text.join "\n" lines

/-- How a command is called. -/
def usageText (command : Command) : String :=
  let below := command.listing
  "Usage:" ++
    (if command.isRunnable then
      "\n  " ++ (match command.parent? with
        | some parent => parent.path ++ " "
        | none => "") ++ command.usage ++ " [flags]"
    else "") ++
    (if below.isEmpty then "" else "\n  " ++ command.path ++ " [command]") ++
    titled "Available Commands:"
      (below.map fun (name, summary) => "  " ++ Text.padRight nameWidth name ++ " " ++ summary) ++
    titled "Flags:" (flagLines (command.flags ++ [command.helpFlag] ++
      (if command = .root then Command.globalFlags else []))) ++
    titled "Global Flags:" (flagLines (if command = .root then [] else Command.globalFlags)) ++
    (if below.isEmpty then ""
      else "\n\nUse \"" ++ command.path ++
        " [command] --help\" for more information about a command.") ++
    "\n"

/-- The help text of a command. -/
def helpText (command : Command) : String :=
  command.description ++ "\n\n" ++ usageText command

end DomainGen.Cli
