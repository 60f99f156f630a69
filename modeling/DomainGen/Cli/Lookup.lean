import DomainGen.Cli.Command
import DomainGen.Text.Case

/-!
# Which command is meant

The first word of a command line that is neither a flag nor the value of one
names a command, the next such word a command below it, and so on as long as
there is one of that name.
-/

namespace DomainGen.Cli

/-- Whether the value of a flag is the next word.  Flags that are not known count
as such flags. -/
def takesNext (flags : List Flag) (word : String) : Bool :=
  match word.toList with
  | '-' :: '-' :: name =>
      !name.contains '=' &&
        !(flags.find? (·.name = String.ofList name)).any (·.kind.implied?.isSome)
  | ['-', letter] =>
      letter ≠ '=' && letter.toNat < 128 &&
        !(flags.find? (·.letter = some letter)).any (·.kind.implied?.isSome)
  | _ => false

private def isFlagWord (word : String) : Bool := word.toList.head? = some '-'

/-- The words of a command line without flags and their values. -/
def plainWords (flags : List Flag) : List String → List String
  | [] => []
  | word :: rest =>
      if word = "--" then []
      else if takesNext flags word then
        match rest with
        | _ :: next :: others => plainWords flags (next :: others)
        | _ => []
      else if word ≠ "" && !isFlagWord word then word :: plainWords flags rest
      else plainWords flags rest

/-- A command line without the first word of some spelling that is not the value
of a flag. -/
def withoutWord (flags : List Flag) (spelling : String) : List String → List String
  | [] => []
  | word :: rest =>
      if word = "--" then word :: rest
      else if takesNext flags word then
        match rest with
        | [] => [word]
        | value :: others => word :: value :: withoutWord flags spelling others
      else if !isFlagWord word && word = spelling then rest
      else word :: withoutWord flags spelling rest

/-- The flags that are known while a command is looked up. -/
def lookupFlags (command : Command) : List Flag := command.flags ++ Command.globalFlags

/-- Follow the words of a command line from a command, at most `depth` times. -/
def follow : (depth : Nat) → Command → List String → Command × List String
  | 0, command, line => (command, line)
  | depth + 1, command, line =>
      match plainWords (lookupFlags command) line with
      | [] => (command, line)
      | word :: _ =>
          match command.children.find? (·.name = word) with
          | none => (command, line)
          | some child => follow depth child (withoutWord (lookupFlags command) word line)

/-- The next row of the table of distances between the starts of two words. -/
private def nextRow (c : UInt8) : (left diagonal : Nat) → List UInt8 → List Nat → List Nat
  | left, diagonal, d :: rest, above :: row =>
      let cost := min (min (above + 1) (left + 1)) (diagonal + (if c = d then 0 else 1))
      cost :: nextRow c cost above rest row
  | _, _, _, _ => []

private def distanceRows (target : List UInt8) : List UInt8 → (first : Nat) → List Nat → Nat
  | [], first, row => row.getLast?.getD first
  | c :: rest, first, row =>
      distanceRows target rest (first + 1) (nextRow c (first + 1) first target row)

/-- The least number of bytes to insert, remove or replace to get from one word to
another. -/
def editDistance (source target : List UInt8) : Nat :=
  distanceRows target source 0 ((List.range target.length).map (· + 1))

/-- The commands that a misspelled word may mean. -/
def suggestions (word : String) : List String :=
  ((Command.root.children.filter (· ≠ .help)).map (·.name)).filter fun name =>
    editDistance (Text.lowerCase word).toUTF8.toList (Text.lowerCase name).toUTF8.toList ≤ 2 ||
      Text.startsWith (Text.lowerCase word) (Text.lowerCase name)

private def suggestionText (word : String) : String :=
  match suggestions word with
  | [] => ""
  | names => "\n\nDid you mean this?\n" ++ String.join (names.map fun name => "\t" ++ name ++ "\n")

/-- The command that a command line means, and the rest of the line.  Below the
root, words that name no command are left to the command. -/
def lookup (line : List String) : Except String (Command × List String) :=
  let (command, rest) := follow 3 .root line
  match command, plainWords (lookupFlags command) rest with
  | .root, word :: _ =>
      .error ("unknown command " ++ Text.quoted word ++ " for " ++ Text.quoted Command.root.path ++
        suggestionText word)
  | _, _ => .ok (command, rest)

end DomainGen.Cli
