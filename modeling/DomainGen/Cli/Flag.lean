import DomainGen.Number.Read
import DomainGen.Text.Segments
import DomainGen.Text.Utf8

/-!
# Flags

Flags on a command line: long ones after two dashes, one-letter ones after one
dash, several of which can stand together.  A flag that takes a value has it
after an equals sign or as the next word; other flags need none.  Two dashes by
themselves end the flags.
-/

namespace DomainGen.Cli

/-- What a flag stands for. -/
inductive FlagKind where
  | text | switch | count
  deriving Repr, DecidableEq, Inhabited

namespace FlagKind

/-- The name of the value in a help text. -/
def valueName : FlagKind → String
  | text => "string"
  | switch => ""
  | count => "count"

/-- The value of a flag that is given without one. -/
def implied? : FlagKind → Option String
  | text => none
  | switch => some "true"
  | count => some "+1"

end FlagKind

/-- A flag that a command knows. -/
structure Flag where
  name : String
  letter : Option Char := none
  kind : FlagKind
  description : String
  /-- The text that holds when the flag is not given. -/
  default : String := ""
  deriving Repr, DecidableEq, Inhabited

/-- A flag in messages. -/
def Flag.title (flag : Flag) : String :=
  match flag.letter with
  | some letter => "-" ++ String.singleton letter ++ ", --" ++ flag.name
  | none => "--" ++ flag.name

/-- The flags and words of a command line, in order. -/
structure Given where
  values : List (String × String) := []
  words : List String := []
  deriving Repr, DecidableEq, Inhabited

namespace Given

/-- Whether a flag was given. -/
def has (given : Given) (name : String) : Bool := given.values.any (·.1 = name)

/-- The value that was given last. -/
def last? (given : Given) (name : String) : Option String :=
  (given.values.reverse.find? (·.1 = name)).map (·.2)

/-- The value of a flag that takes a text. -/
def text (given : Given) (name : String) (default : String) : String :=
  (given.last? name).getD default

/-- Whether a switch is on. -/
def switch (given : Given) (name : String) : Bool :=
  ((given.last? name).bind Number.readBool?).getD false

private def counted (count : Int) (value : String) : Int :=
  if value = "+1" then count + 1 else (Number.readInteger 0 value).toOption.getD 0

/-- How often a flag was given, counted from the last number given for it. -/
def count (given : Given) (name : String) : Int :=
  ((given.values.filter (·.1 = name)).map (·.2)).foldl counted 0

/-- Add a flag in front. -/
def withValue (name value : String) (given : Given) : Given :=
  { given with values := (name, value) :: given.values }

/-- Add a word in front. -/
def withWord (word : String) (given : Given) : Given :=
  { given with words := word :: given.words }

end Given

/-- Check the value that is given for a flag. -/
def Flag.accept (flag : Flag) (value : String) : Except String Unit :=
  let refuse := fun (reason : String) =>
    Except.error ("invalid argument " ++ Text.quoted value ++ " for " ++ Text.quoted flag.title ++
      " flag: " ++ reason)
  match flag.kind with
  | .text => .ok ()
  | .switch =>
      if (Number.readBool? value).isSome then .ok ()
      else refuse (NumberFault.malformed.text "ParseBool" value)
  | .count =>
      if value = "+1" then .ok ()
      else match Number.readInteger 0 value with
        | .ok _ => .ok ()
        | .error fault => refuse (fault.text "ParseInt" value)

/-- What a word of flags gives: values, and a flag that still needs the next word
for its value, together with the message if there is none. -/
structure Reading where
  values : List (String × String) := []
  pending : Option (Flag × String) := none
  deriving Repr, DecidableEq, Inhabited

/-- Read one-letter flags that stand together. -/
def readLetters (flags : List Flag) : List Char → Except String Reading
  | [] => .ok {}
  | letter :: rest => do
      let cluster := String.ofList (letter :: rest)
      if Text.startsWith "test." cluster then return {}
      match flags.find? (·.letter = some letter) with
      | none =>
          throw ("unknown shorthand flag: " ++ Text.quotedChar (Text.leadByte letter) ++ " in -" ++
            cluster)
      | some flag =>
          match rest, flag.kind.implied? with
          | '=' :: c :: more, _ =>
              let value := String.ofList (c :: more)
              flag.accept value
              return { values := [(flag.name, value)] }
          | _, some value =>
              flag.accept value
              let found ← readLetters flags rest
              return { found with values := (flag.name, value) :: found.values }
          | [], none =>
              return { pending := some (flag, "flag needs an argument: " ++
                Text.quotedChar letter ++ " in -" ++ cluster) }
          | _, none =>
              let value := String.ofList rest
              flag.accept value
              return { values := [(flag.name, value)] }

/-- Read a long flag, after its dashes. -/
def readLong (flags : List Flag) (body : List Char) : Except String Reading := do
  if body.head?.any fun c => c = '-' || c = '=' then
    throw ("bad flag syntax: --" ++ String.ofList body)
  let name := String.ofList (body.takeWhile (· ≠ '='))
  match flags.find? (·.name = name) with
  | none => throw ("unknown flag: --" ++ name)
  | some flag =>
      match body.dropWhile (· ≠ '='), flag.kind.implied? with
      | _ :: value, _ =>
          flag.accept (String.ofList value)
          return { values := [(flag.name, String.ofList value)] }
      | [], some value =>
          flag.accept value
          return { values := [(flag.name, value)] }
      | [], none => return { pending := some (flag, "flag needs an argument: --" ++ name) }

/-- Read a command line. -/
def readArguments (flags : List Flag) : List String → Except String Given
  | [] => .ok {}
  | word :: rest => do
      let finish := fun (found : Reading) (given : Given) =>
        ({ given with values := found.values ++ given.values } : Given)
      let reading ← match word.toList with
        | '-' :: '-' :: c :: body => (readLong flags (c :: body)).map some
        | ['-', '-'] => pure none
        | '-' :: c :: letters => (readLetters flags (c :: letters)).map some
        | _ => pure none
      match reading with
      | none =>
          if word = "--" then return { words := rest }
          else return (← readArguments flags rest).withWord word
      | some found =>
          match found.pending with
          | none => return finish found (← readArguments flags rest)
          | some (flag, message) =>
              match rest with
              | [] => throw message
              | value :: others =>
                  flag.accept value
                  let given ← readArguments flags others
                  return finish found (given.withValue flag.name value)

end DomainGen.Cli
