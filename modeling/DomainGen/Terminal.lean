import DomainGen.Failure.Basic

/-!
# Messages on a terminal

How results, warnings and failures are shown.  A message has a label in front;
further lines of the message are indented to stand below the first.  Colours
are escape sequences around each line, and can be left out.
-/

namespace DomainGen.Terminal

/-- How messages are shown: in colour, without, or without any layout. -/
inductive Styling where
  | colored | plain | raw
  deriving Repr, DecidableEq, Inhabited

private def escapeCode (codes : String) : String := "\x1b[" ++ codes ++ "m"

private def wrapped (codes line : String) : String :=
  escapeCode codes ++ line ++ escapeCode "0"

/-- A text in a colour, line by line. -/
def colored (styling : Styling) (codes text : String) : String :=
  match styling with
  | .colored => Text.join "\n" ((Text.lines text).map (wrapped codes))
  | _ => text

/-- A text in red. -/
def red (styling : Styling) (text : String) : String := colored styling "31" text

/-- A text in green. -/
def green (styling : Styling) (text : String) : String := colored styling "32" text

/-- A text in yellow. -/
def yellow (styling : Styling) (text : String) : String := colored styling "33" text

/-- A text in light cyan. -/
def lightCyan (styling : Styling) (text : String) : String := colored styling "96" text

/-- What a message is. -/
inductive Label where
  | success | info | warning | error
  deriving Repr, DecidableEq, Inhabited

namespace Label

/-- The label as it is shown. -/
def text : Label → String
  | success => " SUCCESS "
  | info => " INFO "
  | warning => " WARNING "
  | error => "  ERROR  "

/-- The colours of the label. -/
def labelCodes : Label → String
  | success => "30;42"
  | info => "30;46"
  | warning => "30;43"
  | error => "30;101"

/-- The colour of the message. -/
def messageCodes : Label → String
  | success => "32"
  | info => "96"
  | warning => "33"
  | error => "91"

/-- The label without layout. -/
def word : Label → String
  | success => "SUCCESS"
  | info => "INFO"
  | warning => "WARNING"
  | error => "ERROR"

end Label

private def twice (styling : Styling) (codes line : String) : String :=
  match styling with
  | .colored => wrapped codes (wrapped codes line)
  | _ => line

private def labelledLine (styling : Styling) (label : Label) (lead line : String) : String :=
  twice styling label.labelCodes lead ++ " " ++ twice styling label.messageCodes line

/-- A message with its label, through the end of its last line. -/
def labelled (styling : Styling) (label : Label) (text : String) : String :=
  match styling with
  | .raw => label.word ++ ": " ++ text ++ "\n"
  | _ =>
      let trimmed := String.ofList (text.toList.reverse.dropWhile (· = '\n')).reverse
      let indentation := Text.repeated label.text.length " "
      match Text.lines trimmed with
      | [] => "\n"
      | first :: rest =>
          Text.join "\n" (labelledLine styling label label.text first ::
            rest.map (labelledLine styling label indentation)) ++ "\n"

/-- A diagnostic with the offending token and what could be done about it. -/
def diagnostic (styling : Styling) (finding : Diagnostic) : String :=
  let message := match finding.severity with
    | .error => red styling finding.message
    | .warning => yellow styling finding.message
    | .note => finding.message
  let token := if finding.token = "" then ""
    else "\n  " ++ yellow styling "Token:" ++ " '" ++ finding.token ++ "'"
  let suggestions := if finding.suggestions.isEmpty then ""
    else "\n  " ++ green styling "Suggestions:" ++
      String.join (finding.suggestions.map ("\n    • " ++ ·))
  lightCyan styling finding.location ++ message ++ token ++ suggestions

/-- A failure: malformed input as a diagnostic, anything else as an error with
its hints. -/
def failure (styling : Styling) (failure : Failure) : String :=
  match failure.diagnostic? with
  | some finding => diagnostic styling finding ++ "\n"
  | none =>
      labelled styling .error failure.text ++
        String.join (failure.hints.map (labelled styling .info))

end DomainGen.Terminal
