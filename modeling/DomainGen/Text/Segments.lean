/-!
# Segments of a text

Cutting a text at every occurrence of a separator character, and joining
segments back.  Cutting never loses a character: joining the segments with the
separator gives the text again.
-/

namespace DomainGen.Text

/-- Cut a character sequence at every separator.  There is always at least one
segment. -/
def cut (separator : Char) : List Char → List (List Char)
  | [] => [[]]
  | c :: rest =>
      if c = separator then [] :: cut separator rest
      else match cut separator rest with
        | [] => [[c]]
        | segment :: segments => (c :: segment) :: segments

/-- The segments of a text between its separators. -/
def segments (separator : Char) (text : String) : List String :=
  (cut separator text.toList).map String.ofList

/-- The segments of a text joined by a separator text. -/
def join (separator : String) (parts : List String) : String :=
  separator.intercalate parts

/-- The lines of a text; a final line break opens one more, empty line. -/
def lines (text : String) : List String := segments '\n' text

/-- A text, or another one if it is empty. -/
def orElse (text fallback : String) : String := if text = "" then fallback else text

/-- Whether `start` is how a text begins. -/
def startsWith (start text : String) : Bool := start.toList.isPrefixOf text.toList

/-- A text filled up with blanks on the right to a width. -/
def padRight (width : Nat) (text : String) : String :=
  String.ofList (text.toList ++ List.replicate (width - text.length) ' ')

/-- A text repeated. -/
def repeated (count : Nat) (text : String) : String :=
  String.join (List.replicate count text)

/-- A number written with at least two digits. -/
def twoDigits (value : Nat) : String :=
  if value < 10 then "0" ++ toString value else toString value

end DomainGen.Text
