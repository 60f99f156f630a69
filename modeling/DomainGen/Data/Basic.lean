/-!
# Data trees

What is written out by the data formats: texts, truth values, whole numbers,
lists, and records whose fields keep their order.
-/

namespace DomainGen

/-- A tree of data. -/
inductive Data where
  | text (value : String)
  | bool (value : Bool)
  | int (value : Int)
  | list (items : List Data)
  | record (fields : List (String × Data))
  deriving Repr, Inhabited

namespace Data

/-- A field that is left out when its text is empty. -/
def textField (name value : String) : List (String × Data) :=
  if value = "" then [] else [(name, .text value)]

/-- A field that is left out when it is false. -/
def flagField (name : String) (value : Bool) : List (String × Data) :=
  if value then [(name, .bool true)] else []

/-- A field that is left out when it has no items. -/
def listField (name : String) (items : List Data) : List (String × Data) :=
  if items.isEmpty then [] else [(name, .list items)]

end Data

end DomainGen
