import ImportBoundary.Json.Basic
import ImportBoundary.Number.Shortest
import ImportBoundary.Text.Quoted

/-!
# Values in messages

How a message shows a JSON value: strings quoted, the constants as the words `None`, `True` and
`False`, lists and objects between their brackets with a comma and a blank between members. Objects
keep the order of the document. An integer that has been read from a text has at most
`Number.maxDigits` digits, and is written out in full.
-/

namespace ImportBoundary.Json

open Text

mutual

/-- The text of a value in a message. -/
def display : Json → String
  | .null => "None"
  | .bool b => if b then "True" else "False"
  | .int n => toString n
  | .float x => x.text
  | .str s => quoted s
  | .arr items => "[" ++ ", ".intercalate (displayItems items) ++ "]"
  | .obj fields => "\x7b" ++ ", ".intercalate (displayFields fields) ++ "\x7d"

def displayItems : List Json → List String
  | [] => []
  | v :: rest => display v :: displayItems rest

def displayFields : List (String × Json) → List String
  | [] => []
  | (name, v) :: rest => (quoted name ++ ": " ++ display v) :: displayFields rest

end

/-- A string stands for itself; any other value is shown as in a message. -/
def asText : Json → String
  | .str s => s
  | v => v.display

end ImportBoundary.Json
