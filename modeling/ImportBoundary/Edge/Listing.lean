import ImportBoundary.Edge.Record
import ImportBoundary.Host
import ImportBoundary.Text.Blank
import ImportBoundary.Text.Lines

/-!
# Lists of edge records

A list of records is either one JSON array or one JSON value per line, blank lines aside. Records
are taken in order, and the first thing that is wrong ends the reading.
-/

namespace ImportBoundary.Edge

open Text

/-- Where in a list the JSON is read: the whole text, or one of its lines. -/
inductive Part
  | whole
  | line (number : Nat)
  deriving DecidableEq, Repr

/-- Why a text is no list of edges; there may also be no room to write out a value of a record
(`untold`). -/
inductive ListFault
  | unreadable (part : Part) (cause : Json.ReadFailure)
  | notRecord (index : Nat) (value : Json)
  | badRecord (cause : RecordFault)
  | untold

section

variable [Host]

/-- There is room to write out the values of a record that are: its location when that is wrong, and
otherwise its source and its specifier. -/
def writesOut (fields : List (String × Json)) : Except RecordFault Edge → Bool
  | .error (.badLocation line column) => Host.shows line && Host.shows column
  | .error (.missingFields _) | .error .infiniteLocation => true
  | _ =>
    Host.shows (fieldOf fields "source_file") && Host.shows (fieldOf fields "import_specifier")

/-- The edge of a value at position `index` of a list. -/
def ofValue (root : String) (index : Nat) : Json → Except ListFault Edge
  | .obj fields =>
    let edge := ofRecord root fields
    if writesOut fields edge then edge.mapError .badRecord else .error .untold
  | value => .error (.notRecord index value)

/-- The edges of values from position `index` on. -/
def ofValues (root : String) (index : Nat) : List Json → Except ListFault (List Edge)
  | [] => .ok []
  | value :: rest =>
    match ofValue root index value with
    | .error fault => .error fault
    | .ok edge => (ofValues root (index + 1) rest).map (edge :: ·)

/-- The edges of the lines from line `number` on, where `index` records have come before. -/
def ofLines (root : String) (number index : Nat) : List (List Char) → Except ListFault (List Edge)
  | [] => .ok []
  | line :: rest =>
    if isAllBlank line then ofLines root (number + 1) index rest
    else
      match Host.document line with
      | .error cause => .error (.unreadable (.line number) cause)
      | .ok value =>
        match ofValue root index value with
        | .error fault => .error fault
        | .ok edge => (ofLines root (number + 1) (index + 1) rest).map (edge :: ·)

/-- The edges of a text: an array if it starts with a bracket, blanks aside, and lines otherwise. -/
def listOfText (root : String) (text : List Char) : Except ListFault (List Edge) :=
  match dropBlankLeft text with
  | '[' :: rest =>
    match Host.document ('[' :: rest) with
    | .error cause => .error (.unreadable .whole cause)
    | .ok value => ofValues root 0 (match value with | .arr items => items | _ => [])
  | _ => ofLines root 1 0 (splitLines text)

end

end ImportBoundary.Edge
