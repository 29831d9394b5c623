import ImportBoundary.Edge.Basic
import ImportBoundary.Json.Display
import ImportBoundary.Number.Integer

/-!
# Edge records

An edge as another tool writes it down: the fields of a JSON object. The source and the specifier
must be there; line and column may be numbers or texts that denote one.
-/

namespace ImportBoundary

open Text

/-- A JSON value read as an integer. -/
inductive IntegerReading
  | integer (n : Int)
  | infinite
  | none
  deriving DecidableEq, Repr

/-- The integer that a value denotes: a fraction is dropped, a truth value counts as one or zero. -/
def Json.integer : Json → IntegerReading
  | .int n => .integer n
  | .bool b => .integer (if b then 1 else 0)
  | .float (.infinite _) => .infinite
  | .float x =>
    match x.truncate with
    | some n => .integer n
    | none => .none
  | .str s =>
    match Number.integer? s.toList with
    | some n => .integer n
    | none => .none
  | _ => .none

namespace Edge

/-- Why a record is no edge. -/
inductive RecordFault
  | missingFields (names : List String)
  | badLocation (line column : Json)
  | infiniteLocation
  | relativeSource (cause : RelativeSource)

/-- The fields that every record has. -/
def requiredFields : List String :=
  ["source_file", "import_specifier"]

/-- The value of a field, null when the field is not there. -/
def fieldOf (fields : List (String × Json)) (name : String) : Json :=
  (fields.lookup name).getD .null

/-- A null line means that the record has no location; an empty column counts as zero. -/
def locationOf (fields : List (String × Json)) : Except RecordFault (Option Location) :=
  let line := fieldOf fields "line"
  let column := fieldOf fields "column"
  match line with
  | .null => .ok none
  | _ =>
    match line.integer, if column.isEmptyValue then .integer 0 else column.integer with
    | .integer line, .integer column => .ok (some { line, column })
    | .infinite, _ => .error .infiniteLocation
    | .integer _, .infinite => .error .infiniteLocation
    | _, _ => .error (.badLocation line column)

/-- The edge of a record; a relative source is taken from the directory `root`. -/
def ofRecord (root : String) (fields : List (String × Json)) : Except RecordFault Edge :=
  let missing := requiredFields.filter fun name => (fieldOf fields name).isEmptyValue
  if !missing.isEmpty then .error (.missingFields missing)
  else
    match locationOf fields with
    | .error fault => .error fault
    | .ok location =>
      let source := Path.normalize root (fieldOf fields "source_file").asText
      match Edge.create source (fieldOf fields "import_specifier").asText location with
      | .error cause => .error (.relativeSource cause)
      | .ok edge => .ok edge

end Edge

end ImportBoundary
