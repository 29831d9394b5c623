import ImportBoundary.Edge.Record
import ImportBoundary.Proofs.Path.Canonical

/-!
# Which records are edges

From an absolute directory a record is an edge as soon as its fields and its location are in order
(`ofRecord_eq`), since its source is absolute then. What is wrong otherwise is known from the fields
alone (`completeLocation`).
-/

namespace ImportBoundary

theorem Json.integer_eq_infinite_iff {v : Json} :
    v.integer = .infinite ↔ ∃ negative, v = .float (.infinite negative) := by
  cases v with
  | float x => cases x <;> simp [Json.integer, Binary64.truncate]
  | str s => cases h : Number.integer? s.toList <;> simp [Json.integer, h]
  | _ => simp [Json.integer]

namespace Edge

/-- The location of a record that has all its fields. -/
def completeLocation (fields : List (String × Json)) : Except RecordFault (Option Location) :=
  let missing := requiredFields.filter fun name => (fieldOf fields name).isEmptyValue
  if !missing.isEmpty then .error (.missingFields missing) else locationOf fields

/-- The edge of a record with its location; the source is taken from the directory `root`. -/
def edgeAt (root : String) (fields : List (String × Json)) (location : Option Location) : Edge :=
  let source := Path.normalize "/" (Path.normalize root (fieldOf fields "source_file").asText)
  let specifier := (fieldOf fields "import_specifier").asText
  { sourceFile := source
    specifier
    target := Path.normalize (Path.parent source) specifier
    location }

theorem ofRecord_eq {root : String} (absolute : Path.isAbsolute root = true)
    (fields : List (String × Json)) :
    ofRecord root fields = (completeLocation fields).map (edgeAt root fields) := by
  have source : Path.isAbsolute
      (Path.normalize root (fieldOf fields "source_file").asText) = true :=
    Path.isAbsolute_normalize absolute _
  simp only [ofRecord, completeLocation, create, source, if_true]
  split
  · rfl
  · cases locationOf fields <;> rfl

/-! ## Infinite locations -/

/-- The line is infinite, or there is a line and the column is infinite. -/
def IsInfinite (line column : Json) : Prop :=
  (∃ negative, line = .float (.infinite negative)) ∨
    (∃ n, line.integer = .integer n) ∧ ∃ negative, column = .float (.infinite negative)

theorem columnReading_eq_infinite_iff {column : Json} :
    (if column.isEmptyValue then .integer 0 else column.integer) = IntegerReading.infinite ↔
      ∃ negative, column = .float (.infinite negative) := by
  split
  · next empty =>
    refine iff_of_false nofun ?_
    rintro ⟨negative, rfl⟩
    cases empty
  · exact Json.integer_eq_infinite_iff

theorem locationOf_eq_infinite_iff {fields : List (String × Json)} :
    locationOf fields = .error .infiniteLocation ↔
      IsInfinite (fieldOf fields "line") (fieldOf fields "column") := by
  rw [IsInfinite, ← Json.integer_eq_infinite_iff, ← columnReading_eq_infinite_iff]
  simp only [locationOf]
  generalize (if (fieldOf fields "column").isEmptyValue then .integer 0
    else (fieldOf fields "column").integer) = column
  split
  · next line => simp [line, Json.integer]
  · cases (fieldOf fields "line").integer <;> cases column <;> simp

/-- The record has its required fields and an infinite location. -/
def HasInfiniteLocation (fields : List (String × Json)) : Prop :=
  (∀ name ∈ requiredFields, (fieldOf fields name).isEmptyValue = false) ∧
    IsInfinite (fieldOf fields "line") (fieldOf fields "column")

theorem completeLocation_eq_infinite_iff {fields : List (String × Json)} :
    completeLocation fields = .error .infiniteLocation ↔ HasInfiniteLocation fields := by
  have required : (requiredFields.filter fun name => (fieldOf fields name).isEmptyValue) = [] ↔
      ∀ name ∈ requiredFields, (fieldOf fields name).isEmptyValue = false := by
    simp [List.filter_eq_nil_iff]
  rw [HasInfiniteLocation, ← locationOf_eq_infinite_iff, ← required]
  simp only [completeLocation]
  cases requiredFields.filter fun name => (fieldOf fields name).isEmptyValue <;> simp

/-- What is wrong with a record is told to its writer, unless its location is infinite. -/
theorem completeLocation_eq_error {fields : List (String × Json)} {fault : RecordFault}
    (h : completeLocation fields = .error fault) :
    (∃ names, fault = .missingFields names) ∨ (∃ line column, fault = .badLocation line column) ∨
      fault = .infiniteLocation := by
  simp only [completeLocation, locationOf] at h
  split at h
  · exact .inl ⟨_, (Except.error.inj h).symm⟩
  split at h
  · cases h
  · split at h <;> cases h <;> simp

end Edge

end ImportBoundary
