import ImportBoundary.Check.Report
import ImportBoundary.Proofs.Json.Lines
import Mathlib.Data.List.Forall2

/-!
# Reports that are read back

The text of a report has one line for each of its violations, and each line is read as the object of
its violation, whatever is in its strings and whichever numbers its location has, as long as they are
short enough to be read at all (`readBack_text`). So the text of a report says all that is in it.
-/

namespace ImportBoundary

open Text

/-- The numbers of a location have few enough digits to be read. -/
def Location.IsReadable (l : Location) : Prop :=
  (Nat.toDigits 10 l.line.natAbs).length ≤ Number.maxDigits ∧
    (Nat.toDigits 10 l.column.natAbs).length ≤ Number.maxDigits

instance (l : Location) : Decidable l.IsReadable :=
  inferInstanceAs (Decidable (_ ∧ _))

namespace Violation

/-- The location, if there is one, can be read. -/
def IsReadable (v : Violation) : Prop :=
  ∀ l ∈ v.location, l.IsReadable

/-- The names of the fields that every violation has. -/
def fieldNames : List String :=
  ["rule_id", "source_file", "import_specifier", "resolved_import_path", "zone_or_rule_name",
    "message", "line", "column"]

variable {v w : Violation}

theorem nodup_fieldNames : fieldNames.Nodup := by
  decide

theorem toJson_eq (v : Violation) :
    ∃ fields, v.toJson = .obj fields ∧ fields.map (·.1) = fieldNames ∧
      ∀ f ∈ fields, f.2.sorted = f.2 := by
  refine ⟨_, rfl, rfl, ?_⟩
  simp only [List.forall_mem_cons, List.not_mem_nil, false_implies, implies_true, and_true]
  cases v.location <;> exact ⟨rfl, rfl, rfl, rfl, rfl, rfl, rfl, rfl⟩

theorem writable_toJson (readable : v.IsReadable) : Json.Writable v.toJson := by
  have numbers : Json.Writable (lineJson v.location) ∧ Json.Writable (columnJson v.location) := by
    cases located : v.location with
    | none => exact ⟨.null, .null⟩
    | some l =>
      obtain ⟨line, column⟩ := readable l located
      exact ⟨.int line, .int column⟩
  refine .obj nodup_fieldNames ?_
  simp only [List.forall_mem_cons, List.not_mem_nil, false_implies, implies_true, and_true]
  exact ⟨.str _, .str _, .str _, .str _, .str _, .str _, numbers⟩

/-- The line of a violation is read as its object. -/
theorem readBack_line (readable : v.IsReadable) :
    ∃ read, Json.parse (Json.line v.toJson) = .ok read ∧ read.SameMembers v.toJson := by
  refine ⟨_, (writable_toJson readable).parse_line, ?_⟩
  obtain ⟨fields, object, names, flat⟩ := toJson_eq v
  have perm := Json.sortFields_perm fields
  rw [object, Json.sorted_obj_of_flat flat]
  refine ⟨_, _, rfl, rfl, (perm.map Prod.fst).nodup_iff.mpr ?_, perm⟩
  exact names ▸ nodup_fieldNames

/-- Violations with the same line have the same object. -/
theorem toJson_eq_of_line (readable : v.IsReadable) (readable' : w.IsReadable)
    (same : Json.line v.toJson = Json.line w.toJson) : v.toJson = w.toJson := by
  have read := (writable_toJson readable).parse_line
  rw [same, (writable_toJson readable').parse_line] at read
  obtain ⟨fields, object, names, flat⟩ := toJson_eq v
  obtain ⟨others, object', names', flat'⟩ := toJson_eq w
  rw [object, object', Json.sorted_obj_of_flat flat, Json.sorted_obj_of_flat flat'] at read
  have sorted : Json.sortFields others = Json.sortFields fields :=
    Json.obj.inj (Except.ok.inj read)
  have perm : fields.Perm others :=
    (Json.sortFields_perm fields).symm.trans (sorted ▸ Json.sortFields_perm others)
  rw [object, object',
    Json.eq_of_perm (names.trans names'.symm) (names ▸ nodup_fieldNames) perm]

end Violation

namespace Report

variable {vs ws : List Violation}

/-- The lines of a report are found in its text. -/
theorem splitNewlines_text (some_violation : vs ≠ []) (readable : ∀ v ∈ vs, v.IsReadable) :
    splitNewlines (Report.mk vs).text.toList = vs.map fun v => Json.line v.toJson := by
  have some_value : vs.map Violation.toJson ≠ [] := by simpa using some_violation
  have writable : ∀ v ∈ vs.map Violation.toJson, Json.Writable v :=
    List.forall_mem_map.mpr fun v hv => Violation.writable_toJson (readable v hv)
  have lines := Json.splitNewlines_lines some_value writable
  rw [List.map_map] at lines
  rw [text, String.toList_ofList, Report.lines, toJson, List.map_map]
  exact lines

/-- Only the empty report has an empty text. -/
theorem text_ne_of_nil (some_violation : vs ≠ []) (readable : ∀ v ∈ vs, v.IsReadable) :
    (Report.mk []).text ≠ (Report.mk vs).text := by
  intro same
  have split := splitNewlines_text some_violation readable
  rw [← same] at split
  have empty : splitNewlines (Report.mk []).text.toList = [[]] := rfl
  cases vs with
  | nil => exact some_violation rfl
  | cons v vs =>
    rw [empty, List.map_cons] at split
    obtain ⟨fields, object, -⟩ := v.toJson_eq
    rw [object] at split
    cases (List.cons.inj split).1

theorem toJson_eq_of_lines (readable : ∀ v ∈ vs, v.IsReadable) (readable' : ∀ w ∈ ws, w.IsReadable)
    (same : (vs.map fun v => Json.line v.toJson) = ws.map fun w => Json.line w.toJson) :
    (Report.mk vs).toJson = (Report.mk ws).toJson := by
  induction vs generalizing ws with
  | nil =>
    rw [List.map_nil, eq_comm, List.map_eq_nil_iff] at same
    rw [same]
  | cons v vs ih =>
    cases ws with
    | nil => cases same
    | cons w ws =>
      obtain ⟨first, others⟩ := List.cons.inj same
      obtain ⟨hv, readable⟩ := List.forall_mem_cons.mp readable
      obtain ⟨hw, readable'⟩ := List.forall_mem_cons.mp readable'
      exact congrArg₂ List.cons (Violation.toJson_eq_of_line hv hw first)
        (ih readable readable' others)

/-- The text of a report that is not empty has one line for each violation, in order, and each line is
read as the object of its violation. So reports with the same text have the same objects. -/
theorem readBack_text (some_violation : vs ≠ []) (readable : ∀ v ∈ vs, v.IsReadable) :
    List.Forall₂ (fun line v => ∃ read, Json.parse line = .ok read ∧ read.SameMembers v.toJson)
        (splitNewlines (Report.mk vs).text.toList) vs ∧
      ∀ ws, (∀ w ∈ ws, w.IsReadable) → (Report.mk ws).text = (Report.mk vs).text →
        (Report.mk ws).toJson = (Report.mk vs).toJson := by
  have split := splitNewlines_text some_violation readable
  constructor
  · rw [split, List.forall₂_map_left_iff, List.forall₂_same]
    exact fun v hv => Violation.readBack_line (readable v hv)
  · intro ws readable' same
    by_cases some_other : ws = []
    · subst some_other
      exact absurd same (text_ne_of_nil some_violation readable)
    · refine toJson_eq_of_lines readable' readable ?_
      rw [← splitNewlines_text some_other readable', same, split]

/-- A line end, quotes and a control in the strings, a character beyond the basic plane, and negative
numbers. -/
def strangeViolations : List Violation :=
  [⟨.crossZone, "/a\nb\\\".py", "\u2028\x7f", "/\x01", "😀", "\r\n\t", some ⟨-7, 0⟩⟩,
    ⟨.zonePrivate, "", "", "", "null", "\x7b\x7d", none⟩]

theorem readBack_text_strange :
    strangeViolations ≠ [] ∧ (∀ v ∈ strangeViolations, v.IsReadable) ∧
      List.Forall₂ (fun line v => ∃ read, Json.parse line = .ok read ∧ read.SameMembers v.toJson)
        (splitNewlines (Report.mk strangeViolations).text.toList) strangeViolations := by
  have some_violation : strangeViolations ≠ [] := by decide
  have readable : ∀ v ∈ strangeViolations, v.IsReadable := by
    simp only [strangeViolations, List.forall_mem_cons, List.not_mem_nil, false_implies,
      implies_true, and_true]
    exact ⟨fun l hl => by cases hl; decide, nofun⟩
  exact ⟨some_violation, readable, (readBack_text some_violation readable).1⟩

end Report

end ImportBoundary
