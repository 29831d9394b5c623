import ImportBoundary.Check.Evaluation
import ImportBoundary.Proofs.Edge.Creation

/-!
# Edges from violations

A violation is written with the fields that a record is read from, so a report can be fed back as a
list of edges. What comes out is the edge that went in (`ofRecord_toJson`): its paths are normalized
already, and normalizing the source or resolving the specifier once more changes nothing
(`create_again`); no root is asked, since the source is absolute; and a line or column of zero is read
as such.
-/

namespace ImportBoundary

open Address

/-! ## What violations say of their edge -/

namespace Policy

/-- The violation is about the edge. -/
def IsAbout (e : Edge) (v : Violation) : Prop :=
  ∃ subject message, v = .ofEdge v.rule e subject message

theorem isAbout_ofEdge (rule : Rule) (e : Edge) (subject message : String) :
    IsAbout e (.ofEdge rule e subject message) :=
  ⟨subject, message, rfl⟩

theorem isAbout_of_mem_map {α : Type} {e : Edge} {items : List α} {rule : Rule}
    {subject message : α → String} {v : Violation}
    (h : v ∈ items.map fun item => .ofEdge rule e (subject item) (message item)) :
    IsAbout e v := by
  obtain ⟨item, -, rfl⟩ := List.mem_map.mp h
  exact isAbout_ofEdge rule e _ _

theorem isAbout_of_mem_evaluateRule {p : Policy} {e : Edge} {rule : Rule} {v : Violation}
    (found : v ∈ p.evaluateRule e rule) : IsAbout e v := by
  cases rule with
  | crossZone => exact isAbout_of_mem_map found
  | restrictedPath => exact isAbout_of_mem_map found
  | directoryPrivate =>
    simp only [evaluateRule, directoryPrivate] at found
    split at found
    · cases found
    · split at found
      · cases found
      · obtain rfl := List.mem_singleton.mp found
        exact isAbout_ofEdge _ e _ _
  | zonePrivate =>
    obtain ⟨scope, -, found⟩ := List.mem_flatMap.mp found
    simp only [scopeViolations] at found
    split at found
    · exact isAbout_of_mem_map found
    · cases found

theorem isAbout_of_mem_evaluateRules {p : Policy} {rules : List Rule} {e : Edge} {v : Violation}
    (found : v ∈ p.evaluateRules rules e) : IsAbout e v := by
  obtain ⟨rule, -, found⟩ := List.mem_flatMap.mp found
  exact isAbout_of_mem_evaluateRule found

end Policy

namespace Edge

/-! ## Creating once more -/

section

variable {source specifier : String} {location : Option Location} {e : Edge}

/-- An edge has the specifier that it was created with, and a source that is the path of an
address. -/
theorem exists_address (created : create source specifier location = .ok e)
    (sourceNul : Path.IsNulFree source) (specifierNul : Path.IsNulFree specifier) :
    e.specifier = specifier ∧ ∃ a : Address, e.sourceFile = a.path ∧
      e.target = Path.normalize (Path.parent a.path) e.specifier := by
  obtain rfl := create_eq_ok created sourceNul specifierNul
  exact ⟨rfl, ofPath source, rfl, (Path.normalize_parent _ specifierNul).symm⟩

theorem create_path {a : Address} (file : e.sourceFile = a.path)
    (target : e.target = Path.normalize (Path.parent a.path) e.specifier) :
    create a.path e.specifier e.location = .ok e := by
  rw [create_of_isAbsolute (Path.isAbsolute_path a), made, Path.normalize_of_path, ← target, ← file]

/-- An edge is created again from what it says. -/
theorem create_again (created : create source specifier location = .ok e)
    (sourceNul : Path.IsNulFree source) (specifierNul : Path.IsNulFree specifier) :
    create e.sourceFile e.specifier e.location = .ok e := by
  obtain ⟨-, a, file, target⟩ := exists_address created sourceNul specifierNul
  rw [file]
  exact create_path file target

end

/-! ## Records of violations -/

/-- A column of zero counts as none, and none counts as zero. -/
theorem columnReading_int (n : Int) :
    (if (Json.int n).isEmptyValue then .integer 0 else (Json.int n).integer) =
      IntegerReading.integer n := by
  by_cases zero : n = 0
  · subst zero
    rfl
  · have some_column : ¬ (Json.int n).isEmptyValue = true := by
      rwa [Json.isEmptyValue, beq_iff_eq]
    exact if_neg some_column

theorem locationOf_recorded {fields : List (String × Json)} {location : Option Location}
    (line : fieldOf fields "line" = Violation.lineJson location)
    (column : fieldOf fields "column" = Violation.columnJson location) :
    locationOf fields = .ok location := by
  cases location with
  | none =>
    rw [locationOf, line]
    rfl
  | some l =>
    have reading := columnReading_int l.column
    rw [show Json.int l.column = fieldOf fields "column" from column.symm] at reading
    simp only [locationOf, reading, line]
    rfl

theorem path_isEmpty (a : Address) : a.path.isEmpty = false := by
  rw [String.isEmpty_eq_false_iff]
  intro empty
  have absolute := Path.isAbsolute_path a
  rw [empty] at absolute
  exact absurd absolute (by decide)

/-- A record that says what an edge says is read as that edge, from whatever directory. -/
theorem ofRecord_eq_ok {fields : List (String × Json)} {e : Edge} {a : Address} (root : String)
    (sourceField : fieldOf fields "source_file" = .str e.sourceFile)
    (specifierField : fieldOf fields "import_specifier" = .str e.specifier)
    (location : locationOf fields = .ok e.location) (named : e.specifier ≠ "")
    (file : e.sourceFile = a.path)
    (target : e.target = Path.normalize (Path.parent a.path) e.specifier) :
    ofRecord root fields = .ok e := by
  have complete : (requiredFields.filter fun name => (fieldOf fields name).isEmptyValue) = [] := by
    simp only [requiredFields, List.filter_eq_nil_iff, List.forall_mem_cons]
    refine ⟨?_, ?_, by simp⟩
    · simp [sourceField, Json.isEmptyValue, file, path_isEmpty]
    · simpa [specifierField, Json.isEmptyValue] using named
  rw [ofRecord, complete, location]
  simp only [sourceField, specifierField, Json.asText, file, Path.normalize_of_path,
    create_path file target]
  rfl

theorem ofRecord_ofEdge {e : Edge} {a : Address} (named : e.specifier ≠ "")
    (file : e.sourceFile = a.path)
    (target : e.target = Path.normalize (Path.parent a.path) e.specifier)
    (rule : Rule) (subject message : String) :
    ∃ fields, (Violation.ofEdge rule e subject message).toJson = .obj fields ∧
      ∀ root, ofRecord root fields = .ok e :=
  ⟨_, rfl, fun root =>
    ofRecord_eq_ok root rfl rfl (locationOf_recorded rfl rfl) named file target⟩

/-- The record of a violation is read as the edge in which the violation was found, whatever rules
found it and from whatever directory it is read; and the edge is created again from what it says. -/
theorem ofRecord_toJson {source specifier : String} {location : Option Location} {e : Edge}
    (created : create source specifier location = .ok e) (sourceNul : Path.IsNulFree source)
    (specifierNul : Path.IsNulFree specifier) :
    (specifier ≠ "" → ∀ (p : Policy) (rules : List Rule), ∀ v ∈ p.evaluateRules rules e,
      ∃ fields, v.toJson = .obj fields ∧ ∀ root, ofRecord root fields = .ok e) ∧
    create e.sourceFile e.specifier e.location = .ok e := by
  refine ⟨?_, create_again created sourceNul specifierNul⟩
  intro named p rules v found
  obtain ⟨specifier_eq, a, file, target⟩ := exists_address created sourceNul specifierNul
  obtain ⟨subject, message, about⟩ := Policy.isAbout_of_mem_evaluateRules found
  rw [about]
  exact ofRecord_ofEdge (specifier_eq ▸ named) file target v.rule subject message

/-- A source on top of a drive imports something that it may not, on line zero and column zero. -/
theorem ofRecord_toJson_zero :
    let p : Policy := { root := "C:/", restrictedPaths := [⟨"C:/b", []⟩] }
    let e : Edge := ⟨"C:/f.py", "..\\b\\", "C:/b", some ⟨0, 0⟩⟩
    create "C:\\f.py" "..\\b\\" (some ⟨0, 0⟩) = .ok e ∧
      (∃ v ∈ p.evaluate e, ∃ fields, v.toJson = .obj fields ∧
        ∀ root, ofRecord root fields = .ok e) ∧
      create e.sourceFile e.specifier e.location = .ok e := by
  intro p e
  have created : create "C:\\f.py" "..\\b\\" (some ⟨0, 0⟩) = .ok e := by decide
  have sourceNul : Path.IsNulFree "C:\\f.py" := by decide
  have specifierNul : Path.IsNulFree "..\\b\\" := by decide
  obtain ⟨read, again⟩ := ofRecord_toJson created sourceNul specifierNul
  have found : p.evaluate e ≠ [] := by decide
  obtain ⟨v, mem⟩ := List.exists_mem_of_ne_nil _ found
  exact ⟨created, ⟨v, mem, read (by decide) p Rule.all v mem⟩, again⟩

end Edge

end ImportBoundary
