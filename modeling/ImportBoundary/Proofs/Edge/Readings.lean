import ImportBoundary.Edge.Listing
import ImportBoundary.Proofs.Edge.Record

/-!
# Lists of edges as readings

Both forms of a list come to a list of readings (`readings`): what is read, part after part, in the
text or in its lines. A list of edges is taken from its readings one by one (`listOfText_eq`), and the
first that is no edge ends it (`ofReadings_eq_ok_iff`, `ofReadings_eq_error_iff`).
-/

namespace ImportBoundary.Edge

open Text

/-- What is read at a place of a list. -/
structure Reading where
  part : Part
  value : Except Json.ReadFailure Json

section

variable [Host]

/-- The readings of lines from line `number` on; blank lines have none. -/
def lineReadings (number : Nat) : List (List Char) → List Reading
  | [] => []
  | line :: rest =>
    if isAllBlank line then lineReadings (number + 1) rest
    else ⟨.line number, Host.document line⟩ :: lineReadings (number + 1) rest

/-- The readings of an array that a text is, or the one failure to read it. -/
def arrayReadings (text : List Char) : List Reading :=
  match Host.document text with
  | .error cause => [⟨.whole, .error cause⟩]
  | .ok (.arr items) => items.map fun item => ⟨.whole, .ok item⟩
  | .ok _ => []

/-- The readings of a text. -/
def readings (text : List Char) : List Reading :=
  match dropBlankLeft text with
  | '[' :: rest => arrayReadings ('[' :: rest)
  | _ => lineReadings 1 (splitLines text)

/-- The edge of a reading at position `index` of a list. -/
def ofReading (root : String) (index : Nat) (r : Reading) : Except ListFault Edge :=
  match r.value with
  | .error cause => .error (.unreadable r.part cause)
  | .ok value => ofValue root index value

/-- The edges of readings from position `index` on. -/
def ofReadings (root : String) (index : Nat) : List Reading → Except ListFault (List Edge)
  | [] => .ok []
  | r :: rest =>
    match ofReading root index r with
    | .error fault => .error fault
    | .ok edge => (ofReadings root (index + 1) rest).map (edge :: ·)

/-! ## The same edges -/

theorem ofValues_eq (root : String) (index : Nat) (items : List Json) :
    ofValues root index items =
      ofReadings root index (items.map fun item => ⟨.whole, .ok item⟩) := by
  induction items generalizing index with
  | nil => rfl
  | cons item rest ih => rw [ofValues, ih]; rfl

theorem ofLines_eq (root : String) (number index : Nat) (lines : List (List Char)) :
    ofLines root number index lines = ofReadings root index (lineReadings number lines) := by
  induction lines generalizing number index with
  | nil => rfl
  | cons line rest ih =>
    rw [ofLines, lineReadings]
    split
    · exact ih (number + 1) index
    · cases read : Host.document line with
      | error cause => rfl
      | ok value => simp only [ih]; rfl

theorem readings_of_array {text rest : List Char} (h : dropBlankLeft text = '[' :: rest) :
    readings text = arrayReadings ('[' :: rest) := by
  simp only [readings, h]

theorem readings_of_lines {text : List Char} (h : ∀ rest, dropBlankLeft text ≠ '[' :: rest) :
    readings text = lineReadings 1 (splitLines text) := by
  unfold readings
  split
  · next rest shape => exact absurd shape (h rest)
  · rfl

theorem listOfText_eq (root : String) (text : List Char) :
    listOfText root text = ofReadings root 0 (readings text) := by
  by_cases array : ∃ rest, dropBlankLeft text = '[' :: rest
  · obtain ⟨rest, shape⟩ := array
    simp only [readings_of_array shape, listOfText, shape]
    unfold arrayReadings
    cases Host.document ('[' :: rest) with
    | error cause => rfl
    | ok value =>
      cases value with
      | arr items => exact ofValues_eq root 0 items
      | _ => rfl
  · have lines (rest : List Char) : dropBlankLeft text ≠ '[' :: rest :=
      fun shape => array ⟨rest, shape⟩
    rw [readings_of_lines lines, ← ofLines_eq]
    unfold listOfText
    split
    · next rest shape => exact absurd shape (lines rest)
    · rfl

/-! ## What a list comes to -/

variable {root : String} {index : Nat}

/-- The reading is a record of an edge, whose values there is room to write out. -/
def Reading.IsEdge (root : String) (r : Reading) (e : Edge) : Prop :=
  ∃ fields, r.value = .ok (.obj fields) ∧ ofRecord root fields = .ok e ∧
    writesOut fields (.ok e) = true

theorem ofValue_obj_eq_ok_iff {fields : List (String × Json)} {e : Edge} :
    ofValue root index (.obj fields) = .ok e ↔
      ofRecord root fields = .ok e ∧ writesOut fields (.ok e) = true := by
  cases h : ofRecord root fields with
  | error fault => cases room : writesOut fields (.error fault) <;>
      simp [ofValue, Except.mapError, h, room]
  | ok edge =>
    -- which edge it is does not matter to the room that is needed
    have same : writesOut fields (.ok edge) = writesOut fields (.ok e) := rfl
    cases room : writesOut fields (.ok e) <;> simp [ofValue, Except.mapError, h, same, room]

theorem ofReading_eq_ok_iff {r : Reading} {e : Edge} :
    ofReading root index r = .ok e ↔ r.IsEdge root e := by
  rw [ofReading, Reading.IsEdge]
  cases r.value with
  | error cause => simp
  | ok value =>
    cases value with
    | obj fields => simp [ofValue_obj_eq_ok_iff]
    | _ => simp [ofValue]

theorem exists_edges_of_forall {rs : List Reading} (h : ∀ r ∈ rs, ∃ e, r.IsEdge root e) :
    ∃ edges, List.Forall₂ (Reading.IsEdge root) rs edges := by
  induction rs with
  | nil => exact ⟨[], .nil⟩
  | cons r rest ih =>
    obtain ⟨e, head⟩ := h r (List.mem_cons_self ..)
    obtain ⟨edges, tail⟩ := ih fun s hs => h s (List.mem_cons_of_mem _ hs)
    exact ⟨e :: edges, .cons head tail⟩

theorem forall_exists_edge {rs : List Reading} {edges : List Edge}
    (h : List.Forall₂ (Reading.IsEdge root) rs edges) : ∀ r ∈ rs, ∃ e, r.IsEdge root e := by
  induction h with
  | nil => nofun
  | cons head _ ih =>
    intro r hr
    rcases List.mem_cons.mp hr with rfl | hr
    · exact ⟨_, head⟩
    · exact ih r hr

/-- Readings that are edges come before all others. -/
theorem ofReadings_append {before : List Reading} {edges : List Edge} (rest : List Reading)
    (h : List.Forall₂ (Reading.IsEdge root) before edges) :
    ofReadings root index (before ++ rest) =
      (ofReadings root (index + before.length) rest).map (edges ++ ·) := by
  induction h generalizing index with
  | nil =>
    rw [List.nil_append, List.length_nil, Nat.add_zero]
    cases ofReadings root index rest <;> rfl
  | @cons r e before edges head tail ih =>
    rw [List.cons_append, ofReadings, ofReading_eq_ok_iff.mpr head]
    simp only
    rw [ih, List.length_cons, Nat.add_assoc, Nat.add_comm 1]
    cases ofReadings root (index + (before.length + 1)) rest <;> rfl

/-- A list of readings holds edges only, or edges up to one that is none. -/
theorem readings_cases (root : String) (index : Nat) (rs : List Reading) :
    (∃ edges, List.Forall₂ (Reading.IsEdge root) rs edges) ∨
      ∃ before edges r after fault, rs = before ++ r :: after ∧
        List.Forall₂ (Reading.IsEdge root) before edges ∧
        ofReading root (index + before.length) r = .error fault := by
  induction rs generalizing index with
  | nil => exact .inl ⟨[], .nil⟩
  | cons r rest ih =>
    cases head : ofReading root index r with
    | error fault => exact .inr ⟨[], [], r, rest, fault, rfl, .nil, head⟩
    | ok e =>
      have edge := ofReading_eq_ok_iff.mp head
      rcases ih (index + 1) with ⟨edges, all⟩ | ⟨before, edges, s, after, fault, rfl, tail, stop⟩
      · exact .inl ⟨e :: edges, .cons edge all⟩
      · refine .inr ⟨r :: before, e :: edges, s, after, fault, rfl, .cons edge tail, ?_⟩
        rw [← stop, List.length_cons, Nat.add_assoc, Nat.add_comm 1]

theorem ofReadings_of_forall₂ {rs : List Reading} {edges : List Edge}
    (h : List.Forall₂ (Reading.IsEdge root) rs edges) : ofReadings root index rs = .ok edges := by
  have all : ofReadings root index (rs ++ []) = _ := ofReadings_append [] h
  rw [List.append_nil] at all
  rw [all, ofReadings, Except.map, List.append_nil]

theorem ofReadings_of_stop {before : List Reading} {edges : List Edge} {r : Reading}
    {fault : ListFault} (after : List Reading)
    (h : List.Forall₂ (Reading.IsEdge root) before edges)
    (stop : ofReading root (index + before.length) r = .error fault) :
    ofReadings root index (before ++ r :: after) = .error fault := by
  rw [ofReadings_append (r :: after) h, ofReadings, stop]
  rfl

theorem ofReadings_eq_ok_iff {rs : List Reading} {edges : List Edge} :
    ofReadings root index rs = .ok edges ↔ List.Forall₂ (Reading.IsEdge root) rs edges := by
  refine ⟨fun read => ?_, ofReadings_of_forall₂⟩
  rcases readings_cases root index rs with ⟨edges', all⟩ | ⟨before, es, r, after, fault, rfl, h, stop⟩
  · rw [ofReadings_of_forall₂ all] at read
    exact Except.ok.inj read ▸ all
  · rw [ofReadings_of_stop after h stop] at read
    cases read

/-- The first reading that is no edge says why there is no list. -/
theorem ofReadings_eq_error_iff {rs : List Reading} {fault : ListFault} :
    ofReadings root index rs = .error fault ↔ ∃ before edges r after, rs = before ++ r :: after ∧
      List.Forall₂ (Reading.IsEdge root) before edges ∧
        ofReading root (index + before.length) r = .error fault := by
  constructor
  · intro read
    rcases readings_cases root index rs with ⟨edges, all⟩ | ⟨before, es, r, after, fault', rfl, h, stop⟩
    · rw [ofReadings_of_forall₂ all] at read
      cases read
    · rw [ofReadings_of_stop after h stop] at read
      exact ⟨before, es, r, after, rfl, h, Except.error.inj read ▸ stop⟩
  · rintro ⟨before, edges, r, after, rfl, h, stop⟩
    exact ofReadings_of_stop after h stop

end

end ImportBoundary.Edge
