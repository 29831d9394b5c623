import ImportBoundary.Proofs.Edge.Readings
import ImportBoundary.Proofs.Json.FirstLine

/-!
# The two forms of a list of records

Records are written as one array or on lines of their own. The array is taken for its records
(`listOfText_arrayText`), and so are the lines, as long as no string in a record has a separator
(`listOfText_linesText`). A line with a separator is cut there, so that nothing after the records
before it is read (`listOfText_cut`).
-/

namespace ImportBoundary.Edge

open Text Json

/-- The fields of an object. -/
abbrev Record := List (String × Json)

/-- The records in one array. -/
def arrayText (shows : Alphabet) (records : List Record) : List Char :=
  text shows (.arr (records.map .obj))

/-- The line of a record, or an empty line. -/
def lineText : Option Record → List Char
  | none => []
  | some record => text allButControls (.obj record)

/-- The records on lines of their own, among empty lines. -/
def linesText (lines : List (Option Record)) : List Char :=
  lines.flatMap fun line => lineText line ++ ['\n']

/-- The records without the empty lines. -/
def recordsOf (lines : List (Option Record)) : List Record :=
  lines.filterMap id

variable {shows : Alphabet} {root : String} {index number : Nat} {records : List Record}
  {lines : List (Option Record)} {record : Record}

theorem recordsOf_append (before after : List (Option Record)) :
    recordsOf (before ++ after) = recordsOf before ++ recordsOf after :=
  List.filterMap_append

theorem linesText_append (before after : List (Option Record)) :
    linesText (before ++ after) = linesText before ++ linesText after :=
  List.flatMap_append

/-! ## Records that are read -/

/-- What is read are these records. -/
def AreRecords (rs : List Reading) (records : List Record) : Prop :=
  rs.map (·.value) = records.map fun record => .ok (.obj record)

/-- The edges of records, or what is wrong with the first record that is none. -/
def ofRecords (root : String) (records : List Record) : Except RecordFault (List Edge) :=
  records.mapM (ofRecord root)

theorem ofRecords_cons (root : String) (record : Record) (records : List Record) :
    ofRecords root (record :: records) =
      match ofRecord root record with
      | .error fault => .error fault
      | .ok edge => (ofRecords root records).map (edge :: ·) := by
  rw [ofRecords, List.mapM_cons]
  cases ofRecord root record with
  | error fault => rfl
  | ok edge => cases same : ofRecords root records <;> rw [ofRecords] at same <;> rw [same] <;> rfl

theorem ofRecords_append (root : String) (before after : List Record) :
    ofRecords root (before ++ after) =
      match ofRecords root before with
      | .error fault => .error fault
      | .ok edges => (ofRecords root after).map (edges ++ ·) := by
  rw [ofRecords, List.mapM_append]
  cases first : ofRecords root before with
  | error fault =>
    rw [ofRecords] at first
    rw [first]
    rfl
  | ok edges =>
    rw [ofRecords] at first
    rw [first]
    cases second : ofRecords root after <;> rw [ofRecords] at second <;> rw [second] <;> rfl

theorem writesOut_eq_true (fields : Record) (edge : Except RecordFault Edge) :
    writesOut fields edge = true := by
  unfold writesOut
  split <;> rfl

theorem ofReading_record {r : Reading} (h : r.value = .ok (.obj record)) :
    ofReading root index r = (ofRecord root record).mapError .badRecord := by
  rw [ofReading, h]
  simp only [ofValue, writesOut_eq_true, if_true]

/-- Records are taken for their edges, whatever is read after them. -/
theorem ofReadings_records {rs : List Reading} (h : AreRecords rs records) (rest : List Reading) :
    ofReadings root index (rs ++ rest) =
      match ofRecords root records with
      | .error fault => .error (.badRecord fault)
      | .ok edges => (ofReadings root (index + records.length) rest).map (edges ++ ·) := by
  induction rs generalizing index records with
  | nil =>
    obtain rfl : records = [] := List.map_eq_nil_iff.mp h.symm
    rw [List.nil_append, List.length_nil, Nat.add_zero]
    cases same : ofReadings root index rest <;> rfl
  | cons r rs ih =>
    cases records with
    | nil => cases h
    | cons record records =>
      obtain ⟨first, others⟩ := List.cons.inj h
      rw [List.cons_append, ofReadings, ofReading_record first, ofRecords_cons, ih others,
        List.length_cons, Nat.add_assoc, Nat.add_comm 1]
      cases ofRecord root record with
      | error fault => rfl
      | ok edge =>
        cases ofRecords root records with
        | error fault => rfl
        | ok edges =>
          cases ofReadings root (index + (records.length + 1)) rest <;> rfl

theorem ofReadings_of_areRecords {rs : List Reading} (h : AreRecords rs records) :
    ofReadings root 0 rs = (ofRecords root records).mapError .badRecord := by
  have all : ofReadings root 0 (rs ++ []) = _ := ofReadings_records h []
  rw [List.append_nil] at all
  rw [all]
  cases ofRecords root records with
  | error fault => rfl
  | ok edges => exact congrArg Except.ok (List.append_nil edges)

/-! ## The array -/

theorem writable_array (writable : ∀ record ∈ records, Writable (.obj record)) :
    Writable (.arr (records.map .obj)) :=
  .arr fun v hv => by
    obtain ⟨record, held, rfl⟩ := List.mem_map.mp hv
    exact writable record held

theorem noReturn_arrayText (plain : ∀ c, shows c = true → 0x20 ≤ c.toNat)
    (writable : ∀ record ∈ records, Writable (.obj record)) : '\r' ∉ arrayText shows records :=
  fun held => absurd (visible_of_mem_text plain (writable_array writable) held) (by decide)

theorem listOfText_arrayText (plain : ∀ c, shows c = true → 0x20 ≤ c.toNat)
    (writable : ∀ record ∈ records, Writable (.obj record)) :
    listOfText root (arrayText shows records) = (ofRecords root records).mapError .badRecord := by
  have parsed : Host.document (arrayText shows records) = .ok (.arr (records.map .obj)) :=
    parse_text plain (writable_array writable)
  obtain ⟨rest, bracket⟩ : ∃ rest, arrayText shows records = '[' :: rest := ⟨_, rfl⟩
  have array : readings (arrayText shows records) = arrayReadings (arrayText shows records) := by
    rw [bracket]
    exact readings_of_array rfl
  rw [listOfText_eq, array, arrayReadings, parsed]
  refine ofReadings_of_areRecords ?_
  simp [AreRecords]

/-! ## The lines -/

theorem visible_of_shown (c : Char) (shown : allButControls c = true) : 0x20 ≤ c.toNat :=
  of_decide_eq_true shown

/-- No string and no name in the record has a separator. -/
def IsWhole (record : Record) : Prop :=
  ¬ HasSeparator (.obj record)

theorem unbroken_record (h : Writable (.obj record)) :
    Unbroken (text allButControls (.obj record)) ↔ IsWhole record :=
  unbroken_text_iff h

theorem unbroken_lineText (writable : ∀ record ∈ recordsOf lines, Writable (.obj record))
    (whole : ∀ record ∈ recordsOf lines, IsWhole record) : ∀ line ∈ lines, Unbroken (lineText line) := by
  intro line hl
  cases line with
  | none => nofun
  | some record =>
    have held : record ∈ recordsOf lines := List.mem_filterMap.mpr ⟨some record, hl, rfl⟩
    exact (unbroken_record (writable record held)).mpr (whole record held)

theorem noReturn_linesText (writable : ∀ record ∈ recordsOf lines, Writable (.obj record)) :
    '\r' ∉ linesText lines := by
  intro held
  obtain ⟨line, hl, inside⟩ := List.mem_flatMap.mp held
  rcases List.mem_append.mp inside with inside | newline
  · cases line with
    | none => cases inside
    | some record =>
      have last := writable record (List.mem_filterMap.mpr ⟨some record, hl, rfl⟩)
      exact absurd (visible_of_mem_text visible_of_shown last inside) (by decide)
  · cases List.mem_singleton.mp newline

theorem splitLines_linesText (unbroken : ∀ line ∈ lines, Unbroken (lineText line)) (rest : List Char) :
    splitLines (linesText lines ++ rest) = lines.map lineText ++ splitLines rest := by
  induction lines with
  | nil => rfl
  | cons line lines ih =>
    rw [List.forall_mem_cons] at unbroken
    rw [linesText, List.flatMap_cons, List.append_assoc, List.append_assoc,
      List.singleton_append, splitLines_append unbroken.1 rfl (by decide), List.map_cons,
      List.cons_append, ← ih unbroken.2, linesText]

theorem lineReadings_append (number : Nat) (xs ys : List (List Char)) :
    lineReadings number (xs ++ ys) =
      lineReadings number xs ++ lineReadings (number + xs.length) ys := by
  induction xs generalizing number with
  | nil => rfl
  | cons line xs ih =>
    rw [List.cons_append, lineReadings, lineReadings, ih, List.length_cons, Nat.add_assoc,
      Nat.add_comm 1]
    split <;> rfl

theorem isAllBlank_brace (cs : List Char) : isAllBlank ('\x7b' :: cs) = false :=
  rfl

theorem areRecords_lineReadings (number : Nat)
    (writable : ∀ record ∈ recordsOf lines, Writable (.obj record)) :
    AreRecords (lineReadings number (lines.map lineText)) (recordsOf lines) := by
  induction lines generalizing number with
  | nil => rfl
  | cons line lines ih =>
    cases line with
    | none => exact ih (number + 1) writable
    | some record =>
      have parsed : Host.document (lineText (some record)) = .ok (.obj record) :=
        parse_text visible_of_shown (writable record (List.mem_cons_self ..))
      have visible : isAllBlank (lineText (some record)) = false := isAllBlank_brace _
      have others := ih (number + 1) fun r hr => writable r (List.mem_cons_of_mem _ hr)
      rw [AreRecords, List.map_cons, lineReadings, visible, if_neg Bool.false_ne_true, parsed]
      exact congrArg (Except.ok (.obj record) :: ·) others

/-- Each record is whole, or one of them is the first that is not. -/
theorem lines_cases (lines : List (Option Record)) : (∀ record ∈ recordsOf lines, IsWhole record) ∨
    ∃ before record after, lines = before ++ some record :: after ∧
      (∀ record ∈ recordsOf before, IsWhole record) ∧ ¬ IsWhole record := by
  induction lines with
  | nil => exact .inl nofun
  | cons line lines ih =>
    cases line with
    | none =>
      rcases ih with all | ⟨before, record, after, rfl, whole, cut⟩
      · exact .inl all
      · exact .inr ⟨none :: before, record, after, rfl, whole, cut⟩
    | some first =>
      by_cases here : IsWhole first
      · rcases ih with all | ⟨before, record, after, rfl, whole, cut⟩
        · exact .inl (List.forall_mem_cons.mpr ⟨here, all⟩)
        · exact .inr ⟨some first :: before, record, after, rfl,
            List.forall_mem_cons.mpr ⟨here, whole⟩, cut⟩
      · exact .inr ⟨[], first, lines, rfl, nofun, here⟩

/-- The lines of records are not taken for an array. -/
theorem readings_linesText (lines : List (Option Record)) :
    readings (linesText lines) = lineReadings 1 (splitLines (linesText lines)) := by
  refine readings_of_lines ?_
  induction lines with
  | nil => nofun
  | cons line lines ih =>
    cases line with
    | none => exact ih
    | some record =>
      intro rest same
      cases (List.cons.inj same).1

theorem listOfText_linesText (writable : ∀ record ∈ recordsOf lines, Writable (.obj record))
    (whole : ∀ record ∈ recordsOf lines, IsWhole record) :
    listOfText root (linesText lines) = (ofRecords root (recordsOf lines)).mapError .badRecord := by
  have split := splitLines_linesText (unbroken_lineText writable whole) []
  rw [List.append_nil, show splitLines [] = [] from rfl, List.append_nil] at split
  rw [listOfText_eq, readings_linesText, split]
  exact ofReadings_of_areRecords (areRecords_lineReadings 1 writable)

/-- A record with a separator is cut off in its line. The records before it are read, and if they are
edges, the line is malformed. -/
theorem listOfText_cut {before after : List (Option Record)}
    (writable : ∀ record ∈ recordsOf before, Writable (.obj record))
    (whole : ∀ record ∈ recordsOf before, IsWhole record) (last : Writable (.obj record))
    (cut : ¬ IsWhole record) :
    ∃ part fault, listOfText root (linesText (before ++ some record :: after)) =
      match ofRecords root (recordsOf before) with
      | .error fault => .error (.badRecord fault)
      | .ok _ => .error (.unreadable part (.malformed fault)) := by
  have broken : ¬ Unbroken (text allButControls (.obj record)) := fun unbroken =>
    cut ((unbroken_record last).mp unbroken)
  obtain ⟨fault, malformed⟩ : ∃ fault, Host.document (firstLine (text allButControls (.obj record))) =
      .error (.malformed fault) := parse_firstLine visible_of_shown last broken
  have first : linesText (some record :: after) =
      text allButControls (.obj record) ++ '\n' :: linesText after := by
    simp [linesText, lineText]
  have ended : ¬ Unbroken (linesText (some record :: after)) := fun unbroken =>
    broken (unbroken_append.mp (first ▸ unbroken)).1
  obtain ⟨more, split⟩ := exists_splitLines ended
  rw [first, firstLine_append_of_not_unbroken broken] at split
  have visible : isAllBlank (firstLine (text allButControls (.obj record))) = false := by
    rw [text, List.cons_append, firstLine_cons rfl, isAllBlank_brace]
  -- `more` is what the cut leaves of the record and the lines after it; it is never looked at
  refine ⟨.line (1 + (before.map lineText).length), fault, ?_⟩
  rw [listOfText_eq, readings_linesText, linesText_append,
    splitLines_linesText (unbroken_lineText writable whole), first, split, lineReadings_append,
    lineReadings, visible, if_neg Bool.false_ne_true, malformed,
    ofReadings_records (areRecords_lineReadings 1 writable)]
  cases ofRecords root (recordsOf before) <;> rfl

end ImportBoundary.Edge
