import ImportBoundary.Proofs.Display.Literal
import ImportBoundary.Proofs.Display.Table
import Mathlib.Algebra.Order.BigOperators.Group.List

/-!
# What the table of violations shows

The table lists some violations if it has one line for each, in their order, in which the place, the
name of the rule, the subject and the message stand character for character (`Lists`). As its cells are
markup, it does so exactly if markup finds nothing in the places, subjects and messages
(`violationTable_lists_iff`): what markup finds in one of them it takes out, and nothing in another
makes up for that. A table is taken to fit into the terminal.
-/

namespace ImportBoundary.Display

open Text Markup

/-! ## Definition -/

/-- The text is made of characters that ASCII prints. -/
def IsPrintable (text : String) : Prop :=
  ∀ c ∈ text.toList, ' ' ≤ c ∧ c ≤ '~'

theorem isPrintable_of_all {text : String}
    (h : (text.toList.all fun c => ' ' ≤ c && c ≤ '~') = true) : IsPrintable text := by
  intro c hc
  simpa using List.all_eq_true.mp h c hc

/-- The texts of a violation that the table is made from are printable. -/
structure HasPrintableTexts (v : Violation) : Prop where
  sourceFile : IsPrintable v.sourceFile
  subject : IsPrintable v.subject
  message : IsPrintable v.message

/-- The names of the columns. -/
def headings : List String :=
  ["Location", "Rule", "Zone / rule", "Message"]

/-- What is to be told about a violation, column by column. -/
def cells (root : String) (v : Violation) : List String :=
  [placeText root v, v.rule.id, v.subject, v.message]

/-- The texts of the table, row by row. -/
def rowsOf (root : String) (vs : List Violation) : List (List String) :=
  headings :: vs.map (cells root)

/-- The output has a line for the headings and then one for each violation, in their order, and each
line shows the texts of its row. -/
def Lists (root : String) (vs : List Violation) (out : String) : Prop :=
  ∃ lines, out = endLines lines ∧ List.Forall₂ IsRow (rowsOf root vs) lines

/-! ## Visible texts -/

theorem isVisible_of_le {c : Char} (h : ' ' ≤ c) : isVisible c = true :=
  decide_eq_true (UInt32.le_iff_toNat_le.mp h)

theorem isVisible_of_isPrintable {text : String} (h : IsPrintable text) :
    ∀ c ∈ text.toList, isVisible c = true :=
  fun c hc => isVisible_of_le (h c hc).1

theorem isVisible_of_isNumeral {c : Char} (h : isNumeral c = true) : isVisible c = true := by
  simp only [isNumeral, isAsciiDigit, Bool.or_eq_true, Bool.and_eq_true, decide_eq_true_eq,
    beq_iff_eq] at h
  rcases h with ⟨digit, -⟩ | rfl
  · exact isVisible_of_le (Char.le_trans (by decide) digit)
  · decide

theorem isNumeral_of_mem_toString {n : Int} {c : Char} (h : c ∈ (toString n).toList) :
    isNumeral c = true := by
  have digit {m : Nat} (among : c ∈ Nat.toDigits 10 m) : isNumeral c = true := by
    rw [isNumeral, isAsciiDigit_of_mem_toDigits among, Bool.true_or]
  cases n with
  | ofNat m =>
    have among : c ∈ Nat.toDigits 10 m := by simpa [toString, Int.repr, Nat.repr] using h
    exact digit among
  | negSucc m =>
    have among : c = '-' ∨ c ∈ Nat.toDigits 10 (m + 1) := by
      simpa [toString, Int.repr, Nat.repr] using h
    rcases among with rfl | among
    · decide
    · exact digit among

theorem isVisible_toString (n : Int) : ∀ c ∈ (toString n).toList, isVisible c = true :=
  fun _ hc => isVisible_of_isNumeral (isNumeral_of_mem_toString hc)

theorem mem_shownFrom {base path : String} {c : Char} (h : c ∈ (Path.shownFrom base path).toList) :
    c ∈ path.toList ∨ c = '.' := by
  rw [Path.shownFrom, String.toList_ofList, PathChars.shownFrom] at h
  split at h
  · exact .inl h
  · split at h
    · exact .inr (List.mem_singleton.mp h)
    · exact .inl (List.mem_of_mem_drop h)

theorem toList_placeText {root : String} {v : Violation} {l : Location}
    (located : v.location = some l) :
    (placeText root v).toList = (Path.shownFrom root v.sourceFile).toList ++
      ':' :: ((toString l.line).toList ++ ':' :: (toString l.column).toList) := by
  rw [placeText, located]
  simp only [String.toList_append, List.append_assoc]
  rfl

theorem isVisible_placeText (root : String) {v : Violation} (h : IsPrintable v.sourceFile) :
    ∀ c ∈ (placeText root v).toList, isVisible c = true := by
  have file : ∀ c ∈ (Path.shownFrom root v.sourceFile).toList, isVisible c = true := by
    intro c hc
    rcases mem_shownFrom hc with inside | rfl
    · exact isVisible_of_isPrintable h c inside
    · decide
  have colon : isVisible ':' = true := by decide
  cases located : v.location with
  | none =>
    rw [placeText, located]
    exact file
  | some l =>
    rw [toList_placeText located, List.forall_mem_append, List.forall_mem_cons,
      List.forall_mem_append, List.forall_mem_cons]
    exact ⟨file, colon, isVisible_toString l.line, colon, isVisible_toString l.column⟩

theorem isVisible_cells (root : String) {v : Violation} (h : HasPrintableTexts v) :
    ∀ text ∈ cells root v, ∀ c ∈ text.toList, isVisible c = true := by
  have rule : (v.rule.id.toList.all isVisible) = true := by
    cases v.rule <;> decide
  simp only [cells, List.forall_mem_cons, List.not_mem_nil, false_implies, implies_true, and_true]
  exact ⟨isVisible_placeText root h.sourceFile, List.all_eq_true.mp rule,
    isVisible_of_isPrintable h.subject, isVisible_of_isPrintable h.message⟩

theorem isVisible_rowsOf (root : String) {vs : List Violation}
    (printable : ∀ v ∈ vs, HasPrintableTexts v) :
    ∀ row ∈ rowsOf root vs, ∀ text ∈ row, ∀ c ∈ text.toList, isVisible c = true := by
  have heads : (headings.all fun text => text.toList.all isVisible) = true := by decide
  rw [rowsOf, List.forall_mem_cons, List.forall_mem_map]
  refine ⟨fun text ht => ?_, fun v hv => isVisible_cells root (printable v hv)⟩
  exact List.all_eq_true.mp (List.all_eq_true.mp heads text ht)

theorem isVisible_shownOf {text : String} (visible : ∀ c ∈ text.toList, isVisible c = true) :
    ∀ c ∈ shownOf text, isVisible c = true := by
  cases shown : plain text.toList with
  | error fault => simp [shownOf, shown, Except.toOption]
  | ok out =>
    rw [shownOf_eq shown]
    exact plain_visible shown visible

/-! ## Rows -/

/-- The columns of the table, each with what it tells about a violation. -/
def columnsOf (root : String) : List (String × (Violation → String)) :=
  [("Location", placeText root), ("Rule", (·.rule.id)), ("Zone / rule", (·.subject)),
    ("Message", (·.message))]

theorem violationTable_columns (root : String) (vs : List Violation) :
    violationTable root vs =
      markedTable ((columnsOf root).map fun column => column.1 :: vs.map column.2)
        (vs.length + 1) := rfl

/-- What is shown of the columns. -/
def shownColumns (root : String) (vs : List Violation) : List Column :=
  (columnsOf root).map fun column => shownOf column.1 :: vs.map fun v => shownOf (column.2 v)

theorem violationTable_eq_table {root : String} {vs : List Violation} {out : String}
    (h : violationTable root vs = .ok out) :
    out = table (shownColumns root vs) (vs.length + 1) := by
  rw [violationTable_columns] at h
  rw [markedTable_eq h]
  simp [shownColumns, Function.comp_def]

theorem rowsOf_shown (root : String) (vs : List Violation) :
    ((List.range (vs.length + 1)).map fun row => (shownColumns root vs).map (·.getD row [])) =
      (rowsOf root vs).map fun row => row.map shownOf := by
  rw [shownColumns, rows_of_columns (columnsOf root) (fun column => shownOf column.1)
    (fun column v => shownOf (column.2 v))]
  simp [rowsOf, headings, cells, columnsOf]

theorem isVisible_shownColumns {root : String} {vs : List Violation}
    (visible : ∀ row ∈ rowsOf root vs, ∀ text ∈ row, ∀ c ∈ text.toList, isVisible c = true) :
    ∀ row < vs.length + 1, ∀ column ∈ shownColumns root vs, ∀ c ∈ column.getD row [],
      isVisible c = true := by
  intro row hr column hc
  have entry : (shownColumns root vs).map (·.getD row []) ∈
      (rowsOf root vs).map fun row => row.map shownOf := by
    rw [← rowsOf_shown]
    exact List.mem_map_of_mem (List.mem_range.mpr hr)
  obtain ⟨texts, among, same⟩ := List.mem_map.mp entry
  have cell : column.getD row [] ∈ texts.map shownOf := by
    rw [same]
    exact List.mem_map_of_mem hc
  obtain ⟨text, ht, eq⟩ := List.mem_map.mp cell
  rw [← eq]
  exact isVisible_shownOf (visible texts among text ht)

/-- The table has a line for each row, filled up to the widths of the columns. -/
theorem violationTable_eq {root : String} {vs : List Violation} {out : String}
    (h : violationTable root vs = .ok out)
    (visible : ∀ row ∈ rowsOf root vs, ∀ text ∈ row, ∀ c ∈ text.toList, isVisible c = true) :
    ∃ widths : List Nat, widths.length = 4 ∧
      out = endLines ((rowsOf root vs).map fun row => lineOf widths (row.map shownOf)) := by
  refine ⟨(shownColumns root vs).map columnWidth, by simp [shownColumns, columnsOf], ?_⟩
  have lines := congrArg (List.map (lineOf ((shownColumns root vs).map columnWidth)))
    (rowsOf_shown root vs)
  rw [List.map_map, List.map_map] at lines
  rw [violationTable_eq_table h, table_eq (by simp [shownColumns, columnsOf])
    (isVisible_shownColumns visible)]
  exact congrArg endLines lines

/-! ## Weights -/

theorem weight_endLines (lines : List (List Char)) :
    weight (endLines lines).toList = (lines.map weight).sum := by
  rw [endLines, String.toList_ofList]
  induction lines with
  | nil => rfl
  | cons line lines ih =>
    rw [List.flatMap_cons, weight_append, weight_append, ih, List.map_cons, List.sum_cons]
    rfl

theorem weight_blanks (n : Nat) : weight (List.replicate n ' ') = 0 :=
  weight_eq_zero fun _ hc => (List.eq_of_mem_replicate hc) ▸ rfl

theorem weight_joinWith {sep : List Char} (weightless : weight sep = 0) (pieces : List (List Char)) :
    weight (joinWith sep pieces) = (pieces.map weight).sum := by
  cases pieces with
  | nil => rfl
  | cons first rest =>
    rw [joinWith_cons_flatMap, weight_append, List.map_cons, List.sum_cons]
    congr 1
    induction rest with
    | nil => rfl
    | cons piece rest ih =>
      rw [List.flatMap_cons, weight_append, weight_append, weightless, ih, Nat.zero_add,
        List.map_cons, List.sum_cons]

theorem weight_zipWith_padTo {widths : List Nat} {texts : List (List Char)}
    (lengths : widths.length = texts.length) :
    (List.zipWith padTo widths texts).map weight = texts.map weight := by
  induction texts generalizing widths with
  | nil => simp
  | cons text texts ih =>
    obtain ⟨w, widths, rfl⟩ := List.exists_cons_of_length_eq_add_one lengths
    rw [List.zipWith_cons_cons, List.map_cons, ih (Nat.succ.inj lengths), padTo, weight_append,
      weight_blanks, Nat.add_zero, List.map_cons]

/-- The blanks of a line mean nothing to markup. -/
theorem weight_lineOf {widths : List Nat} {texts : List (List Char)}
    (lengths : widths.length = texts.length) :
    weight (lineOf widths texts) = (texts.map weight).sum := by
  rw [lineOf, weight_append, weight_cons, weight_joinWith (by rfl), weight_zipWith_padTo lengths]
  rfl

theorem weight_of_isRow {texts : List String} {line : List Char} (h : IsRow texts line) :
    weight line = (texts.map fun text => weight text.toList).sum := by
  induction h with
  | nil blanks => exact weight_blanks _
  | cons blanks _ ih =>
    rw [weight_append, weight_append, weight_blanks, ih, List.map_cons, List.sum_cons, Nat.zero_add]

theorem weight_of_lists {rows : List (List String)} {lines : List (List Char)}
    (h : List.Forall₂ IsRow rows lines) :
    weight (endLines lines).toList = (rows.flatten.map fun text => weight text.toList).sum := by
  rw [weight_endLines]
  induction h with
  | nil => rfl
  | cons row _ ih =>
    rw [List.map_cons, List.sum_cons, weight_of_isRow row, ih, List.flatten_cons, List.map_append,
      List.sum_append]

/-! ## Every row -/

theorem length_rowsOf {root : String} {vs : List Violation} :
    ∀ row ∈ rowsOf root vs, row.length = 4 := by
  rw [rowsOf, List.forall_mem_cons, List.forall_mem_map]
  exact ⟨rfl, fun _ _ => rfl⟩

theorem weight_shown {rows : List (List String)} {widths : List Nat}
    (lengths : ∀ row ∈ rows, row.length = widths.length) :
    weight (endLines (rows.map fun row => lineOf widths (row.map shownOf))).toList =
      (rows.flatten.map fun text => weight (shownOf text)).sum := by
  rw [weight_endLines]
  induction rows with
  | nil => rfl
  | cons row rows ih =>
    rw [List.forall_mem_cons] at lengths
    rw [List.map_cons, List.map_cons, List.sum_cons, ih lengths.2,
      weight_lineOf (by rw [List.length_map, lengths.1]), List.map_map, List.flatten_cons,
      List.map_append, List.sum_append]
    rfl

/-- What is shown of a text that markup finds something in means less to markup than the text. -/
theorem shownOf_cases (text : String) :
    (IsLiteral text.toList ∧ shownOf text = text.toList) ∨
      weight (shownOf text) < weight text.toList := by
  cases shown : plain text.toList with
  | ok out =>
    rw [shownOf_eq shown]
    exact plain_cases shown
  | error fault =>
    have nothing : shownOf text = [] := by
      rw [shownOf, shown]
      rfl
    rw [nothing, weight_nil]
    refine .inr (Nat.pos_of_ne_zero fun none => ?_)
    rw [plain_of_isLiteral (isLiteral_of_weight_eq_zero none)] at shown
    cases shown

/-- What is told about a violation besides the name of its rule. -/
def ownTexts (root : String) (v : Violation) : List String :=
  [placeText root v, v.subject, v.message]

/-- The place of a violation is literal if its file is ordinary and its line is not the name of an
emoji. -/
theorem isLiteral_placeText {root : String} {v : Violation} {l : Location}
    (located : v.location = some l)
    (ordinary : weight (Path.shownFrom root v.sourceFile).toList = 0)
    (noEmoji : toString l.line ∉ emojiNumbers) : IsLiteral (placeText root v).toList := by
  rw [toList_placeText located]
  refine isLiteral_numbered ordinary (fun _ => isNumeral_of_mem_toString)
    (fun _ => isNumeral_of_mem_toString) ?_
  rwa [String.ofList_toList]

/-- Only the violations' own texts can mean something to markup. -/
theorem isLiteral_rowsOf_iff {root : String} {vs : List Violation} :
    (∀ row ∈ rowsOf root vs, ∀ text ∈ row, IsLiteral text.toList) ↔
      ∀ v ∈ vs, ∀ text ∈ ownTexts root v, IsLiteral text.toList := by
  have heads : ∀ text ∈ headings, IsLiteral text.toList := fun text ht =>
    isLiteral_of_weight_eq_zero ((by decide : ∀ text ∈ headings, weight text.toList = 0) text ht)
  have rule (r : Rule) : IsLiteral r.id.toList :=
    isLiteral_of_weight_eq_zero (by cases r <;> decide)
  rw [rowsOf, List.forall_mem_cons, List.forall_mem_map]
  simp only [cells, ownTexts, List.forall_mem_cons, List.not_mem_nil, false_implies, implies_true,
    and_true, rule, true_and]
  exact and_iff_right heads

/-! ## The table -/

section

variable {root : String} {vs : List Violation}

/-- Every cell of a column stands in a row. -/
theorem exists_row_of_mem_column : ∀ column ∈ (columnsOf root).map fun column =>
    column.1 :: vs.map column.2, ∀ text ∈ column, ∃ row ∈ rowsOf root vs, text ∈ row := by
  rw [List.forall_mem_map]
  intro column hc text ht
  rcases List.mem_cons.mp ht with rfl | entry
  · exact ⟨headings, List.mem_cons_self, List.mem_map_of_mem (f := (·.1)) hc⟩
  · obtain ⟨v, hv, rfl⟩ := List.mem_map.mp entry
    exact ⟨cells root v, List.mem_cons_of_mem _ (List.mem_map_of_mem hv),
      List.mem_map_of_mem (f := (·.2 v)) hc⟩

/-- A table of literal texts lists the violations. -/
theorem exists_lists (printable : ∀ v ∈ vs, HasPrintableTexts v)
    (literal : ∀ row ∈ rowsOf root vs, ∀ text ∈ row, IsLiteral text.toList) :
    ∃ out, violationTable root vs = .ok out ∧ Lists root vs out := by
  have cells : ∀ column ∈ (columnsOf root).map fun column => column.1 :: vs.map column.2,
      ∀ text ∈ column, ∃ shown, plain text.toList = .ok shown := by
    intro column hc text ht
    obtain ⟨row, hr, among⟩ := exists_row_of_mem_column column hc text ht
    exact ⟨_, plain_of_isLiteral (literal row hr text among)⟩
  obtain ⟨out, ok⟩ := (markedTable_isOk _ (vs.length + 1)).mpr cells
  obtain ⟨widths, four, lines⟩ := violationTable_eq ok (isVisible_rowsOf root printable)
  refine ⟨out, ok, _, lines, ?_⟩
  rw [List.forall₂_map_right_iff, List.forall₂_same]
  intro row hr
  have shown : row.map shownOf = row.map String.toList :=
    List.map_congr_left fun text ht => shownOf_eq (plain_of_isLiteral (literal row hr text ht))
  have length := length_rowsOf row hr
  rw [shown]
  exact isRow_lineOf (List.ne_nil_of_length_eq_add_one length) (by rw [four, length])

/-- A table that lists the violations holds literal texts only. -/
theorem isLiteral_of_lists {out : String} (printable : ∀ v ∈ vs, HasPrintableTexts v)
    (ok : violationTable root vs = .ok out) (lists : Lists root vs out) :
    ∀ row ∈ rowsOf root vs, ∀ text ∈ row, IsLiteral text.toList := by
  obtain ⟨lines, written, rows⟩ := lists
  obtain ⟨widths, four, shown⟩ := violationTable_eq ok (isVisible_rowsOf root printable)
  have lengths : ∀ row ∈ rowsOf root vs, row.length = widths.length := fun row hr =>
    (length_rowsOf row hr).trans four.symm
  have same : ((rowsOf root vs).flatten.map fun text => weight (shownOf text)).sum =
      ((rowsOf root vs).flatten.map fun text => weight text.toList).sum :=
    calc ((rowsOf root vs).flatten.map fun text => weight (shownOf text)).sum
        = weight out.toList := by rw [shown, weight_shown lengths]
      _ = ((rowsOf root vs).flatten.map fun text => weight text.toList).sum := by
        rw [written, weight_of_lists rows]
  -- no text means more when it is shown, so each means as much
  have le : ∀ text ∈ (rowsOf root vs).flatten, weight (shownOf text) ≤ weight text.toList := by
    intro text _
    rcases shownOf_cases text with ⟨-, same⟩ | less
    · rw [same]
    · exact Nat.le_of_lt less
  intro row hr text ht
  rcases shownOf_cases text with ⟨literal, -⟩ | less
  · exact literal
  · have total := List.sum_lt_sum (fun text => weight (shownOf text))
      (fun text => weight text.toList) le ⟨text, List.mem_flatten.mpr ⟨row, hr, ht⟩, less⟩
    omega

/-- The table of violations with printable texts shows all of them character for character exactly if
markup finds nothing in their places, subjects and messages. -/
theorem violationTable_lists_iff (printable : ∀ v ∈ vs, HasPrintableTexts v) :
    (∃ out, violationTable root vs = .ok out ∧ Lists root vs out) ↔
      ∀ v ∈ vs, ∀ text ∈ ownTexts root v, IsLiteral text.toList := by
  rw [← isLiteral_rowsOf_iff]
  constructor
  · rintro ⟨out, ok, lists⟩
    exact isLiteral_of_lists printable ok lists
  · exact exists_lists printable

end

/-- A zone that imports another one. -/
def zoneViolation : Violation where
  rule := .crossZone
  sourceFile := "/r/ui/app.py"
  specifier := "../core/db"
  target := "/r/core/db"
  subject := "ui"
  message := "In zone 'ui', importing from '/r/core/db' is prohibited."
  location := some ⟨3, 0⟩

theorem violationTable_lists_zone : HasPrintableTexts zoneViolation ∧
    ∃ out, violationTable "/r" [zoneViolation] = .ok out ∧ Lists "/r" [zoneViolation] out := by
  have printable : HasPrintableTexts zoneViolation := by
    constructor <;> exact isPrintable_of_all (by decide)
  refine ⟨printable, (violationTable_lists_iff (List.forall_mem_singleton.mpr printable)).mpr ?_⟩
  rw [List.forall_mem_singleton]
  simp only [ownTexts, List.forall_mem_cons, List.not_mem_nil, false_implies, implies_true, and_true]
  exact ⟨isLiteral_placeText rfl rfl (by decide),
    isLiteral_of_weight_eq_zero (by decide), isLiteral_of_weight_eq_zero (by decide)⟩

/-- A file whose name begins with a small letter is private to its directory. -/
def privateViolation : Violation where
  rule := .directoryPrivate
  sourceFile := "/r/ui/app.py"
  specifier := "../core/db"
  target := "/r/core/db"
  subject := "^[a-z]"
  message := "'../core/db' is private to its directory and cannot be imported from here."

/-- The brackets of a regular expression are taken for a tag. -/
theorem violationTable_hides_regex : HasPrintableTexts privateViolation ∧
    ¬ ∃ out, violationTable "/r" [privateViolation] = .ok out ∧
      Lists "/r" [privateViolation] out := by
  have printable : HasPrintableTexts privateViolation := by
    constructor <;> exact isPrintable_of_all (by decide)
  refine ⟨printable, ?_⟩
  rintro ⟨out, ok, lists⟩
  have literal := isLiteral_of_lists (List.forall_mem_singleton.mpr printable) ok lists
    (cells "/r" privateViolation) (by simp [rowsOf]) "^[a-z]" (by simp [cells, privateViolation])
  exact literal.noTag ⟨['^'], ['a', '-', 'z'], [], rfl, ⟨'a', rfl, by decide⟩, by decide, by decide⟩

end ImportBoundary.Display
