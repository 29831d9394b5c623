import ImportBoundary.Display.Message
import ImportBoundary.Proofs.Display.Emoji
import ImportBoundary.Proofs.Text.Pieces
import ImportBoundary.Proofs.Text.Traversal

/-!
# Tables of markup

A table can be shown if all its cells can be (`markedTable_isOk`), and holds what markup shows of
each (`markedTable_eq`). Where no cell holds a control, every row is one line (`table_eq`), in which the
texts of the row stand one after the other between blanks (`isRow_lineOf`).
-/

namespace ImportBoundary.Display

open Text

/-! ## Cells -/

/-- A table is shown if all its cells can be. -/
theorem markedTable_isOk (columns : List (List String)) (count : Nat) :
    (∃ text, markedTable columns count = .ok text) ↔
      ∀ column ∈ columns, ∀ text ∈ column, ∃ shown, Markup.plain text.toList = .ok shown := by
  have cells : (∃ shown, (columns.mapM fun column =>
      column.mapM fun text => Markup.plain text.toList) = .ok shown) ↔
      ∀ column ∈ columns, ∀ text ∈ column, ∃ shown, Markup.plain text.toList = .ok shown := by
    rw [mapM_isOk]
    simp only [mapM_isOk]
  rw [← cells, markedTable]
  cases columns.mapM fun column => column.mapM fun text => Markup.plain text.toList with
  | error fault => simp [bind, Except.bind]
  | ok shown => simp [bind, Except.bind, pure, Except.pure]

/-- What markup shows of a text, and nothing of one that cannot be shown. -/
def shownOf (text : String) : List Char :=
  (Markup.plain text.toList).toOption.getD []

theorem shownOf_eq {text : String} {shown : List Char} (h : Markup.plain text.toList = .ok shown) :
    shownOf text = shown := by
  rw [shownOf, h]
  rfl

theorem markedTable_eq {columns : List (List String)} {count : Nat} {out : String}
    (h : markedTable columns count = .ok out) :
    out = table (columns.map fun column => column.map shownOf) count := by
  rw [markedTable] at h
  cases all : columns.mapM fun column => column.mapM fun text => Markup.plain text.toList with
  | error fault =>
    rw [all] at h
    cases h
  | ok shown =>
    rw [all] at h
    cases h
    rw [← mapM_eq_map (g := fun column => column.map shownOf) _ all]
    intro column texts cells
    exact mapM_eq_map (fun text shown h => (shownOf_eq h).symm) cells

/-! ## Rows and columns -/

/-- The rows of a table whose columns each have a heading and an entry for every item. -/
theorem rows_of_columns {α β γ : Type} (columns : List γ) (heading : γ → β) (entry : γ → α → β)
    (items : List α) (default : β) :
    ((List.range (items.length + 1)).map fun row =>
        (columns.map fun column => heading column :: items.map (entry column)).map
          (·.getD row default)) =
      columns.map heading :: items.map fun item => columns.map (entry · item) := by
  rw [List.range_succ_eq_map, List.map_cons, List.map_map]
  refine List.cons_eq_cons.mpr ⟨by simp, List.ext_getElem (by simp) ?_⟩
  intro n _ inside
  rw [List.length_map] at inside
  simp [inside]

/-! ## Lines -/

/-- A text without controls is one line, which is shown as it is. -/
theorem shownLines_of_visible {cs : List Char} (visible : ∀ c ∈ cs, isVisible c = true) :
    shownLines cs = [cs] := by
  have kept : cs.filter (fun c => !isSilent c) = cs := by
    refine List.filter_eq_self.mpr fun c hc => ?_
    have := visible c hc
    simp only [isVisible, decide_eq_true_eq] at this
    simp only [isSilent, List.contains_cons, List.contains_nil, Bool.or_false, Bool.not_eq_true',
      Bool.or_eq_false_iff, beq_eq_false_iff_ne]
    omega
  have noNewline : '\n' ∉ cs := fun h => absurd (visible _ h) (by decide)
  have noTab : '\t' ∉ cs := fun h => absurd (visible _ h) (by decide)
  rw [shownLines, kept, splitNewlines, splitAtChar_of_not_mem noNewline, List.map_singleton,
    expandTabs, splitAtChar_of_not_mem noTab]
  rfl

/-- A line of a table: texts, each filled up to the width of its column. -/
def lineOf (widths : List Nat) (texts : List (List Char)) : List Char :=
  ' ' :: joinWith [' ', ' '] (List.zipWith padTo widths texts) ++ [' ']

theorem foldl_max_ones {α : Type} {items : List α} (some_item : items ≠ []) :
    (items.map fun _ => 1).foldl max 0 = 1 := by
  obtain ⟨a, rest, rfl⟩ := List.exists_cons_of_ne_nil some_item
  rw [List.map_cons, List.foldl_cons]
  induction rest with
  | nil => rfl
  | cons b rest ih => exact ih (List.cons_ne_nil _ _)

theorem rowLines_eq {columns : List Column} (some_column : columns ≠ []) {row : Nat}
    (visible : ∀ column ∈ columns, ∀ c ∈ column.getD row [], isVisible c = true) :
    rowLines columns row = [lineOf (columns.map columnWidth) (columns.map (·.getD row []))] := by
  have texts : (columns.map fun column => (columnWidth column, shownLines (column.getD row []))) =
      columns.map fun column => (columnWidth column, [column.getD row []]) :=
    List.map_congr_left fun column hc => by rw [shownLines_of_visible (visible column hc)]
  rw [rowLines, texts]
  simp only [List.map_map, Function.comp_def, List.length_singleton]
  rw [foldl_max_ones some_column]
  simp [lineOf, List.zipWith_map, List.zipWith_self]

/-- Where no cell holds a control, every row is one line. -/
theorem table_eq {columns : List Column} (some_column : columns ≠ []) {count : Nat}
    (visible : ∀ row < count, ∀ column ∈ columns, ∀ c ∈ column.getD row [], isVisible c = true) :
    table columns count = endLines ((List.range count).map fun row =>
      lineOf (columns.map columnWidth) (columns.map (·.getD row []))) := by
  have lines : ∀ row ∈ List.range count, rowLines columns row =
      [lineOf (columns.map columnWidth) (columns.map (·.getD row []))] := fun row hr =>
    rowLines_eq some_column (visible row (List.mem_range.mp hr))
  rw [table, List.flatMap_def, List.map_congr_left lines, ← List.flatMap_def, ← List.map_eq_flatMap]

/-- The line shows the texts one after the other, each between blanks. -/
inductive IsRow : List String → List Char → Prop
  | nil (blanks : Nat) : IsRow [] (List.replicate (blanks + 1) ' ')
  | cons (blanks : Nat) {text : String} {texts : List String} {line : List Char}
      (later : IsRow texts line) :
      IsRow (text :: texts) (List.replicate (blanks + 1) ' ' ++ text.toList ++ line)

theorem isRow_joinWith (blanks : Nat) {widths : List Nat} {texts : List String}
    (some_text : texts ≠ []) (lengths : widths.length = texts.length) :
    IsRow texts (List.replicate (blanks + 1) ' ' ++
      (joinWith [' ', ' '] (List.zipWith padTo widths (texts.map String.toList)) ++ [' '])) := by
  induction texts generalizing blanks widths with
  | nil => exact absurd rfl some_text
  | cons text texts ih =>
    obtain ⟨w, widths, rfl⟩ := List.exists_cons_of_length_eq_add_one lengths
    rw [List.map_cons, List.zipWith_cons_cons]
    cases texts with
    | nil =>
      have line : IsRow [text] _ := .cons blanks (.nil (w - width text.toList))
      simpa [joinWith, padTo, List.replicate_succ'] using line
    | cons next texts =>
      -- the blanks that fill the column up and those between the columns are one gap
      have later := ih (w - width text.toList + 1) (List.cons_ne_nil _ _) (Nat.succ.inj lengths)
      have gap : List.replicate (w - width text.toList + 1 + 1) ' ' =
          List.replicate (w - width text.toList) ' ' ++ [' ', ' '] := by
        simp [List.replicate_succ']
      rw [gap] at later
      obtain ⟨w', widths, rfl⟩ := List.exists_cons_of_length_eq_add_one (Nat.succ.inj lengths)
      have line : IsRow (text :: next :: texts) _ := .cons blanks later
      rw [List.map_cons, List.zipWith_cons_cons] at line ⊢
      rw [joinWith]
      · simpa [padTo] using line
      · exact List.cons_ne_nil _ _

/-- A line of a table shows its texts. -/
theorem isRow_lineOf {widths : List Nat} {texts : List String} (some_text : texts ≠ [])
    (lengths : widths.length = texts.length) :
    IsRow texts (lineOf widths (texts.map String.toList)) :=
  isRow_joinWith 0 some_text lengths

end ImportBoundary.Display
