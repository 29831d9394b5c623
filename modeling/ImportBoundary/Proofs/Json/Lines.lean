import ImportBoundary.Proofs.Json.Text
import ImportBoundary.Proofs.Text.Pieces

/-!
# JSON lines

A line shows a value with the names of its objects in their order. It is the text of the value with
its objects sorted (`Writable.write_eq`), so it is read as that value (`Writable.parse_line`), which
has the same fields. A line holds no newline, so lines with newlines between them are found again
(`splitNewlines_lines`).
-/

namespace ImportBoundary.Json

open Text

mutual

/-- The value with the fields of its objects in the order of their names. -/
def sorted : Json → Json
  | .arr items => .arr (sortedItems items)
  | .obj fields => .obj (sortFields (sortedFields fields))
  | v => v

def sortedItems : List Json → List Json
  | [] => []
  | v :: rest => sorted v :: sortedItems rest

def sortedFields : List (String × Json) → List (String × Json)
  | [] => []
  | (name, v) :: rest => (name, sorted v) :: sortedFields rest

end

variable {shows : Alphabet} {v : Json}

/-! ## Lists -/

theorem sortedItems_eq (items : List Json) : sortedItems items = items.map sorted := by
  induction items with
  | nil => rfl
  | cons v rest ih => rw [sortedItems, ih, List.map_cons]

theorem sortedFields_eq (fields : List (String × Json)) :
    sortedFields fields = fields.map fun f => (f.1, f.2.sorted) := by
  induction fields with
  | nil => rfl
  | cons f rest ih => rw [sortedFields, ih, List.map_cons]

theorem writeItems_eq (shows : Alphabet) (items : List Json) :
    writeItems shows items = items.map (write shows) := by
  induction items with
  | nil => rfl
  | cons v rest ih => rw [writeItems, ih, List.map_cons]

theorem writeFields_eq (shows : Alphabet) (fields : List (String × Json)) :
    writeFields shows fields = fields.map fun f => (f.1, write shows f.2) := by
  induction fields with
  | nil => rfl
  | cons f rest ih => rw [writeFields, ih, List.map_cons]

/-! ## Sorting -/

theorem sortFields_perm {α : Type} (fields : List (String × α)) : (sortFields fields).Perm fields :=
  List.mergeSort_perm fields _

/-- The values have no part in the order of the names. -/
theorem sortFields_map {α β : Type} (f : α → β) (fields : List (String × α)) :
    sortFields (fields.map fun field => (field.1, f field.2)) =
      (sortFields fields).map fun field => (field.1, f field.2) := by
  rw [sortFields, sortFields, List.map_mergeSort]
  exact fun _ _ _ _ => rfl

theorem sorted_obj (fields : List (String × Json)) :
    sorted (.obj fields) = .obj ((sortFields fields).map fun f => (f.1, f.2.sorted)) := by
  rw [sorted, sortedFields_eq, sortFields_map]

/-! ## Lines that are read back -/

/-- The names of an object are written in their order, all else as it is. -/
theorem Writable.write_eq (h : Writable v) : write shows v = text shows v.sorted := by
  induction h with
  | null => rfl
  | bool b => rfl
  | int short => rfl
  | float format => rfl
  | str s => rfl
  | @arr items each ih =>
    rw [write, sorted, text, writeItems_eq, itemTexts_eq, sortedItems_eq, List.map_map,
      List.map_congr_left ih]
    rfl
  | @obj fields names each ih =>
    have members : ∀ f ∈ sortFields fields,
        writeString shows f.1.toList ++ ':' :: ' ' :: write shows f.2 =
          memberText shows (f.1, f.2.sorted) := by
      intro f hf
      rw [memberText, ih f ((sortFields_perm fields).mem_iff.mp hf)]
    rw [sorted_obj, write, text, writeFields_eq, sortFields_map, memberTexts_eq, List.map_map,
      List.map_map]
    exact congrArg (fun pieces => '\x7b' :: separated pieces ++ ['\x7d'])
      (List.map_congr_left members)

theorem Writable.sorted (h : Writable v) : Writable v.sorted := by
  induction h with
  | null => exact .null
  | bool b => exact .bool b
  | int short => exact .int short
  | float format => exact .float format
  | str s => exact .str s
  | @arr items each ih =>
    rw [Json.sorted, sortedItems_eq]
    exact .arr (List.forall_mem_map.mpr ih)
  | @obj fields names each ih =>
    have perm := sortFields_perm fields
    rw [sorted_obj]
    refine .obj ?_ (List.forall_mem_map.mpr fun f hf => ih f (perm.mem_iff.mp hf))
    rw [List.map_map]
    exact (perm.map Prod.fst).nodup_iff.mpr names

/-- From its line a value is read, with its objects sorted. -/
theorem Writable.parse_line (h : Writable v) : parse (line v) = .ok v.sorted := by
  have written : line v = text allButControls v.sorted := h.write_eq
  rw [written]
  exact parse_text (fun c shown => of_decide_eq_true shown) h.sorted

/-- No line has a control in it, so none has a newline. -/
theorem Writable.newline_not_mem_line (h : Writable v) : '\n' ∉ line v := by
  have written : line v = text allButControls v.sorted := h.write_eq
  intro held
  rw [written] at held
  have visible := visible_of_mem_text (fun c shown => of_decide_eq_true shown) h.sorted held
  exact absurd visible (by decide)

/-- Lines with newlines between them are found again. -/
theorem splitNewlines_lines {vs : List Json} (some_value : vs ≠ [])
    (writable : ∀ v ∈ vs, Writable v) :
    splitNewlines (joinWith ['\n'] (vs.map line)) = vs.map line := by
  refine splitAtChar_joinWith (by simpa using some_value) ?_
  exact List.forall_mem_map.mpr fun v hv => (writable v hv).newline_not_mem_line

/-! ## The same fields -/

/-- Two objects with the same fields, each name once, in whatever order. -/
def SameMembers (v w : Json) : Prop :=
  ∃ fields others, v = .obj fields ∧ w = .obj others ∧ (fields.map (·.1)).Nodup ∧
    fields.Perm others

/-- Sorting an object moves its fields, and changes none of those that hold no objects. -/
theorem sorted_obj_of_flat {fields : List (String × Json)} (flat : ∀ f ∈ fields, f.2.sorted = f.2) :
    sorted (.obj fields) = .obj (sortFields fields) := by
  rw [sorted_obj]
  refine congrArg Json.obj ((List.map_congr_left fun f hf => ?_).trans (List.map_id _))
  rw [flat f ((sortFields_perm fields).mem_iff.mp hf)]
  rfl

/-- Fields with the same names in the same order are the same in that order if they are in another. -/
theorem eq_of_perm {fields others : List (String × Json)}
    (names : fields.map (·.1) = others.map (·.1)) (nodup : (fields.map (·.1)).Nodup)
    (perm : fields.Perm others) : fields = others := by
  induction fields generalizing others with
  | nil => exact perm.nil_eq
  | cons f fields ih =>
    cases others with
    | nil => cases names
    | cons g others =>
      obtain ⟨name, rest⟩ := List.cons.inj names
      obtain ⟨new, nodup⟩ := List.nodup_cons.mp nodup
      have first : f = g := by
        rcases List.mem_cons.mp (perm.mem_iff.mp (List.mem_cons_self ..)) with same | later
        · exact same
        · exact absurd (rest ▸ List.mem_map_of_mem later) new
      subst first
      rw [ih rest nodup perm.cons_inv]

end ImportBoundary.Json
