import ImportBoundary.Log.Basic
import ImportBoundary.Proofs.Text.Pieces
import Mathlib.Data.List.Induction
import Mathlib.Data.List.Nodup
import Mathlib.Data.List.TakeWhile

/-!
# Names of loggers

The loggers that a record goes to: the one that it comes from, those whose names its name continues after
a dot (`IsAtOrAbove`), and the root. Each is in the lineage of the name, and only once
(`mem_lineage_iff`, `nodup_lineage`).
-/

namespace ImportBoundary.Log

open Text

/-! ## Definition -/

/-- The second name is the first one, or goes on after it with a dot. -/
def IsAtOrAbove (upper name : String) : Prop :=
  upper = name ∨ upper.toList ++ ['.'] <+: name.toList

instance (upper name : String) : Decidable (IsAtOrAbove upper name) :=
  inferInstanceAs (Decidable (_ ∨ _))

/-! ## One name above another -/

theorem above_append {ending : List Char} (noDot : '.' ∉ ending) (upper : List Char) :
    above? (upper ++ '.' :: ending) = if upper = [] then none else some upper := by
  have kept : ∀ c ∈ ending.reverse, decide (c ≠ '.') = true := by
    intro c mem
    exact decide_eq_true fun dot => noDot (List.mem_reverse.mp (dot ▸ mem))
  have turned : (upper ++ '.' :: ending).reverse = ending.reverse ++ '.' :: upper.reverse := by simp
  rw [above?, turned, List.dropWhile_append_of_pos kept]
  simp [List.isEmpty_iff]

theorem above_of_not_mem {name : List Char} (noDot : '.' ∉ name) : above? name = none := by
  have kept : ∀ c ∈ name.reverse, decide (c ≠ '.') = true := by
    intro c mem
    exact decide_eq_true fun dot => noDot (List.mem_reverse.mp (dot ▸ mem))
  have gone : name.reverse.dropWhile (· ≠ '.') = [] := List.dropWhile_eq_nil_iff.mpr kept
  rw [above?, gone]
  rfl

theorem prefix_of_above {name upper : List Char} (h : above? name = some upper) :
    upper ++ ['.'] <+: name := by
  by_cases dot : '.' ∈ name
  · obtain ⟨before, ending, noDot, rfl⟩ := eq_append_cons_of_mem_last dot
    rw [above_append noDot] at h
    split at h
    · cases h
    · cases h
      exact ⟨ending, by simp⟩
  · rw [above_of_not_mem dot] at h
    cases h

/-- What goes up to a dot of a name goes up to its last one, or to one before it. -/
theorem concat_dot_prefix_iff {ending : List Char} (noDot : '.' ∉ ending) {upper before : List Char} :
    upper ++ ['.'] <+: before ++ '.' :: ending ↔ upper = before ∨ upper ++ ['.'] <+: before := by
  induction ending using List.reverseRecOn with
  | nil =>
    rw [List.prefix_concat_iff, List.append_left_inj]
  | append_singleton ending c ih =>
    have other : '.' ≠ c := by
      rintro rfl
      exact noDot (by simp)
    have shorter := ih fun mem => noDot (List.mem_append_left _ mem)
    rw [← List.cons_append, ← List.append_assoc, List.prefix_concat_iff, shorter]
    refine or_iff_right_of_imp fun same => ?_
    exact absurd (List.append_inj' same rfl).2 (by simp [other])

/-! ## All names above another -/

theorem mem_namesAbove_iff {name : List Char} {fuel : Nat} (long : name.length ≤ fuel)
    {upper : String} :
    upper ∈ namesAbove name fuel ↔ upper ≠ "" ∧ upper.toList ++ ['.'] <+: name := by
  induction fuel generalizing name with
  | zero =>
    obtain rfl : name = [] := List.length_eq_zero_iff.mp (Nat.le_zero.mp long)
    simp [namesAbove]
  | succ fuel ih =>
    rw [namesAbove]
    by_cases dot : '.' ∈ name
    · obtain ⟨before, ending, noDot, rfl⟩ := eq_append_cons_of_mem_last dot
      rw [above_append noDot, concat_dot_prefix_iff noDot]
      by_cases first : before = []
      · subst first
        simp
      · have shorter : before.length ≤ fuel := by
          rw [List.length_append, List.length_cons] at long
          omega
        rw [if_neg first]
        simp only [List.mem_cons, ih shorter]
        have spelled : upper = String.ofList before ↔ upper.toList = before := by
          rw [← String.toList_inj, String.toList_ofList]
        have some_char : upper.toList = before → upper ≠ "" := by
          rintro same rfl
          exact first same.symm
        rw [spelled, and_or_left, and_iff_right_of_imp some_char]
    · rw [above_of_not_mem dot]
      refine iff_of_false List.not_mem_nil ?_
      rintro ⟨-, pre⟩
      exact dot (pre.subset (by simp))

theorem length_lt_of_mem_namesAbove {name : List Char} {fuel : Nat} (long : name.length ≤ fuel)
    {upper : String} (mem : upper ∈ namesAbove name fuel) : upper.toList.length < name.length := by
  have short := ((mem_namesAbove_iff long).mp mem).2.length_le
  rw [List.length_append, List.length_singleton] at short
  omega

theorem nodup_namesAbove {name : List Char} {fuel : Nat} (long : name.length ≤ fuel) :
    (namesAbove name fuel).Nodup := by
  induction fuel generalizing name with
  | zero => exact List.nodup_nil
  | succ fuel ih =>
    rw [namesAbove]
    cases above : above? name with
    | none => exact List.nodup_nil
    | some upper =>
      have short := (prefix_of_above above).length_le
      rw [List.length_append, List.length_singleton] at short
      have shorter : upper.length ≤ fuel := by omega
      refine List.nodup_cons.mpr ⟨fun mem => ?_, ih shorter⟩
      have short := length_lt_of_mem_namesAbove shorter mem
      rw [String.toList_ofList] at short
      exact Nat.lt_irrefl _ short

/-! ## Lineages -/

/-- Besides the root, a record goes to the loggers at or above its own. -/
theorem mem_lineage_iff {upper name : String} (some_char : upper ≠ "") (notRoot : upper ≠ rootName) :
    upper ∈ lineage (loggerName name) ↔ IsAtOrAbove upper name := by
  have noDot {text : String} (h : '.' ∉ text.toList) : ¬ upper.toList ++ ['.'] <+: text.toList :=
    fun pre => h (pre.subset (by simp))
  unfold loggerName
  split
  · next empty =>
    obtain rfl : name = "" := String.isEmpty_iff.mp empty
    refine iff_of_false (by simpa [lineage] using notRoot) ?_
    exact not_or.mpr ⟨some_char, noDot (by decide)⟩
  · unfold lineage IsAtOrAbove
    by_cases root : name = rootName
    · subst root
      rw [if_pos rfl]
      refine iff_of_false (by simpa using notRoot) ?_
      exact not_or.mpr ⟨notRoot, noDot (by decide)⟩
    · rw [if_neg root, List.mem_append, List.mem_cons, List.mem_filter, List.mem_singleton,
        mem_namesAbove_iff String.length_toList.le]
      simp [some_char, notRoot]

/-- A record goes to no logger twice. -/
theorem nodup_lineage (name : String) : (lineage name).Nodup := by
  unfold lineage
  by_cases root : name = rootName
  · rw [if_pos root]
    exact List.nodup_singleton rootName
  · have own : name ∉ (namesAbove name.toList name.length).filter (· ≠ rootName) := by
      intro mem
      have inside := (List.mem_filter.mp mem).1
      exact Nat.lt_irrefl _ (length_lt_of_mem_namesAbove String.length_toList.le inside)
    have upper := (nodup_namesAbove (String.length_toList (s := name)).le).filter (· ≠ rootName)
    rw [if_neg root, List.nodup_append_comm, List.singleton_append]
    refine List.nodup_cons.mpr ⟨?_, List.nodup_cons.mpr ⟨own, upper⟩⟩
    simp [Ne.symm root]

end ImportBoundary.Log
