import ImportBoundary.Proofs.Files.Way
import Mathlib.Data.List.Flatten

/-!
# The length of paths

What a path leads to can be seen if the path is short enough and every name on the way is (`IsShort`):
that is a matter of its text alone. A path with some of the steps of another is short if the other is, so
the directories on the way to a file can be seen as well (`isDirectory_of_isFile`).
-/

namespace ImportBoundary

open Text PathChars

namespace FileSystem

variable {fs : FileSystem}

/-- No system refuses the path for its length, or for that of a name in it. -/
structure IsShort (p : List Char) : Prop where
  length : byteLength p ≤ longestPath
  names : ∀ name ∈ steps p, byteLength name ≤ longestName

theorem step_ne_tooLong (route : Route) (piece : List Char) :
    fs.step route piece ≠ .error .tooLong := by
  unfold step
  split
  · simp
  · simp
  · split
    · simp
    · split <;> simp

theorem lookUp_of_short {piece : List Char} (short : byteLength piece ≤ longestName) (route : Route) :
    fs.lookUp route piece = fs.step route piece :=
  if_neg fun long => Nat.not_lt.mpr short long.2

/-- Names that are short enough are looked up like any. -/
theorem foldlM_lookUp_of_short {ps : List (List Char)}
    (short : ∀ piece ∈ ps, byteLength piece ≤ longestName) (route : Route) :
    ps.foldlM fs.lookUp route = ps.foldlM fs.step route := by
  induction ps generalizing route with
  | nil => rfl
  | cons piece ps ih =>
    obtain ⟨first, rest⟩ := List.forall_mem_cons.mp short
    rw [List.foldlM_cons, List.foldlM_cons, lookUp_of_short first]
    exact bind_congr fun middle => ih rest middle

theorem foldlM_step_ne_tooLong (ps : List (List Char)) (route : Route) :
    ps.foldlM fs.step route ≠ .error .tooLong := by
  induction ps generalizing route with
  | nil => exact nofun
  | cons piece ps ih =>
    rw [List.foldlM_cons]
    cases first : fs.step route piece with
    | error obstacle =>
      intro long
      cases long
      exact step_ne_tooLong route piece first
    | ok middle => exact ih middle

/-- All names that have been looked up on the way are short enough. -/
theorem short_of_walk {ps : List (List Char)} {route route' : Route}
    (walked : ps.foldlM fs.step route = .ok route')
    (fits : ps.foldlM fs.lookUp route ≠ .error .tooLong) :
    ∀ piece ∈ ps, byteLength piece ≤ longestName := by
  induction ps generalizing route with
  | nil => exact nofun
  | cons piece ps ih =>
    rw [List.foldlM_cons] at walked fits
    obtain ⟨middle, first, rest⟩ := exists_of_bind walked
    have short : byteLength piece ≤ longestName := by
      by_contra long
      rw [lookUp, if_pos ⟨entry_of_step first, Nat.not_le.mp long⟩] at fits
      exact fits rfl
    rw [lookUp_of_short short, first] at fits
    exact List.forall_mem_cons.mpr ⟨short, ih rest fits⟩

theorem tooLong_eq_false_iff {p : String} : fs.tooLong p = false ↔
    byteLength p.toList ≤ longestPath ∧
      (pieces p.toList).foldlM fs.lookUp (fs.startOf p.toList) ≠ .error .tooLong := by
  rw [tooLong, Bool.or_eq_false_iff, decide_eq_false_iff_not, Nat.not_lt]
  refine and_congr_right fun _ => ?_
  split <;> simp_all

theorem seen_eq_some_iff {p : String} {e : Entry} :
    fs.seen? p = some e ↔ fs.tooLong p = false ∧ fs.at? p = some e := by
  unfold seen?
  cases fs.tooLong p <;> simp

theorem isFile_iff {p : String} :
    fs.isFile p = true ↔ fs.tooLong p = false ∧ ∃ bytes, fs.at? p = some (.file bytes) := by
  rw [isFile]
  split
  · next bytes seen =>
    obtain ⟨fits, there⟩ := seen_eq_some_iff.mp seen
    simp [fits, there]
  · next other =>
    simp only [Bool.false_eq_true, false_iff, not_and, not_exists]
    exact fun fits bytes there => other bytes (seen_eq_some_iff.mpr ⟨fits, there⟩)

theorem isDirectory_iff {p : String} :
    fs.isDirectory p = true ↔ fs.tooLong p = false ∧ fs.at? p = some .directory := by
  rw [← seen_eq_some_iff, isDirectory]
  split <;> simp_all

theorem contains_iff_exists {p : String} :
    fs.contains p = true ↔ fs.tooLong p = false ∧ ∃ e, fs.at? p = some e := by
  rw [contains, Option.isSome_iff_exists]
  simp only [seen_eq_some_iff, exists_and_left]

theorem probe_eq_ok_iff {p : String} {x : Option Entry} :
    fs.probe p = .ok x ↔ fs.tooLong p = false ∧ fs.at? p = x := by
  unfold probe
  cases fs.tooLong p <;> simp

/-- A text with some of the characters of another is no longer. -/
theorem byteLength_le_of_sublist {p q : List Char} (sub : p.Sublist q) :
    byteLength p ≤ byteLength q := by
  induction sub with
  | slnil => exact Nat.le_refl 0
  | cons c _ ih => exact ih.trans (Nat.le_add_left _ _)
  | cons_cons c _ ih => exact Nat.add_le_add_left ih _

theorem IsShort.of_steps {p q : List Char} (short : IsShort p) (length : byteLength q ≤ byteLength p)
    (sub : ∀ name ∈ steps q, name ∈ steps p) : IsShort q :=
  ⟨length.trans short.length, fun name mem => short.names name (sub name mem)⟩

theorem IsShort.pieces {p : List Char} (short : IsShort p) :
    ∀ piece ∈ pieces p, byteLength piece ≤ longestName := by
  intro piece mem
  cases leading : leads piece with
  | true => exact short.names piece (List.mem_filter.mpr ⟨mem, leading⟩)
  | false => rcases eq_of_not_leads leading with rfl | rfl <;> decide

theorem IsShort.tooLong_eq_false {p : String} (short : IsShort p.toList) : fs.tooLong p = false := by
  rw [tooLong_eq_false_iff, foldlM_lookUp_of_short short.pieces]
  exact ⟨short.length, foldlM_step_ne_tooLong _ _⟩

/-- A path that has been walked along is short, if it is not refused. -/
theorem isShort_of_walk {p : String} {route : Route} (fits : fs.tooLong p = false)
    (walked : (pieces p.toList).foldlM fs.step (fs.startOf p.toList) = .ok route) :
    IsShort p.toList := by
  obtain ⟨length, looked⟩ := tooLong_eq_false_iff.mp fits
  exact ⟨length, fun name mem => short_of_walk walked looked name (List.mem_filter.mp mem).1⟩

theorem isShort_of_at {p : String} {e : Entry} (fits : fs.tooLong p = false)
    (there : fs.at? p = some e) : IsShort p.toList := by
  obtain ⟨route, follows, -⟩ := at_eq_some_iff.mp there
  exact isShort_of_walk fits (follow_eq_ok_iff.mp follows).2.1

/-! ## Directories on the way -/

/-- A path of the first steps of another is part of it. -/
theorem joined_sublist {p : List Char} {names rest : List (List Char)}
    (rooted : isRooted p = true) (way : steps p = names ++ rest) :
    ('/' :: joinWith ['/'] names).Sublist p := by
  obtain ⟨tail, rfl⟩ : ∃ tail, p = '/' :: tail := by
    unfold isRooted at rooted
    split at rooted
    · exact ⟨_, rfl⟩
    · cases rooted
  have joined {ps : List (List Char)} (some_piece : ps ≠ []) :
      '/' :: joinWith ['/'] ps = ps.flatMap ('/' :: ·) := by
    obtain ⟨piece, ps, rfl⟩ := List.exists_cons_of_ne_nil some_piece
    rw [joinWith_cons_flatMap]
    rfl
  have whole : '/' :: tail = (pieces tail).flatMap ('/' :: ·) := by
    rw [← joined (splitAtChar_ne_nil '/' tail), joinWith_splitAtChar]
  cases names with
  | nil => exact (List.nil_sublist tail).cons_cons '/'
  | cons name names =>
    have kept : (name :: names).Sublist (pieces tail) := by
      have sub := List.filter_sublist (p := leads) (l := pieces tail)
      rw [← steps, ← steps_slash, way] at sub
      exact (List.sublist_append_left _ _).trans sub
    rw [joined (List.cons_ne_nil _ _), whole]
    exact kept.flatMap _

theorem pieces_joined {names : List (List Char)} (slashless : ∀ s ∈ names, '/' ∉ s) :
    pieces ('/' :: joinWith ['/'] names) = if names = [] then [[], []] else [] :: names := by
  have start : pieces ('/' :: joinWith ['/'] names) = [] :: pieces (joinWith ['/'] names) := by
    simp [splitAtChar]
  rw [start]
  split
  · next none =>
    subst none
    rfl
  · next some_name => rw [pieces, splitAtChar_joinWith some_name slashless]

/-- Some steps lead from the root where the path made of them leads. -/
theorem walk_joined {names : List (List Char)} (slashless : ∀ s ∈ names, '/' ∉ s)
    (root : fs.entry? [] = some .directory) :
    (pieces ('/' :: joinWith ['/'] names)).foldlM fs.step [] = names.foldlM fs.step [] := by
  have slash : fs.step [] [] = .ok [] := step_of_not_leads root rfl
  rw [pieces_joined slashless]
  split
  · next none =>
    subst none
    rw [List.foldlM_cons, slash]
    exact (congrArg (· >>= _) slash).trans rfl
  · rw [List.foldlM_cons, slash]
    rfl

/-- The directories on the way to a file are there. -/
theorem isDirectory_of_isFile {p : String} {names rest : List (List Char)}
    (rooted : isRooted p.toList = true) (file : fs.isFile p = true)
    (path : steps p.toList = names ++ rest) (more : rest ≠ []) :
    fs.isDirectory (String.ofList ('/' :: joinWith ['/'] names)) = true := by
  obtain ⟨fits, bytes, isThere⟩ := isFile_iff.mp file
  obtain ⟨route, found, -⟩ := at_eq_some_iff.mp isThere
  have walked := walk_of_follow rooted found
  have root : fs.entry? [] = some .directory :=
    entry_of_foldlM (splitAtChar_ne_nil _ _) walked
  have stepped := foldlM_filter_leads walked
  rw [← steps, path, List.foldlM_append] at stepped
  obtain ⟨middle, first, last⟩ := exists_of_bind stepped
  have inside : ∀ s ∈ names, s ∈ steps p.toList := fun s hs => path ▸ List.mem_append_left _ hs
  have areSteps : ∀ s ∈ names, '/' ∉ s ∧ s ≠ [] ∧ s ≠ ['.'] := fun s hs =>
    (mem_steps (inside s hs)).1
  have place := at_of_walk (p := String.ofList ('/' :: joinWith ['/'] names))
    (by rw [String.toList_ofList]; rfl)
    (by rw [String.toList_ofList, walk_joined (fun s hs => (areSteps s hs).1) root]; exact first)
    (entry_of_foldlM more last)
  have short : IsShort ('/' :: joinWith ['/'] names) := by
    refine (isShort_of_at fits isThere).of_steps
      (byteLength_le_of_sublist (joined_sublist rooted path)) ?_
    rw [steps_slash, steps_joinWith areSteps]
    exact inside
  refine isDirectory_iff.mpr ⟨IsShort.tooLong_eq_false ?_, place⟩
  rwa [String.toList_ofList]

end FileSystem

end ImportBoundary
