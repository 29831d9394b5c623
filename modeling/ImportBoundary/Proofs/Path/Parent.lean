import ImportBoundary.Proofs.Path.Ancestry
import ImportBoundary.Proofs.Path.Roots

/-!
# The directory of a path

`parent` cuts a path at its last slash, and keeps that slash only where there is nothing else before it.
So of a drive, and of what stands directly on one, a letter and a colon are left, which is no absolute
path any more (`parent_cases`). Of any other canonical path it is canonical again and lies below the same
directories (`parent_ancestry`).
-/

namespace ImportBoundary

open Text

namespace Path

open PathChars Address

/-! ## Definition -/

/-- `q` is a directory above `p`: it has the same root or drive, and `p` has all its segments and more. -/
def IsAncestor (q p : String) : Prop :=
  topOf q = topOf p ∧ ∃ s more, segmentsOf p = segmentsOf q ++ s :: more

/-- The path is a drive, or it stands directly on one. -/
def StandsOnDrive (p : String) : Prop :=
  topOf p ≠ some ['/'] ∧ (segmentsOf p).length ≤ 1

instance (p : String) : Decidable (StandsOnDrive p) :=
  inferInstanceAs (Decidable (_ ∧ _))

end Path

namespace PathChars

open Address

/-! ## Parents of absolute paths -/

theorem throughLastSlash_opening (drive : Option Drive) (rest : List Char) :
    throughLastSlash (opening drive ++ rest) = opening drive ++ throughLastSlash rest := by
  have slash : ∀ p : List Char, ('/' :: p).dropWhile (· ≠ '/') = '/' :: p := fun p =>
    List.dropWhile_cons_of_neg (by simp)
  have opened : (opening drive).reverse = '/' :: (head drive).reverse := by
    rw [opening_eq, List.reverse_append]
    rfl
  rw [throughLastSlash, throughLastSlash, List.reverse_append, List.dropWhile_append, opened, slash]
  split
  · next none => rw [List.isEmpty_iff.mp none, opening_eq]; simp
  · rw [List.reverse_append, opening_eq]; simp

/-- What stands behind a slash that is not the last thing stays when slashes at the end are dropped. -/
theorem exists_dropTrailingSlashes_append (p : List Char) {c : Char} (h : c ≠ '/') (rest : List Char) :
    ∃ more, dropTrailingSlashes (p ++ c :: rest) = p ++ more := by
  refine ⟨dropTrailingSlashes (c :: rest), ?_⟩
  have kept : ((c :: rest).reverse.dropWhile (· = '/')).isEmpty = false := by
    rw [List.isEmpty_eq_false_iff]
    intro none
    have all := List.dropWhile_eq_nil_iff.mp none c (by simp)
    exact h (of_decide_eq_true all)
  rw [dropTrailingSlashes, dropTrailingSlashes, List.reverse_append, List.dropWhile_append, kept,
    if_neg Bool.false_ne_true, List.reverse_append, List.reverse_reverse]

theorem isAbsolute_opening_append (drive : Option Drive) (rest : List Char) :
    isAbsolute (opening drive ++ rest) = true := by
  have opened : isAbsolute ((opening drive).dropLast ++ '/' :: rest) = true :=
    isAbsolute_opening drive rfl
  cases drive <;> exact opened

/-- The parent of an absolute path is absolute, or a drive that has lost its slash. -/
theorem parent_cases {p : List Char} (absolute : isAbsolute p = true) :
    isAbsolute (parent p) = true ∨ ∃ d : Drive, parent p = [d.1, ':'] := by
  obtain ⟨drive, rest, eq, single⟩ := opensOnce_unifySlashes absolute
  simp only [parent, eq, throughLastSlash_opening]
  cases inner : throughLastSlash rest with
  | nil =>
    cases drive with
    | none => exact .inl (isAbsolute_opening_append none [])
    | some d =>
      have letter : d.1 ≠ '/' := Drive.ne_of_not_isAlpha d (by decide)
      refine .inr ⟨d, ?_⟩
      simp [opening, letter, dropTrailingSlashes]
  | cons c more =>
    have pre : throughLastSlash rest <+: rest := List.rdropWhile_prefix _ rest
    have noSlash : c ≠ '/' := by
      obtain ⟨after, whole⟩ := pre
      rw [← whole, inner, List.cons_append, isRooted_cons] at single
      exact of_decide_eq_false single
    obtain ⟨kept, dropped⟩ := exists_dropTrailingSlashes_append (opening drive) noSlash more
    left
    split
    · exact isAbsolute_opening_append drive _
    · rw [dropped]
      exact isAbsolute_opening_append drive kept

/-- What is normalized from the parent of an absolute path starts at the root or at a drive. -/
theorem exists_opening_of_normalize_parent {p : List Char} (absolute : isAbsolute p = true)
    (q : List Char) : ∃ drive rest, normalize (parent p) q = opening drive ++ rest := by
  rcases parent_cases absolute with own | ⟨d, bare⟩
  · obtain ⟨drive, eq⟩ := normalize_eq_cut own q
    exact ⟨drive, _, eq⟩
  · have top : isAbsolute (Address.top (some d)).text = true := isAbsolute_text _
    obtain ⟨drive, eq⟩ := normalize_eq_cut top q
    rw [bare, normalize_bareDrive, eq]
    exact ⟨drive, _, rfl⟩

end PathChars

namespace Address

/-! ## Parents of canonical paths -/

theorem isAbove_below_one_iff {a b : Address} {s : Segment} :
    a.IsAbove (b.below [s]) ↔ a = b.below [s] ∨ a.IsAbove b := by
  obtain ⟨drive, segments⟩ := a
  simp only [IsAbove, below, List.prefix_concat_iff, Address.mk.injEq]
  constructor
  · rintro ⟨same, rfl | pre⟩
    · exact .inl ⟨same, rfl⟩
    · exact .inr ⟨same, pre⟩
  · rintro (⟨same, rfl⟩ | ⟨same, pre⟩)
    · exact ⟨same, .inl rfl⟩
    · exact ⟨same, .inr pre⟩

/-- What is above an address, but not the address itself, is above the one that holds it. -/
theorem isAbove_up_iff {a b : Address} (ne : a ≠ b) : a.IsAbove b.up ↔ a.IsAbove b := by
  rcases b.eq_top_or_below with ⟨drive, rfl⟩ | ⟨c, s, rfl⟩
  · rfl
  · rw [up_below, isAbove_below_one_iff]
    exact ⟨.inr, fun above => above.resolve_left ne⟩

/-- An address is spelled by `stem` as in its path, or it is the top of a drive. -/
theorem stem_cases (a : Address) : a.stem = a.text ∧ (∀ d, a ≠ top (some d)) ∨
    ∃ d, a = top (some d) ∧ a.stem = [d.1, ':'] := by
  rcases a.eq_top_or_below with ⟨_ | d, rfl⟩ | ⟨b, s, rfl⟩
  · exact .inl ⟨rfl, fun d same => nomatch congrArg drive same⟩
  · exact .inr ⟨d, rfl, rfl⟩
  · refine .inl ⟨(stem_below b s).trans (text_below b s).symm, fun d same => ?_⟩
    have lengths := congrArg (List.length ∘ segments) same
    simp [below, top] at lengths

end Address

namespace Path

open PathChars Address

theorem isAncestor_path_iff {a b : Address} :
    IsAncestor a.path b.path ↔ a ≠ b ∧ a.IsAbove b := by
  simp only [IsAncestor, topOf_path, segmentsOf_path, Option.some.injEq, isAbove_iff_names]
  constructor
  · rintro ⟨top, s, more, names⟩
    refine ⟨?_, top, s :: more, names.symm⟩
    rintro rfl
    have lengths := congrArg List.length names
    simp at lengths
  · rintro ⟨ne, top, rest, names⟩
    cases rest with
    | cons s more => exact ⟨top, s, more, names.symm⟩
    | nil =>
      have above : a.IsAbove b := isAbove_iff_names.mpr ⟨top, [], names⟩
      have below : b.IsAbove a := isAbove_iff_names.mpr ⟨top.symm, [], by simpa using names.symm⟩
      exact absurd (above.antisymm below) ne

theorem standsOnDrive_path_iff {a : Address} :
    StandsOnDrive a.path ↔ ∃ d, a.up = top (some d) := by
  obtain ⟨drive, segments⟩ := a
  have short : segments.length ≤ 1 ↔ segments.dropLast = [] := by
    rw [← List.length_eq_zero_iff, List.length_dropLast]
    omega
  simp only [StandsOnDrive, topOf_path, segmentsOf_path, names, List.length_map, short, up, top,
    Address.mk.injEq]
  cases drive with
  | none => simp [opening]
  | some d => simp [opening]

/-- A drive that has lost its slash is no absolute path, and no canonical path lies above it. -/
theorem bareDrive_spec (d : Drive) : isAbsolute (String.ofList [d.1, ':']) = false ∧
    ∀ a : Address, covers a.path (String.ofList [d.1, ':']) = false := by
  have noSlash : '/' ∉ [d.1, ':'] := by
    have letter : '/' ≠ d.1 := (Drive.ne_of_not_isAlpha d (by decide)).symm
    simp [letter]
  constructor
  · have noBackslash : '\\' ≠ d.1 := (Drive.ne_of_not_isAlpha d (by decide)).symm
    apply isAbsolute_of_no_separator
    · rw [String.toList_ofList]
      exact noSlash
    · rw [String.toList_ofList]
      simp [noBackslash]
  · intro a
    rw [covers, Address.path, String.toList_ofList, String.toList_ofList, Bool.eq_false_iff]
    intro above
    rcases covers_iff.mp above with same | pre
    · exact noSlash (same ▸ by simp [text, opening_eq])
    · exact noSlash (pre.subset (by simp))

/-- The parent of a canonical path is canonical and absolute, unless the path is a drive or stands
directly on one. Of such a path the parent has lost its ancestors; of any other it lies below the same
directories as the path. -/
theorem parent_ancestry {p : String} (canonical : IsCanonical p) :
    (IsCanonical (parent p) ∧ isAbsolute (parent p) = true ↔ ¬ StandsOnDrive p) ∧
    ∀ q, IsCanonical q → q ≠ p →
      (covers q (parent p) = true ↔ IsAncestor q p ∧ ¬ StandsOnDrive p) := by
  obtain ⟨a, rfl⟩ : ∃ a : Address, a.path = p := ⟨ofPath p, canonical⟩
  have spelled : parent a.path = String.ofList a.up.stem := by
    rw [parent, Address.path, String.toList_ofList, parent_text]
  rw [spelled, standsOnDrive_path_iff]
  rcases a.up.stem_cases with ⟨same, onDrive⟩ | ⟨d, onDrive, bare⟩
  · have off : ¬ ∃ d, a.up = top (some d) := not_exists.mpr onDrive
    rw [same]
    refine ⟨iff_of_true ⟨isCanonical_path a.up, isAbsolute_path a.up⟩ off, ?_⟩
    intro q other ne
    obtain ⟨b, rfl⟩ : ∃ b : Address, b.path = q := ⟨ofPath q, other⟩
    have apart : b ≠ a := fun eq => ne (congrArg path eq)
    have above : covers b.path a.up.path = true ↔ b.IsAbove a := by
      rw [covers_path, decide_eq_true_iff, isAbove_up_iff apart]
    rw [isAncestor_path_iff]
    exact above.trans ⟨fun held => ⟨⟨apart, held⟩, off⟩, fun held => held.1.2⟩
  · have on : ∃ d, a.up = top (some d) := ⟨d, onDrive⟩
    obtain ⟨relative, alone⟩ := bareDrive_spec d
    rw [bare]
    refine ⟨iff_of_false ?_ (not_not_intro on), ?_⟩
    · rintro ⟨-, absolute⟩
      rw [relative] at absolute
      cases absolute
    · intro q other ne
      obtain ⟨b, rfl⟩ : ∃ b : Address, b.path = q := ⟨ofPath q, other⟩
      rw [alone b]
      exact iff_of_false Bool.false_ne_true fun held => held.2 on

/-- A file two segments below a drive, whose parent lies below the drive as well. -/
theorem parent_ancestry_below :
    let p := "C:/src/x.py"
    let q := "C:/"
    IsCanonical p ∧ IsCanonical q ∧ q ≠ p ∧ ¬ StandsOnDrive p ∧
      (IsCanonical (parent p) ∧ isAbsolute (parent p) = true ↔ ¬ StandsOnDrive p) ∧
      (covers q (parent p) = true ↔ IsAncestor q p ∧ ¬ StandsOnDrive p) := by
  intro p q
  have canonical : IsCanonical p ∧ IsCanonical q := by
    simp only [isCanonical_iff_normalize]
    decide
  have apart : q ≠ p := by decide
  obtain ⟨kept, above⟩ := parent_ancestry canonical.1
  exact ⟨canonical.1, canonical.2, apart, by decide, kept, above q canonical.2 apart⟩

/-- What stands directly on a drive: its parent is not canonical, and the drive does not lie above it. -/
theorem parent_loses_slash :
    let p := "C:/x"
    let q := "C:/"
    IsCanonical p ∧ IsCanonical q ∧ q ≠ p ∧ IsAncestor q p ∧
      ¬ (IsCanonical (parent p) ∧ isAbsolute (parent p) = true) ∧ covers q (parent p) = false := by
  intro p q
  have canonical : IsCanonical p ∧ IsCanonical q := by
    simp only [isCanonical_iff_normalize]
    decide
  have above : IsAncestor q p := ⟨by decide, ['x'], [], by decide⟩
  have relative : isAbsolute (parent p) = false := by decide
  refine ⟨canonical.1, canonical.2, by decide, above, ?_, by decide⟩
  rintro ⟨-, absolute⟩
  rw [relative] at absolute
  cases absolute

end Path

end ImportBoundary
