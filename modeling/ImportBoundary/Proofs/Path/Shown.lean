import ImportBoundary.Proofs.Path.Ancestry

/-!
# Shown paths lead back

What `shownFrom` shows of a path leads back to the path when it is normalized from the same base, but
for one case (`normalize_shownFrom`): between the base and the path there are two segments or more, and
the first of them looks like a drive. What is shown then starts with a drive, and leads there.

The other way round, a relative path that stays below the base is shown as the names that it comes to
(`shownFrom_normalize`).
-/

namespace ImportBoundary

open Text

namespace Path

open PathChars Address

/-! ## Definition -/

/-- The path lies below the base, by two segments or more, of which the first is a letter and a
colon. -/
def ShowsDrive (base p : String) : Prop :=
  ∃ (letter : Char) (second : List Char) (more : List (List Char)), letter.isAlpha = true ∧
    topOf p = topOf base ∧ segmentsOf p = segmentsOf base ++ [letter, ':'] :: second :: more

/-- The names that a relative path comes to, one piece after the other, and `.` if there are none. -/
def namesShown (q : String) : List Char :=
  match (pieces (q.toList.map unifySeparator)).foldl goOn [] with
  | [] => ['.']
  | names => joinWith ['/'] names

/-! ## Names that are shown -/

theorem pieces_joinWith_names {segments : List Segment} (some_segment : segments ≠ []) :
    pieces (joinWith ['/'] (segments.map Subtype.val)) = segments.map Subtype.val := by
  apply splitAtChar_joinWith (mt List.map_eq_nil_iff.mp some_segment)
  intro s mem
  obtain ⟨segment, -, rfl⟩ := List.mem_map.mp mem
  exact segment.2.2.2.2.1

theorem clean_joinWith_names (segments : List Segment) :
    Clean (joinWith ['/'] (segments.map Subtype.val)) := by
  apply clean_joinWith
  intro s mem
  obtain ⟨segment, -, rfl⟩ := List.mem_map.mp mem
  exact segment.2

/-- Names that start with a drive are the path of a place on that drive. -/
theorem ofList_joinWith_drive (d : Drive) (s : Segment) (more : List Segment) :
    String.ofList (joinWith ['/'] ([d.1, ':'] :: (s :: more).map Subtype.val)) =
      (Address.mk (some d) (s :: more)).path := by
  rw [Address.path, Address.text, Address.names]
  simp [joinWith, opening]

/-- Names read as an absolute path exactly if they start with a drive and there are others behind it. -/
theorem isAbsolute_joinWith_names {segments : List Segment} (some_segment : segments ≠ []) :
    PathChars.isAbsolute (joinWith ['/'] (segments.map Subtype.val)) = true ↔
      ∃ (d : Drive) (s : Segment) (more : List Segment),
        segments.map Subtype.val = [d.1, ':'] :: (s :: more).map Subtype.val := by
  constructor
  · intro absolute
    obtain ⟨top, rest, split⟩ := isAbsolute_iff_splitTop.mp absolute
    rw [map_unifySeparator (clean_joinWith_names segments).2] at split
    obtain ⟨drive, -, eq⟩ := exists_drive_of_splitTop split
    have names := pieces_joinWith_names some_segment
    rw [eq, opening_eq, List.append_assoc, List.singleton_append, pieces, splitAtChar_append,
      splitAtChar_of_not_mem (slash_not_mem_head drive), List.singleton_append] at names
    obtain ⟨first, others, rfl, head, behind⟩ := List.map_eq_cons_iff.mp names.symm
    cases drive with
    | none => exact absurd head first.2.1  -- no name is empty, so none starts with a slash
    | some d =>
      cases others with
      | nil => exact absurd behind.symm (splitAtChar_ne_nil _ _)
      | cons s more => exact ⟨d, s, more, congrArg (· :: _) head⟩
  · rintro ⟨d, s, more, names⟩
    have path := isAbsolute_path (Address.mk (some d) (s :: more))
    rw [← ofList_joinWith_drive, ← names, Path.isAbsolute, String.toList_ofList] at path
    exact path

/-- What is shown of a path below the base leads back from there if it is no absolute path. -/
theorem resolve_joinWith_names (a : Address) {segments : List Segment} (some_segment : segments ≠ [])
    (relative :
      PathChars.isAbsolute (joinWith ['/'] (segments.map Subtype.val)) = false) :
    a.resolve (joinWith ['/'] (segments.map Subtype.val)) = a.below segments := by
  have clean := clean_joinWith_names segments
  rw [resolve, relative, if_neg Bool.false_ne_true, PathChars.unifySlashes, follow_pieces_collapse,
    map_unifySeparator clean.2, pieces_joinWith_names some_segment, follow_segments]

/-! ## Back from what is shown -/

theorem showsDrive_path_iff {a : Address} {segments : List Segment} :
    ShowsDrive a.path (a.below segments).path ↔ ∃ (d : Drive) (s : Segment) (more : List Segment),
      segments.map Subtype.val = [d.1, ':'] :: (s :: more).map Subtype.val := by
  simp only [ShowsDrive, topOf_path, segmentsOf_path, names_below, List.append_cancel_left_eq]
  simp only [below, true_and]
  constructor
  · rintro ⟨letter, second, more, alpha, names⟩
    obtain ⟨first, others, rfl, head, rest⟩ := List.map_eq_cons_iff.mp names
    obtain ⟨s, tail, rfl, rfl, rfl⟩ := List.map_eq_cons_iff.mp rest
    exact ⟨⟨letter, alpha⟩, s, tail, names⟩
  · rintro ⟨d, s, more, names⟩
    exact ⟨d.1, s.1, more.map Subtype.val, d.2, names⟩

/-- What starts with a drive leads there, to a place with one name less. -/
theorem normalize_joinWith_drive (a : Address) {segments : List Segment} {d : Drive} {s : Segment}
    {more : List Segment}
    (names : segments.map Subtype.val = [d.1, ':'] :: (s :: more).map Subtype.val) :
    normalize a.path (String.ofList (joinWith ['/'] (segments.map Subtype.val))) ≠
      (a.below segments).path := by
  have longer : segments.length = more.length + 2 := by
    have lengths := congrArg List.length names
    simp only [List.length_map, List.length_cons] at lengths
    exact lengths
  rw [names, ofList_joinWith_drive, normalize_of_path]
  intro same
  have counts := congrArg (List.length ∘ Address.segments) (path_injective same)
  simp only [Function.comp_apply, below, List.length_append, List.length_cons] at counts
  omega

/-- What is shown of a path below the base leads back to it, or it starts with a drive. -/
theorem normalize_shownFrom_below (a : Address) (segments : List Segment) :
    normalize a.path (shownFrom a.path (a.below segments).path) = (a.below segments).path ↔
      ¬ ShowsDrive a.path (a.below segments).path := by
  rw [shownFrom_path, shownFrom_below, showsDrive_path_iff]
  by_cases self : segments = []
  · subst self
    have stays : normalize a.path "." = a.path := by
      rw [normalize_path a (by decide), resolve_dot]
    rw [if_pos rfl, below_nil]
    refine iff_of_true stays ?_
    rintro ⟨d, s, more, names⟩
    cases names
  rw [if_neg self, ← isAbsolute_joinWith_names self]
  by_cases absolute : PathChars.isAbsolute (joinWith ['/'] (segments.map Subtype.val)) = true
  · obtain ⟨d, s, more, names⟩ := (isAbsolute_joinWith_names self).mp absolute
    exact iff_of_false (normalize_joinWith_drive a names) (not_not_intro absolute)
  · have back := resolve_joinWith_names a self (Bool.eq_false_iff.mpr absolute)
    have nul : IsNulFree (String.ofList (joinWith ['/'] (segments.map Subtype.val))) := by
      rw [IsNulFree, String.toList_ofList]
      exact (clean_joinWith_names segments).1
    refine iff_of_true ?_ absolute
    rw [normalize_path a nul, String.toList_ofList, back]

/-- A path outside the base is shown in full, and whatever is not below the base shows no drive. -/
theorem normalize_shownFrom_outside {a b : Address} (outside : ¬ a.IsAbove b) :
    normalize a.path (shownFrom a.path b.path) = b.path ∧ ¬ ShowsDrive a.path b.path := by
  constructor
  · rw [shownFrom_path, Address.shownFrom, if_neg outside]
    exact normalize_of_path a.path b
  · rintro ⟨letter, second, more, -, top, names⟩
    rw [topOf_path, topOf_path, Option.some.injEq] at top
    rw [segmentsOf_path, segmentsOf_path] at names
    exact outside (isAbove_iff_names.mpr ⟨top.symm, names ▸ List.prefix_append ..⟩)

/-- A relative path that never climbs is shown by the names that it comes to. -/
theorem shownFrom_normalize (a : Address) {q : String} (relative : isAbsolute q = false)
    (nul : IsNulFree q) (inside : NeverClimbs q) :
    shownFrom a.path (normalize a.path q) = String.ofList (namesShown q) := by
  obtain ⟨stop, walked⟩ := exists_walk_of_neverClimbs nul inside
  have clean := clean_map_unifySeparator nul
  have leads (b : Address) : b.follow (pieces (q.toList.map unifySeparator)) = b.below stop := by
    have followed := follow_of_walk (a := b) walked
    rwa [below_nil] at followed
  -- the names are those of the place that the path leads to from the root
  have names : (pieces (q.toList.map unifySeparator)).foldl goOn [] = stop.map Subtype.val := by
    have folded := foldl_goOn (fun piece mem => clean.isSegment_piece mem) (Address.top none)
    rw [leads] at folded
    exact folded
  rw [normalize_path a nul, resolve_of_relative a relative, leads, shownFrom_path, shownFrom_below,
    namesShown, names]
  cases stop with
  | nil => rfl
  | cons s stop => rfl

/-- What is shown of a path from a base leads back to the path, unless the path lies two segments or
more below the base and the first of them is a letter and a colon. A relative path that never climbs
above the base is shown as the names that it comes to. -/
theorem normalize_shownFrom {base : String} (canonical : IsCanonical base) :
    (∀ p, IsCanonical p → (normalize base (shownFrom base p) = p ↔ ¬ ShowsDrive base p)) ∧
    ∀ q, isAbsolute q = false → IsNulFree q → NeverClimbs q →
      shownFrom base (normalize base q) = String.ofList (namesShown q) := by
  obtain ⟨a, rfl⟩ : ∃ a : Address, a.path = base := ⟨ofPath base, canonical⟩
  constructor
  · intro p other
    obtain ⟨b, rfl⟩ : ∃ b : Address, b.path = p := ⟨ofPath p, other⟩
    by_cases above : a.IsAbove b
    · obtain ⟨same, segments, eq⟩ := above
      obtain rfl : b = a.below segments := by
        rw [below, eq, same]
      exact normalize_shownFrom_below a segments
    · obtain ⟨back, shows⟩ := normalize_shownFrom_outside above
      exact iff_of_true back shows
  · intro q relative nul inside
    exact shownFrom_normalize a relative nul inside

/-- A path that shows a drive, and one that climbs only as far as it came down. -/
theorem normalize_shownFrom_drive :
    let base := "/r"
    let p := "/r/C:/x"
    let q := "x\\..//./y/z"
    (IsCanonical base ∧ IsCanonical p) ∧
      (isAbsolute q = false ∧ IsNulFree q ∧ NeverClimbs q) ∧
      ShowsDrive base p ∧
      (normalize base (shownFrom base p) = p ↔ ¬ ShowsDrive base p) ∧
      shownFrom base (normalize base q) = String.ofList (namesShown q) := by
  intro base p q
  have canonical : IsCanonical base ∧ IsCanonical p := by
    simp only [isCanonical_iff_normalize]
    decide
  have shows : ShowsDrive base p := ⟨'C', ['x'], [], by decide, by decide, by decide⟩
  have inside : NeverClimbs q := by decide
  obtain ⟨back, shown⟩ := normalize_shownFrom canonical.1
  exact ⟨canonical, ⟨by decide, by decide, inside⟩, shows, back p canonical.2,
    shown q (by decide) (by decide) inside⟩

example : normalize "/r" (shownFrom "/r" "/r/C:/x") = "C:/x" ∧
    normalize "/r" (shownFrom "/r" "/r/C:") = "/r/C:" := by
  decide

end Path

end ImportBoundary
