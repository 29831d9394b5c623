import ImportBoundary.Proofs.Path.Descent

/-!
# Ancestors

On canonical paths `covers` is read off their texts: the same root or drive, and the segments of the
one a prefix of those of the other. So it is a partial order in which what is above one path forms a
chain. A relative path that never climbs above the directory it starts from (`NeverClimbs`) leads to
something in it. Main statement: `covers_ancestry`.
-/

namespace ImportBoundary

open Text

namespace Address

/-! ## The order of addresses -/

theorem opening_injective {d d' : Option Drive} (h : opening d = opening d') : d = d' := by
  rw [opening_eq, opening_eq] at h
  exact head_injective (List.append_cancel_right h)

theorem isAbove_iff_names {a b : Address} :
    a.IsAbove b ↔ opening a.drive = opening b.drive ∧ a.names <+: b.names := by
  constructor
  · rintro ⟨drive, segments⟩
    exact ⟨congrArg opening drive, segments.map Subtype.val⟩
  · rintro ⟨openings, rest, names⟩
    refine ⟨opening_injective openings, ?_⟩
    obtain ⟨before, after, split, same, -⟩ := List.map_eq_append_iff.mp names.symm
    have before_eq : before = a.segments := List.map_injective_iff.mpr Subtype.val_injective same
    exact ⟨after, by rw [← before_eq, split]⟩

theorem IsAbove.trans {a b c : Address} (hab : a.IsAbove b) (hbc : b.IsAbove c) : a.IsAbove c :=
  ⟨hab.1.trans hbc.1, hab.2.trans hbc.2⟩

theorem IsAbove.antisymm {a b : Address} (hab : a.IsAbove b) (hba : b.IsAbove a) : a = b := by
  obtain ⟨drive, segments⟩ := a
  obtain ⟨same, pre⟩ := hab
  have shorter := hba.2.length_le
  have segments_eq : segments = b.segments := pre.eq_of_length_le shorter
  rw [segments_eq]
  exact congrArg (Address.mk · b.segments) same

/-- What is above one address is above each other. -/
theorem IsAbove.comparable {a b c : Address} (hac : a.IsAbove c) (hbc : b.IsAbove c) :
    a.IsAbove b ∨ b.IsAbove a := by
  have drive : a.drive = b.drive := hac.1.trans hbc.1.symm
  rcases List.prefix_or_prefix_of_prefix hac.2 hbc.2 with pre | pre
  · exact .inl ⟨drive, pre⟩
  · exact .inr ⟨drive.symm, pre⟩

end Address

namespace Path

open PathChars Address

/-! ## Definition -/

/-- The root or the drive that a path starts with. -/
def topOf (p : String) : Option (List Char) :=
  (splitTop p.toList).map Prod.fst

/-- The names between the slashes behind the root or the drive of a path. -/
def segmentsOf (p : String) : List (List Char) :=
  ((splitTop p.toList).map fun parts => namesIn parts.2).getD []

/-- A piece of a path that leads down. -/
def leadsDown (piece : List Char) : Bool :=
  decide (piece ≠ [] ∧ piece ≠ ['.'] ∧ piece ≠ ['.', '.'])

/-- Up to each of its pieces, the path leads up at most as often as it leads down. -/
def NeverClimbs (p : String) : Prop :=
  ∀ before, before <+: pieces (p.toList.map unifySeparator) →
    before.count ['.', '.'] ≤ before.countP leadsDown

instance (p : String) : Decidable (NeverClimbs p) :=
  decidable_of_iff (∀ before ∈ (pieces (p.toList.map unifySeparator)).inits,
    before.count ['.', '.'] ≤ before.countP leadsDown) (by simp only [List.mem_inits, NeverClimbs])

/-! ## Canonical paths -/

/-- The canonical paths are those that normalizing leaves as they are. -/
theorem isCanonical_iff_normalize {p : String} : IsCanonical p ↔ normalize "/" p = p := by
  constructor
  · intro canonical
    rw [← canonical]
    exact normalize_of_path "/" (ofPath p)
  · intro same
    have absolute : isAbsolute p = true := by
      rw [← same]
      exact isAbsolute_normalize (by decide) p
    have nul : IsNulFree p := by
      rw [← same]
      exact isNulFree_normalize "/" p
    rw [IsCanonical, ← normalize_of_isAbsolute "/" absolute nul]
    exact same

theorem topOf_path (a : Address) : topOf a.path = some (opening a.drive) := by
  rw [topOf, Address.path, String.toList_ofList, Address.text, splitTop_opening]
  rfl

theorem segmentsOf_path (a : Address) : segmentsOf a.path = a.names := by
  rw [segmentsOf, Address.path, String.toList_ofList, Address.text, splitTop_opening]
  exact namesIn_joinWith_names a

/-! ## Paths that stay below -/

/-- Pieces that lead up at most as often as down, the segments of the start counted in, lead to a place
below the directory. -/
theorem exists_walk {start : List Segment} {ps : List (List Char)}
    (segment : ∀ piece ∈ ps, IsSegment piece ↔ piece ≠ [] ∧ piece ≠ ['.'] ∧ piece ≠ ['.', '.'])
    (inside : ∀ before, before <+: ps →
      before.count ['.', '.'] ≤ start.length + before.countP leadsDown) :
    ∃ stop, walk start ps = some stop := by
  induction ps generalizing start with
  | nil => exact ⟨start, rfl⟩
  | cons piece ps ih =>
    obtain ⟨first, others⟩ := List.forall_mem_cons.mp segment
    have ahead : ∀ before, before <+: ps → (piece :: before).count ['.', '.'] ≤
        start.length + (piece :: before).countP leadsDown :=
      fun before pre => inside _ ((List.prefix_cons_inj piece).mpr pre)
    -- whatever the piece is, it leads to a start from which the others stay inside
    have onward : ∃ next, stepInside start piece = some next ∧ ∀ before, before <+: ps →
        before.count ['.', '.'] ≤ next.length + before.countP leadsDown := by
      unfold stepInside
      by_cases dots : piece = ['.', '.']
      · subst dots
        have uncounted : ¬ leadsDown ['.', '.'] = true := by decide
        simp only [List.count_cons_self, List.countP_cons_of_neg uncounted] at ahead
        have deep : 0 < start.length := ahead [] List.nil_prefix
        have shorter : start.dropLast.length = start.length - 1 := List.length_dropLast
        refine ⟨start.dropLast, by rw [if_pos rfl, if_neg (List.length_pos_iff.mp deep)], ?_⟩
        intro before pre
        have left := ahead before pre
        omega
      · simp only [List.count_cons_of_ne dots] at ahead
        by_cases down : IsSegment piece
        · have counted : leadsDown piece = true := decide_eq_true (first.mp down)
          simp only [List.countP_cons_of_pos counted] at ahead
          refine ⟨start ++ [⟨piece, down⟩], by rw [if_neg dots, dif_pos down], ?_⟩
          intro before pre
          have left := ahead before pre
          rw [List.length_append, List.length_singleton]
          omega
        · have uncounted : ¬ leadsDown piece = true := fun counted =>
            down (first.mpr (of_decide_eq_true counted))
          simp only [List.countP_cons_of_neg uncounted] at ahead
          exact ⟨start, by rw [if_neg dots, dif_neg down], ahead⟩
    obtain ⟨next, step, inside⟩ := onward
    obtain ⟨stop, leads⟩ := ih others inside
    refine ⟨stop, ?_⟩
    rw [walk, List.foldlM_cons, step]
    exact leads

/-- The pieces of a path that never climbs lead to a place below the directory they start from. -/
theorem exists_walk_of_neverClimbs {q : String} (nul : IsNulFree q) (inside : NeverClimbs q) :
    ∃ stop, walk [] (pieces (q.toList.map unifySeparator)) = some stop := by
  have clean := clean_map_unifySeparator nul
  refine exists_walk (fun piece mem => clean.isSegment_piece mem) ?_
  intro before pre
  rw [List.length_nil, Nat.zero_add]
  exact inside before pre

/-- A relative path that never climbs leads to a place below the directory it starts from. -/
theorem exists_below_of_neverClimbs (a : Address) {q : String} (relative : isAbsolute q = false)
    (nul : IsNulFree q) (inside : NeverClimbs q) :
    ∃ stop, normalize a.path q = (a.below stop).path := by
  obtain ⟨stop, walked⟩ := exists_walk_of_neverClimbs nul inside
  have followed := follow_of_walk (a := a) walked
  rw [below_nil] at followed
  refine ⟨stop, ?_⟩
  rw [normalize_path a nul, resolve_of_relative a relative, followed]

/-! ## The order of ancestors -/

/-- On canonical paths `covers` is the prefix order on the segments under one root or drive: it is
reflexive, transitive and antisymmetric, two paths above one path are comparable, and a relative path
that never climbs above a directory leads to something the directory covers. -/
theorem covers_ancestry {a b t : String} (ha : IsCanonical a) (hb : IsCanonical b)
    (ht : IsCanonical t) :
    (covers a t = true ↔ topOf a = topOf t ∧ segmentsOf a <+: segmentsOf t) ∧
    covers a a = true ∧
    (covers a b = true → covers b t = true → covers a t = true) ∧
    (covers a b = true → covers b a = true → a = b) ∧
    (covers a t = true → covers b t = true → covers a b = true ∨ covers b a = true) ∧
    ∀ q, isAbsolute q = false → IsNulFree q → NeverClimbs q → covers a (normalize a q) = true := by
  obtain ⟨x, rfl⟩ : ∃ x : Address, x.path = a := ⟨ofPath a, ha⟩
  obtain ⟨y, rfl⟩ : ∃ y : Address, y.path = b := ⟨ofPath b, hb⟩
  obtain ⟨z, rfl⟩ : ∃ z : Address, z.path = t := ⟨ofPath t, ht⟩
  simp only [covers_path, decide_eq_true_iff, topOf_path, segmentsOf_path, Option.some.injEq]
  refine ⟨isAbove_iff_names, ⟨rfl, List.prefix_rfl⟩, IsAbove.trans, ?_, IsAbove.comparable, ?_⟩
  · intro above below
    rw [above.antisymm below]
  · intro q relative nul inside
    obtain ⟨stop, below⟩ := exists_below_of_neverClimbs x relative nul inside
    rw [below, covers_path, decide_eq_true (isAbove_self_below x stop)]

/-- Two directories above one path on a drive, and a path that climbs only as far as it came down. -/
theorem covers_ancestry_drive :
    let a := "C:/"
    let b := "C:/src"
    let t := "C:/src/com"
    let q := "x\\..//./y"
    (IsCanonical a ∧ IsCanonical b ∧ IsCanonical t) ∧
      (isAbsolute q = false ∧ IsNulFree q ∧ NeverClimbs q) ∧
      (covers a t = true ↔ topOf a = topOf t ∧ segmentsOf a <+: segmentsOf t) ∧
      covers a a = true ∧
      (covers a b = true → covers b t = true → covers a t = true) ∧
      (covers a b = true → covers b a = true → a = b) ∧
      (covers a t = true → covers b t = true → covers a b = true ∨ covers b a = true) ∧
      covers a (normalize a q) = true := by
  intro a b t q
  have canonical : IsCanonical a ∧ IsCanonical b ∧ IsCanonical t := by
    simp only [isCanonical_iff_normalize]
    decide
  have inside : NeverClimbs q := by decide
  obtain ⟨order, self, trans, antisymm, comparable, below⟩ :=
    covers_ancestry canonical.1 canonical.2.1 canonical.2.2
  exact ⟨canonical, ⟨by decide, by decide, inside⟩, order, self, trans, antisymm, comparable,
    below q (by decide) (by decide) inside⟩

end Path

end ImportBoundary
