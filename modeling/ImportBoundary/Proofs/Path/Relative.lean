import ImportBoundary.Proofs.Path.Canonical
import Mathlib.Data.List.Infix

/-!
# Relative paths that stay inside

A relative path that never climbs above the directory that it starts from leads to the same
segments in every directory. `route` follows such a path with no address at all, and
`Path.LeadsTo` says where it leads; taken from any address it leads to those segments below it
(`LeadsTo.resolve`). What lies below an address is compared, named and shown without regard to the
address.
-/

namespace ImportBoundary

open PathChars (pieces)

namespace Address

/-- One more piece of a path onto the segments below a directory. `..` must not leave the
directory. -/
def stepInside (segments : List Segment) (piece : List Char) : Option (List Segment) :=
  if piece = ['.', '.'] then
    if segments = [] then none else some segments.dropLast
  else if h : IsSegment piece then some (segments ++ [⟨piece, h⟩])
  else some segments

/-- The segments that some pieces lead to inside a directory. -/
def walk (start : List Segment) (ps : List (List Char)) : Option (List Segment) :=
  ps.foldlM stepInside start

theorem step_of_stepInside {a : Address} {start stop : List Segment} {piece : List Char}
    (h : stepInside start piece = some stop) : (a.below start).step piece = a.below stop := by
  unfold stepInside at h
  unfold step
  split at h
  · next up =>
    rw [if_pos up]
    split at h
    · cases h
    · next inner =>
      cases h
      simp only [Address.up, below, List.dropLast_append_of_ne_nil inner]
  · next notUp =>
    rw [if_neg notUp]
    split at h
    · next segment =>
      rw [dif_pos segment]
      cases h
      simp only [below, List.append_assoc]
    · next other =>
      rw [dif_neg other]
      cases h
      rfl

/-- Inside a directory, pieces lead where they lead from any address. -/
theorem follow_of_walk {a : Address} {start stop : List Segment} {ps : List (List Char)}
    (h : walk start ps = some stop) : (a.below start).follow ps = a.below stop := by
  induction ps generalizing start with
  | nil =>
    cases h
    rfl
  | cons piece ps ih =>
    rw [walk, List.foldlM_cons] at h
    obtain ⟨middle, first, rest⟩ := Option.bind_eq_some_iff.mp h
    calc (a.below start).follow (piece :: ps)
        = ((a.below start).step piece).follow ps := rfl
      _ = (a.below middle).follow ps := by rw [step_of_stepInside first]
      _ = a.below stop := ih rest

/-! ## Below one address -/

theorem below_nil (a : Address) : a.below [] = a := by
  simp [below]

theorem below_injective (a : Address) {s t : List Segment} (h : a.below s = a.below t) : s = t :=
  List.append_cancel_left (congrArg segments h)

theorem isAbove_below (a : Address) (s t : List Segment) :
    (a.below s).IsAbove (a.below t) ↔ s <+: t := by
  simp only [IsAbove, below, true_and, List.prefix_append_right_inj]

theorem isAbove_self_below (a : Address) (s : List Segment) : a.IsAbove (a.below s) :=
  ⟨rfl, List.prefix_append ..⟩

theorem up_below_of_ne_nil (a : Address) {s : List Segment} (h : s ≠ []) :
    (a.below s).up = a.below s.dropLast := by
  simp only [up, below, List.dropLast_append_of_ne_nil h]

theorem name_below_of_ne_nil (a : Address) {s : List Segment} (h : s ≠ []) :
    (a.below s).name = (s.getLast h).1 := by
  obtain ⟨before, last, rfl⟩ := List.eq_nil_or_concat s |>.resolve_left h
  simp [name, names, below]

/-- The segments between an address and one below it. -/
theorem shownFrom_below (a : Address) (s : List Segment) :
    a.shownFrom (a.below s) =
      if s = [] then ['.'] else Text.joinWith ['/'] (s.map Subtype.val) := by
  rw [shownFrom, if_pos (a.isAbove_self_below s), names_below, List.drop_left]
  cases s <;> rfl

end Address

namespace Path

open Address

/-- Where a path leads inside a directory, from the segments of its start. -/
def route (start : List Segment) (p : String) : Option (List Segment) :=
  walk start (pieces (PathChars.unifySlashes p.toList))

/-- The path is relative and does not leave the directory in which it leads from `start` to
`stop`. -/
structure LeadsTo (start : List Segment) (p : String) (stop : List Segment) : Prop where
  relative : isAbsolute p = false
  nulFree : IsNulFree p
  leads : route start p = some stop

theorem LeadsTo.resolve {start stop : List Segment} {p : String} (h : LeadsTo start p stop)
    (a : Address) : (a.below start).resolve p.toList = a.below stop := by
  have relative : PathChars.isAbsolute p.toList = false := h.relative
  rw [Address.resolve, relative]
  exact follow_of_walk h.leads

/-- A path that stays inside is normalized to its segments below any base. -/
theorem LeadsTo.normalize {stop : List Segment} {p : String} (h : LeadsTo [] p stop)
    (a : Address) : normalize a.path p = (a.below stop).path := by
  have below := h.resolve a
  rw [below_nil] at below
  rw [normalize_path a h.nulFree, below]

end Path

end ImportBoundary
