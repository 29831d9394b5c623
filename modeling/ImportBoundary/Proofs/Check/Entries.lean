import ImportBoundary.Check.Evaluation
import Mathlib.Data.List.Basic

/-!
# Reports entry by entry

Each zone, each restricted path and each private scope of a policy is reported by itself: what one of
them gives does not depend on the others, and a report lists what they give in the order of the policy
(`evaluate_entries`). Only the patterns of private files are looked at together.
-/

namespace ImportBoundary

/-- What is kept of a list is what each of its items gives. -/
theorem map_filter_eq_flatMap {α β : Type} (c : α → Bool) (f : α → β) (items : List α) :
    (items.filter c).map f = items.flatMap fun x => if c x then [f x] else [] := by
  induction items with
  | nil => rfl
  | cons x items ih =>
    rw [List.filter_cons, List.flatMap_cons, ← ih]
    cases c x <;> rfl

namespace Policy

/-- The violations of one zone, in a policy with this root. -/
def zoneViolations (root : String) (e : Edge) (z : Zone) : List Violation :=
  if z.holds e.sourceFile && !z.allows e.target then
    [.ofEdge .crossZone e z.name
      s!"In zone '{z.name}', importing from '{Path.shownFrom root e.target}' is prohibited."]
  else []

/-- The violations of one restricted path, in a policy with this root. -/
def restrictedViolations (root : String) (e : Edge) (r : RestrictedPath) : List Violation :=
  if Path.covers r.root e.target && !Path.anyCovers r.whitelist e.sourceFile then
    let shown := Path.shownFrom root r.root
    [.ofEdge .restrictedPath e shown (restrictedMessage shown)]
  else []

variable (p : Policy) (e : Edge)

theorem crossZone_entries : p.crossZone e = p.zones.flatMap (zoneViolations p.root e) := by
  rw [crossZone, zonesOf, List.filter_filter, map_filter_eq_flatMap]
  refine List.flatMap_congr fun z _ => ?_
  rw [Bool.and_comm]
  rfl

theorem restrictedPath_entries :
    p.restrictedPath e = p.restrictedPaths.flatMap (restrictedViolations p.root e) :=
  map_filter_eq_flatMap _ _ _

theorem directoryPrivate_congr {p p' : Policy} (e : Edge)
    (same : p'.privateFiles = p.privateFiles) : p'.directoryPrivate e = p.directoryPrivate e := by
  unfold directoryPrivate privatePattern?
  rw [same]

/-- The report on an edge, entry by entry. -/
theorem evaluate_entries : p.evaluate e =
    p.zones.flatMap (zoneViolations p.root e) ++
      (p.restrictedPaths.flatMap (restrictedViolations p.root e) ++
        (p.directoryPrivate e ++ p.privateScopes.flatMap (scopeViolations e))) := by
  simp only [evaluate, evaluateRules, Rule.all, List.flatMap_cons, List.flatMap_nil,
    List.append_nil, evaluateRule, crossZone_entries, restrictedPath_entries, zonePrivate]

end Policy

end ImportBoundary
