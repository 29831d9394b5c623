import ImportBoundary.Loading
import ImportBoundary.Proofs.Check.Entries
import Mathlib.Data.List.Flatten
import Mathlib.Data.List.Forall2

/-!
# Stricter and looser policies

A policy that forbids more keeps every violation, in its place among the others, and one that allows
more finds nothing new (`evaluate_monotone`). Entries may be put in anywhere (`Policy.Tightened`), but
patterns of private files only after those that are there: the first that matches names the violation.
-/

namespace ImportBoundary

open scoped List

/-! ## Policies side by side -/

/-- The same scope, perhaps with more patterns. -/
structure PrivateScope.Widened (s s' : PrivateScope) : Prop where
  name : s'.name = s.name
  sources : s'.sources = s.sources
  fileNames : s.fileNames ⊆ s'.fileNames

/-- The same zone, perhaps with more directories to import from. -/
structure Zone.Loosened (z z' : Zone) : Prop where
  name : z'.name = z.name
  paths : z'.paths = z.paths
  uses : z.uses ⊆ z'.uses

/-- The same restricted path, perhaps with more directories that may import from it. -/
structure RestrictedPath.Loosened (r r' : RestrictedPath) : Prop where
  root : r'.root = r.root
  whitelist : r.whitelist ⊆ r'.whitelist

/-- A policy with more entries, more patterns after those of private files, and more patterns in its
private scopes. -/
structure Policy.Tightened (p p' : Policy) : Prop where
  root : p'.root = p.root
  zones : p.zones <+ p'.zones
  restrictedPaths : p.restrictedPaths <+ p'.restrictedPaths
  privateFiles : p.privateFiles <+: p'.privateFiles
  privateScopes : List.SublistForall₂ PrivateScope.Widened p.privateScopes p'.privateScopes

/-- A policy with more directories to import from, and to import from restricted paths. -/
structure Policy.Loosened (p p' : Policy) : Prop where
  root : p'.root = p.root
  zones : List.Forall₂ Zone.Loosened p.zones p'.zones
  restrictedPaths : List.Forall₂ RestrictedPath.Loosened p.restrictedPaths p'.restrictedPaths
  privateFiles : p'.privateFiles = p.privateFiles
  privateScopes : p'.privateScopes = p.privateScopes

/-! ## Lists of entries -/

theorem sublist_ite {α : Type} {c c' : Bool} (xs : List α) (stays : c = true → c' = true) :
    (if c then xs else []) <+ if c' then xs else [] := by
  cases c with
  | false => exact List.nil_sublist _
  | true => rw [stays rfl]

/-- Related entries give the more in the same places. -/
theorem sublist_flatMap_of_forall₂ {α β γ : Type} {R : α → β → Prop} {f : α → List γ}
    {g : β → List γ} {xs : List α} {ys : List β} (related : List.Forall₂ R xs ys)
    (more : ∀ x y, R x y → f x <+ g y) : xs.flatMap f <+ ys.flatMap g := by
  induction related with
  | nil => exact List.Sublist.refl _
  | cons first _ ih =>
    rw [List.flatMap_cons, List.flatMap_cons]
    exact (more _ _ first).append ih

theorem anyCovers_eq_false_of_subset {roots more : List String} (sub : roots ⊆ more)
    {target : String} (outside : Path.anyCovers more target = false) :
    Path.anyCovers roots target = false := by
  rw [Path.anyCovers, List.any_eq_false] at outside ⊢
  exact fun root held => outside root (sub held)

namespace Policy

variable {p p' : Policy} {e : Edge}

/-! ## Entry by entry -/

theorem zoneViolations_loosened {root : String} {z z' : Zone} (h : z.Loosened z') :
    zoneViolations root e z' <+ zoneViolations root e z := by
  have reach : z.reach ⊆ z'.reach := by
    intro root held
    rw [Zone.reach, List.mem_append] at held ⊢
    rw [h.paths]
    exact held.imp_left fun used => h.uses used
  unfold zoneViolations Zone.holds Zone.allows
  rw [h.name, h.paths]
  refine sublist_ite _ fun broken => ?_
  rw [Bool.and_eq_true, Bool.not_eq_true'] at broken ⊢
  exact ⟨broken.1, anyCovers_eq_false_of_subset reach broken.2⟩

theorem restrictedViolations_loosened {root : String} {r r' : RestrictedPath} (h : r.Loosened r') :
    restrictedViolations root e r' <+ restrictedViolations root e r := by
  unfold restrictedViolations
  rw [h.root]
  refine sublist_ite _ fun broken => ?_
  rw [Bool.and_eq_true, Bool.not_eq_true'] at broken ⊢
  exact ⟨broken.1, anyCovers_eq_false_of_subset h.whitelist broken.2⟩

theorem scopeViolations_widened {s s' : PrivateScope} (h : s.Widened s') :
    scopeViolations e s <+ scopeViolations e s' := by
  unfold scopeViolations PrivateScope.coversName
  rw [h.name, h.sources]
  refine sublist_ite _ fun broken => ?_
  rw [Bool.and_eq_true] at broken ⊢
  obtain ⟨matched, outside⟩ := broken
  obtain ⟨pattern, held, found⟩ := List.any_eq_true.mp matched
  exact ⟨List.any_eq_true.mpr ⟨pattern, h.fileNames held, found⟩, outside⟩

/-- The first pattern that matches stays the first when others come after it. -/
theorem directoryPrivate_tightened (h : p.privateFiles <+: p'.privateFiles) :
    p.directoryPrivate e <+ p'.directoryPrivate e := by
  obtain ⟨more, files⟩ := h
  unfold directoryPrivate privatePattern?
  rw [← files, List.find?_append]
  cases p.privateFiles.find? (·.isFoundIn (Path.lastSegment e.target)) with
  | none => exact List.nil_sublist _
  | some pattern => exact List.Sublist.refl _

/-! ## Whole reports -/

theorem evaluate_tightened (h : p.Tightened p') : p.evaluate e <+ p'.evaluate e := by
  obtain ⟨between, widened, scopes⟩ := List.sublistForall₂_iff.mp h.privateScopes
  have scopeReports : p.privateScopes.flatMap (scopeViolations e) <+
      p'.privateScopes.flatMap (scopeViolations e) :=
    (sublist_flatMap_of_forall₂ widened fun _ _ => scopeViolations_widened).trans
      (scopes.flatMap _)
  rw [evaluate_entries, evaluate_entries, h.root]
  refine (h.zones.flatMap _).append ?_
  refine (h.restrictedPaths.flatMap _).append ?_
  exact (directoryPrivate_tightened h.privateFiles).append scopeReports

theorem evaluate_loosened (h : p.Loosened p') : p'.evaluate e <+ p.evaluate e := by
  have zoneReports : p'.zones.flatMap (zoneViolations p.root e) <+
      p.zones.flatMap (zoneViolations p.root e) :=
    sublist_flatMap_of_forall₂ h.zones.flip fun _ _ => zoneViolations_loosened
  have restrictedReports : p'.restrictedPaths.flatMap (restrictedViolations p.root e) <+
      p.restrictedPaths.flatMap (restrictedViolations p.root e) :=
    sublist_flatMap_of_forall₂ h.restrictedPaths.flip fun _ _ => restrictedViolations_loosened
  rw [evaluate_entries, evaluate_entries, h.root, h.privateScopes,
    directoryPrivate_congr e h.privateFiles]
  exact zoneReports.append (restrictedReports.append (List.Sublist.refl _))

/-- A policy that forbids more finds all that was found before, in the same order, and one that allows
more finds nothing that was not. -/
theorem evaluate_monotone (p p' : Policy) (e : Edge) :
    (p.Tightened p' → p.evaluate e <+ p'.evaluate e) ∧
      (p.Loosened p' → p'.evaluate e <+ p.evaluate e) :=
  ⟨evaluate_tightened, evaluate_loosened⟩

/-- A document with one zone, one restricted path and one private scope, whose other values are given. -/
def guardedDocument (zones restricted : List Json) (uses whitelist regexes fileNames : List String) :
    Json :=
  .obj [
    ("zones", .arr (zones ++ [.obj [("name", .str "ui"), ("paths", .arr [.str "ui"]),
      ("uses", .arr (uses.map .str))]])),
    ("restricted_paths", .arr (restricted ++ [.obj [("restricted_root", .str "core"),
      ("whitelist", .arr (whitelist.map .str))]])),
    ("private_files", .obj [("regexes", .arr (regexes.map .str))]),
    ("zone_private", .arr [.obj [("name", .str "core"), ("src", .arr [.str "core"]),
      ("filename_regexps", .arr (fileNames.map .str))]])]

theorem evaluate_monotone_guarded : ∃ p stricter looser e,
    build "/r" (guardedDocument [] [] ["lib"] [] ["^x"] ["y$"]) = .ok p ∧
    build "/r" (guardedDocument [.obj [("name", .str "all"), ("paths", .arr [.str "ui"])]]
      [.obj [("restricted_root", .str ".")]] ["lib"] [] ["^x", "^_"] ["x$", "y$"]) = .ok stricter ∧
    build "/r" (guardedDocument [] [] ["lib", "core"] ["ui/a"] ["^x"] ["y$"]) = .ok looser ∧
    Edge.create "/r/ui/a/b.py" "../../core/_x" none = .ok e ∧
    p.Tightened stricter ∧ p.Loosened looser ∧
    (looser.evaluate e).map (·.rule) = [] ∧
    (p.evaluate e).map (·.rule) = [.crossZone, .restrictedPath] ∧
    (stricter.evaluate e).map (·.rule) = [.crossZone, .crossZone, .restrictedPath, .restrictedPath,
      .directoryPrivate, .zonePrivate] ∧
    p.evaluate e <+ stricter.evaluate e ∧ looser.evaluate e <+ p.evaluate e := by
  refine ⟨_, _, _, _, rfl, rfl, rfl, rfl, ?_⟩
  refine ⟨?tightened, ?loosened, by decide, by decide, by decide,
    (evaluate_monotone _ _ _).1 ?tightened, (evaluate_monotone _ _ _).2 ?loosened⟩
  case tightened =>
    constructor
    case root => rfl
    case zones => exact .cons _ (.refl _)
    case restrictedPaths => exact .cons _ (.refl _)
    case privateFiles => exact List.prefix_append _ _
    case privateScopes => exact .cons ⟨rfl, rfl, List.subset_cons_self _ _⟩ .nil
  case loosened =>
    constructor
    case root => rfl
    case zones => exact .cons ⟨rfl, rfl, List.subset_append_left _ _⟩ .nil
    case restrictedPaths => exact .cons ⟨rfl, List.nil_subset _⟩ .nil
    case privateFiles => rfl
    case privateScopes => rfl

end Policy

end ImportBoundary
