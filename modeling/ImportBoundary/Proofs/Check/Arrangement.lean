import ImportBoundary.Loading
import ImportBoundary.Proofs.Check.Entries
import ImportBoundary.Proofs.Path.Roots
import ImportBoundary.Proofs.Policy.Spelling

/-!
# The arrangement of roots

Lists of roots and patterns may be written in any order, and a list of roots may hold roots that lie
under another one of it: reports are the same (`evaluate_rearranged`). Only the sources of a private
scope are counted, since a scope is reported once for each of them that holds the target. There, such
roots change how often a scope is reported, but not whether it is (`SameButRepeats`).
-/

namespace ImportBoundary

/-! ## Policies side by side -/

/-- The same zone with its roots arranged in another way. -/
structure Zone.Rearranged (z z' : Zone) : Prop where
  name : z'.name = z.name
  paths : Path.SameReach z.paths z'.paths
  uses : Path.SameReach z.uses z'.uses

/-- The same restricted path with its whitelist arranged in another way. -/
structure RestrictedPath.Rearranged (r r' : RestrictedPath) : Prop where
  root : r'.root = r.root
  whitelist : Path.SameReach r.whitelist r'.whitelist

/-- The same private scope with its sources related in some way, and its patterns in any order. -/
structure PrivateScope.Rearranged (sources : List String → List String → Prop)
    (s s' : PrivateScope) : Prop where
  name : s'.name = s.name
  sources : sources s.sources s'.sources
  fileNames : s.fileNames.Perm s'.fileNames

/-- The same policy with the lists in its entries arranged in another way. -/
structure Policy.Rearranged (sources : List String → List String → Prop) (p p' : Policy) : Prop where
  root : p'.root = p.root
  zones : List.Forall₂ Zone.Rearranged p.zones p'.zones
  restrictedPaths : List.Forall₂ RestrictedPath.Rearranged p.restrictedPaths p'.restrictedPaths
  privateFiles : p'.privateFiles = p.privateFiles
  privateScopes : List.Forall₂ (PrivateScope.Rearranged sources) p.privateScopes p'.privateScopes

/-- The same violation on both sides, any number of times, but on both sides or on neither. -/
def SameButRepeats (vs vs' : List Violation) : Prop :=
  ∃ v count count', vs = List.replicate count v ∧ vs' = List.replicate count' v ∧
    (count = 0 ↔ count' = 0)

namespace Policy

variable {e : Edge}

/-! ## Entry by entry -/

theorem zoneViolations_rearranged {root : String} {z z' : Zone} (h : z.Rearranged z') :
    zoneViolations root e z = zoneViolations root e z' := by
  have reach (target : String) :
      Path.anyCovers z.reach target = Path.anyCovers z'.reach target := by
    rw [Path.anyCovers, Path.anyCovers, Zone.reach, Zone.reach, List.any_append, List.any_append]
    exact congrArg₂ (· || ·) (h.uses.anyCovers_eq target) (h.paths.anyCovers_eq target)
  simp only [zoneViolations, Zone.holds, Zone.allows, h.name, reach, h.paths.anyCovers_eq]

theorem restrictedViolations_rearranged {root : String} {r r' : RestrictedPath}
    (h : r.Rearranged r') : restrictedViolations root e r = restrictedViolations root e r' := by
  simp only [restrictedViolations, h.root, h.whitelist.anyCovers_eq]

/-- A private scope repeats one violation, once for each of its sources above the target. -/
theorem scopeViolations_eq (e : Edge) (s : PrivateScope) : scopeViolations e s =
    List.replicate
      (if s.coversName (Path.lastSegment e.target) && !Path.anyCovers s.sources e.sourceFile then
        s.sources.countP (Path.covers · e.target) else 0)
      (.ofEdge .zonePrivate e s.name
        s!"Import '{e.target}' goes beyond the directories of private scope '{s.name}'.") := by
  unfold scopeViolations
  split
  · rw [List.map_const', List.countP_eq_length_filter]
  · rfl

theorem scopeViolations_moved {s s' : PrivateScope} (h : s.Rearranged List.Perm s') :
    scopeViolations e s = scopeViolations e s' := by
  have inside := (Path.SameReach.moved h.sources).anyCovers_eq e.sourceFile
  rw [scopeViolations_eq, scopeViolations_eq, PrivateScope.coversName, PrivateScope.coversName,
    h.name, h.fileNames.any_eq, inside, h.sources.countP_eq]

theorem scopeViolations_rearranged {s s' : PrivateScope} (h : s.Rearranged Path.SameReach s') :
    SameButRepeats (scopeViolations e s) (scopeViolations e s') := by
  have none_iff (roots : List String) :
      roots.countP (Path.covers · e.target) = 0 ↔ Path.anyCovers roots e.target = false := by
    rw [List.countP_eq_zero, Path.anyCovers, List.any_eq_false]
  rw [scopeViolations_eq, scopeViolations_eq, h.name]
  refine ⟨_, _, _, rfl, rfl, ?_⟩
  rw [PrivateScope.coversName, PrivateScope.coversName, h.fileNames.any_eq,
    h.sources.anyCovers_eq e.sourceFile]
  split
  · rw [none_iff, none_iff, h.sources.anyCovers_eq e.target]
  · exact Iff.rfl

/-! ## Whole reports -/

theorem flatMap_eq_of_forall₂ {α β : Type} {R : α → α → Prop} {f : α → List β} {xs ys : List α}
    (related : List.Forall₂ R xs ys) (same : ∀ x y, R x y → f x = f y) :
    xs.flatMap f = ys.flatMap f := by
  rw [List.flatMap_def, List.flatMap_def, map_eq_of_forall₂ related same]

variable {sources : List String → List String → Prop} {p p' : Policy}

/-- What is reported before the private scopes. -/
theorem exists_front (h : p.Rearranged sources p') : ∃ front,
    p.evaluate e = front ++ p.privateScopes.flatMap (scopeViolations e) ∧
      p'.evaluate e = front ++ p'.privateScopes.flatMap (scopeViolations e) := by
  have zones : p.zones.flatMap (zoneViolations p.root e) = _ :=
    flatMap_eq_of_forall₂ h.zones fun _ _ => zoneViolations_rearranged
  have restricted : p.restrictedPaths.flatMap (restrictedViolations p.root e) = _ :=
    flatMap_eq_of_forall₂ h.restrictedPaths fun _ _ => restrictedViolations_rearranged
  refine ⟨p.crossZone e ++ p.restrictedPath e ++ p.directoryPrivate e, ?_, ?_⟩
  · rw [evaluate_entries, crossZone_entries, restrictedPath_entries]
    simp only [List.append_assoc]
  · rw [evaluate_entries, crossZone_entries, restrictedPath_entries, zones, restricted, h.root,
      directoryPrivate_congr e h.privateFiles]
    simp only [List.append_assoc]

/-- The order of roots and patterns does not matter, nor do roots that lie under another one of their
list: a report stays the same. Among the sources of private scopes such roots change nothing but how
often each scope is reported, and never whether it is. -/
theorem evaluate_rearranged (p p' : Policy) (e : Edge) :
    (p.Rearranged List.Perm p' → p.evaluate e = p'.evaluate e) ∧
      (p.Rearranged Path.SameReach p' → ∃ front,
        p.evaluate e = front ++ p.privateScopes.flatMap (scopeViolations e) ∧
          p'.evaluate e = front ++ p'.privateScopes.flatMap (scopeViolations e) ∧
          List.Forall₂ (fun s s' => SameButRepeats (scopeViolations e s) (scopeViolations e s'))
            p.privateScopes p'.privateScopes) := by
  constructor
  · intro h
    obtain ⟨front, report, report'⟩ := exists_front (e := e) h
    have scopes : p.privateScopes.flatMap (scopeViolations e) = _ :=
      flatMap_eq_of_forall₂ h.privateScopes fun _ _ => scopeViolations_moved
    rw [report, report', scopes]
  · intro h
    obtain ⟨front, report, report'⟩ := exists_front (e := e) h
    exact ⟨front, report, report', h.privateScopes.imp fun _ _ => scopeViolations_rearranged⟩

/-- A document with a zone, a restricted path and a private scope that have these lists. -/
def listsDocument (paths uses whitelist sources fileNames : List String) : Json :=
  .obj [
    ("zones", .arr [.obj [("name", .str "ui"), ("paths", .arr (paths.map .str)),
      ("uses", .arr (uses.map .str))]]),
    ("restricted_paths", .arr [.obj [("restricted_root", .str "/"),
      ("whitelist", .arr (whitelist.map .str))]]),
    ("zone_private", .arr [.obj [("name", .str "core"), ("src", .arr (sources.map .str)),
      ("filename_regexps", .arr (fileNames.map .str))]])]

theorem evaluate_rearranged_lists : ∃ p moved fewer e,
    build "/r" (listsDocument ["a", "b"] ["c", "d"] ["e", "f"] ["g", "g/h"] ["x", "y"]) =
      .ok p ∧
    build "/r" (listsDocument ["a/b", "b", "a"] ["d", "c"] ["f", "e"] ["g/h", "g"] ["y", "x"]) =
      .ok moved ∧
    build "/r" (listsDocument ["a", "b"] ["c", "d"] ["e", "f"] ["g"] ["x", "y"]) = .ok fewer ∧
    Edge.create "/r/a/i.py" "/r/g/h/x" none = .ok e ∧
    p.Rearranged List.Perm moved ∧ p.Rearranged Path.SameReach fewer ∧
    (p.evaluate e).map (·.rule) =
      [.crossZone, .restrictedPath, .zonePrivate, .zonePrivate] ∧
    p.evaluate e = moved.evaluate e ∧
    (fewer.evaluate e).map (·.rule) = [.crossZone, .restrictedPath, .zonePrivate] ∧
    List.Forall₂ (fun s s' => SameButRepeats (scopeViolations e s) (scopeViolations e s'))
      p.privateScopes fewer.privateScopes := by
  have unchanged (roots : List String) : Path.SameReach roots roots := .moved (.refl roots)
  have paths : Path.SameReach ["/r/a", "/r/b"] ["/r/a/b", "/r/b", "/r/a"] :=
    .trans (.moved (.swap _ _ _))
      (.added (List.mem_cons_of_mem _ (List.mem_singleton_self "/r/a")) (by decide))
  have uses : Path.SameReach ["/r/c", "/r/d"] ["/r/d", "/r/c"] := .moved (.swap _ _ _)
  have whitelist : Path.SameReach ["/r/e", "/r/f"] ["/r/f", "/r/e"] := .moved (.swap _ _ _)
  have sources : Path.SameReach ["/r/g", "/r/g/h"] ["/r/g"] :=
    .trans (.moved (.swap _ _ _)) (.symm (.added (List.mem_singleton_self "/r/g") (by decide)))
  refine ⟨_, _, _, _, rfl, rfl, rfl, rfl, ?moved, ?fewer, by decide,
    (evaluate_rearranged _ _ _).1 ?moved, by decide,
    ((evaluate_rearranged _ _ _).2 ?fewer).choose_spec.2.2⟩
  case moved =>
    constructor
    case root => rfl
    case zones => exact .cons ⟨rfl, paths, uses⟩ .nil
    case restrictedPaths => exact .cons ⟨rfl, whitelist⟩ .nil
    case privateFiles => rfl
    case privateScopes => exact .cons ⟨rfl, .swap _ _ _, .swap _ _ _⟩ .nil
  case fewer =>
    constructor
    case root => rfl
    case zones => exact .cons ⟨rfl, unchanged _, unchanged _⟩ .nil
    case restrictedPaths => exact .cons ⟨rfl, unchanged _⟩ .nil
    case privateFiles => rfl
    case privateScopes => exact .cons ⟨rfl, sources, .refl _⟩ .nil

end Policy

end ImportBoundary
