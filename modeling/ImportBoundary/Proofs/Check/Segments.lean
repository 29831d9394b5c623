import ImportBoundary.Check.Evaluation
import ImportBoundary.Proofs.Policy.Paths

/-!
# Evaluation on segments

What the rules say when paths are read as addresses: a path lies under a root when both are under
the same drive and the root's segments come first. `Policy.items` gives the rule and the name of
every violation in these terms, with no text of a path in them, and `evaluate_items` says that
evaluating an edge finds exactly those, in this order.
-/

namespace ImportBoundary

open Address

/-- The path lies under the root: the same drive, and the root's segments first. -/
def LiesUnder (path root : String) : Prop :=
  (ofPath root).IsAbove (ofPath path)

instance (path root : String) : Decidable (LiesUnder path root) :=
  inferInstanceAs (Decidable (Address.IsAbove _ _))

/-- Both paths of an edge are canonical. -/
def Edge.IsCanonical (e : Edge) : Prop :=
  Address.IsCanonical e.sourceFile ∧ Address.IsCanonical e.target

/-- All paths of a policy are canonical. -/
def Policy.IsCanonical (p : Policy) : Prop :=
  ∀ path ∈ p.paths, Address.IsCanonical path

/-- The two paths of an edge: the source, and what the specifier leads to from its directory. -/
theorem Edge.create_eq_ok {source specifier : String} {location : Option Location} {e : Edge}
    (made : Edge.create source specifier location = .ok e) (sourceNul : Path.IsNulFree source)
    (specifierNul : Path.IsNulFree specifier) :
    e = { sourceFile := (ofPath source).path
          specifier
          target := ((ofPath source).up.resolve specifier.toList).path
          location } := by
  unfold Edge.create at made
  split at made
  · next absolute =>
    simp only [Path.normalize_of_isAbsolute "/" absolute sourceNul,
      Path.normalize_parent _ specifierNul] at made
    exact (Except.ok.inj made).symm
  · cases made

namespace Policy

/-- The last segment of what an edge imports. -/
def importedName (e : Edge) : String :=
  String.ofList (ofPath e.target).name

/-- One item for each zone that the source lies in and that does not reach the target. -/
def crossZoneItems (p : Policy) (e : Edge) : List (Rule × String) :=
  (p.zones.filter fun z =>
    (∃ r ∈ z.paths, LiesUnder e.sourceFile r) ∧
      ¬ ∃ r ∈ z.uses ++ z.paths, LiesUnder e.target r).map fun z => (.crossZone, z.name)

/-- One item for each entry whose root is above the target while no whitelisted root is above the
source. It is named by the segments from the policy's root to the entry's. -/
def restrictedItems (p : Policy) (e : Edge) : List (Rule × String) :=
  (p.restrictedPaths.filter fun r =>
    LiesUnder e.target r.root ∧ ¬ ∃ w ∈ r.whitelist, LiesUnder e.sourceFile w).map fun r =>
      (.restrictedPath, String.ofList ((ofPath p.root).shownFrom (ofPath r.root)))

/-- An item for the first pattern that finds the target's last segment, unless the address above the
target is above the one that holds the source. -/
def directoryItems (p : Policy) (e : Edge) : List (Rule × String) :=
  match p.privateFiles.find? fun regex => regex.isFoundIn (importedName e) with
  | none => []
  | some regex =>
    if (ofPath e.target).up.IsAbove (ofPath e.sourceFile).up then []
    else [(.directoryPrivate, regex.source)]

/-- For each scope with a pattern that finds the target's last segment, and with no root above the
source: one item for each of its roots above the target. -/
def scopeItems (p : Policy) (e : Edge) : List (Rule × String) :=
  p.privateScopes.flatMap fun s =>
    if (∃ regex ∈ s.fileNames, regex.isFoundIn (importedName e) = true) ∧
        ¬ ∃ r ∈ s.sources, LiesUnder e.sourceFile r then
      (s.sources.filter fun r => LiesUnder e.target r).map fun _ => (.zonePrivate, s.name)
    else []

/-- The rule and the name of each violation, rule by rule. -/
def items (p : Policy) (e : Edge) : List (Rule × String) :=
  crossZoneItems p e ++ restrictedItems p e ++ directoryItems p e ++ scopeItems p e

/-! ## Texts read as addresses -/

theorem covers_eq {root path : String} (hr : Address.IsCanonical root)
    (hp : Address.IsCanonical path) : Path.covers root path = decide (LiesUnder path root) := by
  rw [← hr, ← hp, Path.covers_path]
  simp only [LiesUnder, ofPath_path]

theorem anyCovers_eq {roots : List String} {path : String}
    (hr : ∀ r ∈ roots, Address.IsCanonical r) (hp : Address.IsCanonical path) :
    Path.anyCovers roots path = decide (∃ r ∈ roots, LiesUnder path r) := by
  rw [Bool.eq_iff_iff, Path.anyCovers_iff, decide_eq_true_iff]
  constructor <;> rintro ⟨r, mem, h⟩ <;> refine ⟨r, mem, ?_⟩
  · exact of_decide_eq_true (covers_eq (hr r mem) hp ▸ h)
  · rw [covers_eq (hr r mem) hp]
    exact decide_eq_true h

theorem lastSegment_eq {e : Edge} (he : e.IsCanonical) :
    Path.lastSegment e.target = importedName e := by
  rw [importedName, ← Path.lastSegment_path, he.2]

section

variable {p : Policy} {e : Edge}

theorem IsCanonical.zone (hp : p.IsCanonical) {z : Zone} (hz : z ∈ p.zones) :
    (∀ r ∈ z.paths, Address.IsCanonical r) ∧ ∀ r ∈ z.uses, Address.IsCanonical r := by
  constructor <;> intro r hr <;> apply hp <;> simp only [paths, List.mem_append, List.mem_cons,
    List.mem_flatMap]
  · exact .inl (.inl (.inr ⟨z, hz, .inl hr⟩))
  · exact .inl (.inl (.inr ⟨z, hz, .inr hr⟩))

theorem IsCanonical.restricted (hp : p.IsCanonical) {r : RestrictedPath}
    (hr : r ∈ p.restrictedPaths) :
    Address.IsCanonical r.root ∧ ∀ w ∈ r.whitelist, Address.IsCanonical w := by
  constructor
  · apply hp
    simp only [paths, List.mem_append, List.mem_cons, List.mem_flatMap]
    exact .inl (.inr ⟨r, hr, .inl rfl⟩)
  · intro w hw
    apply hp
    simp only [paths, List.mem_append, List.mem_cons, List.mem_flatMap]
    exact .inl (.inr ⟨r, hr, .inr hw⟩)

theorem IsCanonical.scope (hp : p.IsCanonical) {s : PrivateScope} (hs : s ∈ p.privateScopes) :
    ∀ r ∈ s.sources, Address.IsCanonical r := by
  intro r hr
  apply hp
  simp only [paths, List.mem_append, List.mem_flatMap]
  exact .inr ⟨s, hs, hr⟩

theorem IsCanonical.root (hp : p.IsCanonical) : Address.IsCanonical p.root :=
  hp p.root (by simp [paths])

/-! ## Rule by rule -/

/-- The rule and the name of a violation. -/
abbrev itemOf (v : Violation) : Rule × String :=
  (v.rule, v.subject)

theorem crossZone_items (hp : p.IsCanonical) (he : e.IsCanonical) :
    (p.crossZone e).map itemOf = p.crossZoneItems e := by
  have same : ∀ z ∈ p.zones, (!z.allows e.target && z.holds e.sourceFile) =
      decide ((∃ r ∈ z.paths, LiesUnder e.sourceFile r) ∧
        ¬ ∃ r ∈ z.uses ++ z.paths, LiesUnder e.target r) := by
    intro z hz
    obtain ⟨paths, uses⟩ := hp.zone hz
    have reach : ∀ r ∈ z.reach, Address.IsCanonical r := by
      intro r hr
      rcases List.mem_append.mp hr with hr | hr
      · exact uses r hr
      · exact paths r hr
    rw [Zone.holds, Zone.allows, anyCovers_eq reach he.2, anyCovers_eq paths he.1, Zone.reach,
      ← decide_not, Bool.and_comm, Bool.decide_and]
  rw [crossZone, zonesOf, List.filter_filter, List.map_map, List.filter_congr same]
  rfl

theorem restrictedPath_items (hp : p.IsCanonical) (he : e.IsCanonical) :
    (p.restrictedPath e).map itemOf = p.restrictedItems e := by
  have same : ∀ r ∈ p.restrictedPaths,
      (Path.covers r.root e.target && !Path.anyCovers r.whitelist e.sourceFile) =
        decide (LiesUnder e.target r.root ∧ ¬ ∃ w ∈ r.whitelist, LiesUnder e.sourceFile w) := by
    intro r hr
    obtain ⟨root, whitelist⟩ := hp.restricted hr
    rw [covers_eq root he.2, anyCovers_eq whitelist he.1, ← decide_not, Bool.decide_and]
  rw [restrictedPath, List.map_map, List.filter_congr same, restrictedItems]
  apply List.map_congr_left
  intro r hr
  obtain ⟨root, -⟩ := hp.restricted (List.mem_of_mem_filter hr)
  rw [← Path.shownFrom_path, hp.root, root]
  rfl

theorem directoryPrivate_items (he : e.IsCanonical) :
    (p.directoryPrivate e).map itemOf = p.directoryItems e := by
  have parents : Path.covers (Path.parent e.target) (Path.parent e.sourceFile) =
      decide ((ofPath e.target).up.IsAbove (ofPath e.sourceFile).up) := by
    rw [← Path.covers_parent_path, he.1, he.2]
  rw [directoryPrivate, privatePattern?, lastSegment_eq he, directoryItems, parents]
  cases p.privateFiles.find? fun regex => regex.isFoundIn (importedName e) with
  | none => rfl
  | some regex =>
    by_cases above : (ofPath e.target).up.IsAbove (ofPath e.sourceFile).up
    · simp [above]
    · simp [above, Violation.ofEdge]

theorem zonePrivate_items (hp : p.IsCanonical) (he : e.IsCanonical) :
    (p.zonePrivate e).map itemOf = p.scopeItems e := by
  rw [zonePrivate, List.map_flatMap, scopeItems]
  apply List.flatMap_congr
  intro s hs
  have sources := hp.scope hs
  have same : (s.coversName (importedName e) && !Path.anyCovers s.sources e.sourceFile) =
      decide ((∃ regex ∈ s.fileNames, regex.isFoundIn (importedName e) = true) ∧
        ¬ ∃ r ∈ s.sources, LiesUnder e.sourceFile r) := by
    rw [anyCovers_eq sources he.1, ← decide_not, Bool.decide_and, PrivateScope.coversName]
    congr 1
    rw [Bool.eq_iff_iff]
    simp
  have roots : s.sources.filter (Path.covers · e.target) =
      s.sources.filter fun r => LiesUnder e.target r :=
    List.filter_congr fun r hr => covers_eq (sources r hr) he.2
  rw [scopeViolations, lastSegment_eq he, same, roots]
  simp only [decide_eq_true_eq, apply_ite (List.map itemOf), List.map_map, List.map_nil]
  rfl

theorem evaluate_items (hp : p.IsCanonical) (he : e.IsCanonical) :
    (p.evaluate e).map itemOf = p.items e := by
  rw [evaluate, evaluateRules, Rule.all]
  simp only [List.flatMap_cons, List.flatMap_nil, List.append_nil, evaluateRule, List.map_append,
    crossZone_items hp he, restrictedPath_items hp he, directoryPrivate_items he,
    zonePrivate_items hp he, items, List.append_assoc]

end

/-- Evaluating a created edge under a built policy finds what the segments of the paths say, in the
order of the rules, zones, entries and roots, and so it does under any policy with canonical paths, whatever
its patterns are. -/
theorem evaluate_eq_items [Host] {root : String} {document : Json} {p : Policy}
    (built : Policy.build root document = .ok p) (rootNul : Path.IsNulFree root)
    (pathsNul : ∀ t ∈ documentPaths document, Path.IsNulFree t)
    {source specifier : String} {location : Option Location} {e : Edge}
    (made : Edge.create source specifier location = .ok e) (sourceNul : Path.IsNulFree source)
    (specifierNul : Path.IsNulFree specifier) :
    (p.evaluate e).map (fun v => (v.rule, v.subject)) = p.items e ∧
      p.IsCanonical ∧ e.IsCanonical ∧
      ∀ q : Policy, q.IsCanonical →
        (q.evaluate e).map (fun v => (v.rule, v.subject)) = q.items e := by
  have hp : p.IsCanonical := fun _ h => isCanonical_of_mem_paths built rootNul pathsNul h
  have he : e.IsCanonical := by
    rw [Edge.create_eq_ok made sourceNul specifierNul]
    exact ⟨isCanonical_path _, isCanonical_path _⟩
  exact ⟨evaluate_items hp he, hp, he, fun _ hq => evaluate_items hq he⟩

/-- A policy on the top of a drive that every rule has something to say about. -/
def driveDocument : Json :=
  .obj [("zones", .arr [.obj [("name", .str "ui"), ("paths", .arr [.str "ui"])]]),
    ("restricted_paths", .arr [.obj [("restricted_root", .str ".")]]),
    ("private_files", .obj [("regexes", .arr [.str "^_"])]),
    ("zone_private", .arr [.obj [("name", .str "core"),
      ("src", .arr [.str "core", .str "core\\in"]), ("filename_regexps", .arr [.str "x$"])]])]

theorem evaluate_eq_items_drive : ∃ p e,
    Policy.build "C:/" driveDocument = .ok p ∧
    Edge.create "C:/ui/a.py" "../core/in/_x" none = .ok e ∧
    (p.evaluate e).map (fun v => (v.rule, v.subject)) =
      [(.crossZone, "ui"), (.restrictedPath, "."), (.directoryPrivate, "^_"),
        (.zonePrivate, "core"), (.zonePrivate, "core")] := by
  have rootNul : Path.IsNulFree "C:/" := by decide
  have pathsNul : ∀ t ∈ documentPaths driveDocument, Path.IsNulFree t := by decide
  have sourceNul : Path.IsNulFree "C:/ui/a.py" := by decide
  have specifierNul : Path.IsNulFree "../core/in/_x" := by decide
  refine ⟨_, _, rfl, rfl, ?_⟩
  rw [(evaluate_eq_items rfl rootNul pathsNul rfl sourceNul specifierNul).1]
  decide

end Policy

end ImportBoundary
