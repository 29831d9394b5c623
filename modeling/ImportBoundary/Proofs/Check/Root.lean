import ImportBoundary.Proofs.Check.Entries
import ImportBoundary.Proofs.Path.Parent
import ImportBoundary.Proofs.Policy.Canonical

/-!
# The root in a policy

The root `/` covers every path that starts with a slash, and no path on a drive, though both are
absolute. So a zone or a whitelist with `/` in it takes in whatever an edge says, and a restricted `/`
keeps everything out, exactly for the edges that have neither of their paths on a drive
(`rootCovers_iff`).
-/

namespace ImportBoundary

open PathChars Address

namespace Path

/-- The path starts at a drive. -/
def IsOnDrive (p : String) : Prop :=
  hasDrive p.toList = true

instance (p : String) : Decidable (IsOnDrive p) :=
  inferInstanceAs (Decidable (_ = _))

/-- The path starts at the root or at a drive. -/
def Opens (p : String) : Prop :=
  ∃ drive rest, p.toList = opening drive ++ rest

theorem Opens.isAbsolute {p : String} (h : Opens p) : isAbsolute p = true := by
  obtain ⟨drive, rest, eq⟩ := h
  rw [Path.isAbsolute, eq]
  exact isAbsolute_opening_append drive rest

/-- The root covers what starts with a slash, and nothing on a drive. -/
theorem Opens.covers_root_iff {p : String} (h : Opens p) :
    covers "/" p = true ↔ ¬ IsOnDrive p := by
  obtain ⟨drive, rest, eq⟩ := h
  have starts : covers "/" p = true ↔ p.toList = ['/'] ∨ ['/'] <+: p.toList := covers_iff
  rw [starts, IsOnDrive, eq, hasDrive_opening]
  cases drive with
  | none => exact iff_of_true (.inr ⟨rest, rfl⟩) Bool.false_ne_true
  | some d =>
    have letter : '/' ≠ d.1 := (Drive.ne_of_not_isAlpha d (by decide)).symm
    refine iff_of_false ?_ (not_not_intro rfl)
    rintro (same | pre)
    · exact letter (List.cons.inj same).1.symm
    · exact letter (List.cons_prefix_cons.mp pre).1

theorem opens_normalize {base : String} (absolute : isAbsolute base = true) (p : String) :
    Opens (normalize base p) := by
  obtain ⟨drive, eq⟩ := normalize_eq_cut absolute p.toList
  exact ⟨drive, _, by rw [normalize, String.toList_ofList, eq]⟩

theorem opens_normalize_parent {p : String} (absolute : isAbsolute p = true) (q : String) :
    Opens (normalize (parent p) q) := by
  obtain ⟨drive, rest, eq⟩ := exists_opening_of_normalize_parent absolute q.toList
  exact ⟨drive, rest, by rw [normalize, parent, String.toList_ofList, String.toList_ofList, eq]⟩

end Path

open ImportBoundary.Path

theorem Edge.opens_of_create {source specifier : String} {location : Option Location} {e : Edge}
    (made : Edge.create source specifier location = .ok e) :
    Opens e.sourceFile ∧ Opens e.target := by
  unfold Edge.create at made
  split at made
  · cases made
    have root : Path.isAbsolute "/" = true := by decide
    exact ⟨opens_normalize root source,
      opens_normalize_parent (Path.isAbsolute_normalize root source) specifier⟩
  · cases made

namespace Policy

/-- What a policy makes of an edge where `/` stands in its lists: zones with `/` hold the source, zones
that reach `/` report nothing, nor do restricted paths that let `/` in; a restricted `/` that lets nothing
in reports one violation. -/
structure RootCovers (p : Policy) (e : Edge) : Prop where
  holds : ∀ z ∈ p.zones, "/" ∈ z.paths → z.holds e.sourceFile = true
  allows : ∀ z ∈ p.zones, "/" ∈ z.uses ++ z.paths → zoneViolations p.root e z = []
  admits : ∀ r ∈ p.restrictedPaths, "/" ∈ r.whitelist → restrictedViolations p.root e r = []
  closes : ∀ r ∈ p.restrictedPaths, r.root = "/" → r.whitelist = [] →
    (restrictedViolations p.root e r).length = 1

theorem rootCovers_of_covers (p : Policy) {e : Edge} (source : covers "/" e.sourceFile = true)
    (target : covers "/" e.target = true) : p.RootCovers e := by
  constructor
  case holds =>
    intro z _ root
    exact anyCovers_iff.mpr ⟨"/", root, source⟩
  case allows =>
    intro z _ root
    have allowed : z.allows e.target = true := anyCovers_iff.mpr ⟨"/", root, target⟩
    simp [zoneViolations, allowed]
  case admits =>
    intro r _ root
    have admitted : anyCovers r.whitelist e.sourceFile = true :=
      anyCovers_iff.mpr ⟨"/", root, source⟩
    simp [restrictedViolations, admitted]
  case closes =>
    intro r _ root none
    simp [restrictedViolations, root, none, target, anyCovers]

/-- A document with one zone, of everything under the root, and one restricted path, the root. -/
def documentOfRoot : Json :=
  .obj [("zones", .arr [.obj [("name", .str "all"), ("paths", .arr [.str "/"])]]),
    ("restricted_paths", .arr [.obj [("restricted_root", .str "/")]])]

/-- Both paths of an edge are absolute, and the root covers those that are not on a drive. What a policy
says of the root is true of an edge under every policy that can be built, exactly if neither path of the
edge is on a drive. -/
theorem rootCovers_iff {source specifier : String} {location : Option Location} {e : Edge}
    (made : Edge.create source specifier location = .ok e) :
    (∀ path, path = e.sourceFile ∨ path = e.target →
      Path.isAbsolute path = true ∧ (covers "/" path = true ↔ ¬ IsOnDrive path)) ∧
    ((∀ root document p, build root document = .ok p → p.RootCovers e) ↔
      ¬ IsOnDrive e.sourceFile ∧ ¬ IsOnDrive e.target) := by
  obtain ⟨sourceOpens, targetOpens⟩ := Edge.opens_of_create made
  constructor
  · rintro path (rfl | rfl)
    · exact ⟨sourceOpens.isAbsolute, sourceOpens.covers_root_iff⟩
    · exact ⟨targetOpens.isAbsolute, targetOpens.covers_root_iff⟩
  · rw [← sourceOpens.covers_root_iff, ← targetOpens.covers_root_iff]
    constructor
    · intro always
      have built : ∃ p, build "/" documentOfRoot = .ok p ∧ p.zones = [⟨"all", ["/"], []⟩] ∧
          p.restrictedPaths = [⟨"/", []⟩] :=
        ⟨_, rfl, rfl, rfl⟩
      obtain ⟨p, built, zones, restricted⟩ := built
      have covered := always "/" documentOfRoot p built
      have holds := covered.holds ⟨"all", ["/"], []⟩ (by simp [zones]) (by simp)
      have closes := covered.closes ⟨"/", []⟩ (by simp [restricted]) rfl rfl
      constructor
      · simpa [Zone.holds, anyCovers] using holds
      · by_contra outside
        simp [restrictedViolations, outside] at closes
    · rintro ⟨source, target⟩ root document p -
      exact rootCovers_of_covers p source target

/-- A file that imports its neighbour, both of them under the root. -/
theorem rootCovers_neighbour : ∃ e, Edge.create "/r/a.py" "./b" none = .ok e ∧
    (∀ path, path = e.sourceFile ∨ path = e.target →
      Path.isAbsolute path = true ∧ (covers "/" path = true ↔ ¬ IsOnDrive path)) ∧
    ((∀ root document p, build root document = .ok p → p.RootCovers e) ↔
      ¬ IsOnDrive e.sourceFile ∧ ¬ IsOnDrive e.target) ∧
    ¬ IsOnDrive e.sourceFile ∧ ¬ IsOnDrive e.target := by
  have made : ∃ e, Edge.create "/r/a.py" "./b" none = .ok e ∧ ¬ IsOnDrive e.sourceFile ∧
      ¬ IsOnDrive e.target :=
    ⟨_, rfl, by decide, by decide⟩
  obtain ⟨e, made, source, target⟩ := made
  obtain ⟨paths, policies⟩ := rootCovers_iff made
  exact ⟨e, made, paths, policies, source, target⟩

/-- On a drive nothing lies in a zone of everything, and an import from a restricted root is not reported. -/
theorem not_rootCovers_drive : ∃ p e, build "/" documentOfRoot = .ok p ∧
    Edge.create "C:/a.py" "./b" none = .ok e ∧ ¬ p.RootCovers e ∧
    p.zonesOf e.sourceFile = [] ∧ p.evaluate e = [] := by
  have parts : ∃ p e, build "/" documentOfRoot = .ok p ∧
      Edge.create "C:/a.py" "./b" none = .ok e ∧ p.zones = [⟨"all", ["/"], []⟩] ∧
      p.zonesOf e.sourceFile = [] ∧ p.evaluate e = [] :=
    ⟨_, _, rfl, rfl, rfl, rfl, rfl⟩
  obtain ⟨p, e, built, made, zones, none, silent⟩ := parts
  refine ⟨p, e, built, made, ?_, none, silent⟩
  intro covered
  have holds := covered.holds ⟨"all", ["/"], []⟩ (by simp [zones]) (by simp)
  have held : (⟨"all", ["/"], []⟩ : Zone) ∈ p.zonesOf e.sourceFile :=
    List.mem_filter.mpr ⟨by simp [zones], holds⟩
  rw [none] at held
  cases held

end Policy

end ImportBoundary
