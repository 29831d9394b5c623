import ImportBoundary.Proofs.Check.Relocation
import ImportBoundary.Proofs.Policy.Spelling

/-!
# Reports on other spellings

However the paths of a document, of its root and of an import are written, the report is the same:
the policy is (`build_sameDocument`), and an edge enters it by its normalized paths alone. Only the
specifier stays as it was written, in the violations and in the message on a private file
(`SameButSpecifier`).
-/

namespace ImportBoundary

namespace Policy

/-- Two violations that differ in the specifier only, and in the message that quotes it. -/
structure SameButSpecifier (v v' : Violation) : Prop where
  rule : v.rule = v'.rule
  source : v.sourceFile = v'.sourceFile
  target : v.target = v'.target
  subject : v.subject = v'.subject
  location : v.location = v'.location
  message : v.rule ≠ .directoryPrivate → v.message = v'.message
  ownSpecifier : v.rule = .directoryPrivate → ∀ u ∈ [v, v'], u.message =
    s!"'{u.specifier}' is private to its directory and cannot be imported from here."

section

variable (p : Policy) (e : Edge) (specifier : String)

theorem sameButSpecifier_ofEdge {rule : Rule} {subject message : String}
    (other : rule ≠ .directoryPrivate) :
    SameButSpecifier (.ofEdge rule e subject message)
      (.ofEdge rule { e with specifier } subject message) := by
  constructor
  case ownSpecifier => exact fun directoryPrivate => absurd directoryPrivate other
  all_goals intros; rfl

/-! ## Rule by rule -/

theorem crossZone_respecified :
    List.Forall₂ SameButSpecifier (p.crossZone e) (p.crossZone { e with specifier }) :=
  forall₂_filter_map (fun _ _ => rfl) fun _ _ => sameButSpecifier_ofEdge e specifier (by decide)

theorem restrictedPath_respecified :
    List.Forall₂ SameButSpecifier (p.restrictedPath e) (p.restrictedPath { e with specifier }) :=
  forall₂_filter_map (fun _ _ => rfl) fun _ _ => sameButSpecifier_ofEdge e specifier (by decide)

theorem directoryPrivate_respecified :
    List.Forall₂ SameButSpecifier (p.directoryPrivate e)
      (p.directoryPrivate { e with specifier }) := by
  simp only [directoryPrivate]
  cases p.privatePattern? (Path.lastSegment e.target) with
  | none => exact .nil
  | some pattern =>
    simp only
    split
    · exact .nil
    · refine .cons ?_ .nil
      constructor
      case message => exact fun other => absurd rfl other
      case ownSpecifier =>
        intro _ u hu
        simp only [List.mem_cons, List.not_mem_nil, or_false] at hu
        rcases hu with rfl | rfl <;> rfl
      all_goals rfl

theorem zonePrivate_respecified :
    List.Forall₂ SameButSpecifier (p.zonePrivate e) (p.zonePrivate { e with specifier }) := by
  apply forall₂_flatMap
  intro scope _
  simp only [scopeViolations]
  split
  · exact forall₂_filter_map (fun _ _ => rfl)
      fun _ _ => sameButSpecifier_ofEdge e specifier (by decide)
  · exact .nil

/-- The rules look at the specifier of an edge only to show it. -/
theorem evaluate_respecified :
    List.Forall₂ SameButSpecifier (p.evaluate e) (p.evaluate { e with specifier }) := by
  simp only [evaluate, evaluateRules, Rule.all, List.flatMap_cons, List.flatMap_nil,
    List.append_nil, evaluateRule]
  refine List.rel_append (crossZone_respecified p e specifier) ?_
  refine List.rel_append (restrictedPath_respecified p e specifier) ?_
  exact List.rel_append (directoryPrivate_respecified p e specifier)
    (zonePrivate_respecified p e specifier)

end

/-- Spelling does not matter. Documents, roots and imports that mean the same paths give one policy
(or one reason why there is none) and edges whose violations agree one by one, in all but the
specifier that each of them shows. -/
theorem evaluate_respelled [Host] {root root' : String} {document document' : Json}
    (absolute : Path.isAbsolute root = true) (nul : Path.IsNulFree root)
    (absolute' : Path.isAbsolute root' = true) (nul' : Path.IsNulFree root')
    (roots : Path.normalize "/" root = Path.normalize "/" root')
    (shaped : IsDocument document) (shaped' : IsDocument document')
    (documents : SameDocument root document document')
    {source source' specifier specifier' : String} (location : Option Location)
    (sourceAbsolute : Path.isAbsolute source = true)
    (sourceAbsolute' : Path.isAbsolute source' = true)
    (sources : Path.normalize "/" source = Path.normalize "/" source')
    (targets : Path.normalize (Path.parent (Path.normalize "/" source)) specifier =
      Path.normalize (Path.parent (Path.normalize "/" source')) specifier') :
    build root document = build root' document' ∧
      ∃ e e', Edge.create source specifier location = .ok e ∧
        Edge.create source' specifier' location = .ok e' ∧
        ∀ p, build root document = .ok p →
          List.Forall₂ SameButSpecifier (p.evaluate e) (p.evaluate e') := by
  refine ⟨build_sameDocument absolute nul absolute' nul' roots shaped shaped' documents, ?_⟩
  rw [← sources] at targets
  simp only [Edge.create, sourceAbsolute, sourceAbsolute', if_true, ← sources, ← targets,
    Except.ok.injEq, exists_and_left, exists_eq_left']
  intro p _
  exact evaluate_respecified p _ specifier'

/-- A document that every rule has something to say about. -/
def plainDocument : Json :=
  .obj [("zones", .arr [.obj [("name", .str "ui"), ("paths", .arr [.str "ui"])]]),
    ("restricted_paths", .arr [.obj [("restricted_root", .str "core")]]),
    ("private_files", .obj [("regexes", .arr [.str "^_"])]),
    ("zone_private", .arr [.obj [("name", .str "core"),
      ("src", .arr [.str "core", .str "core/in"]), ("filename_regexps", .arr [.str "x$"])]])]

/-- The same document with its paths written in other ways, some of them twice. -/
def otherDocument : Json :=
  .obj [("zones", .arr [.obj [("name", .str "ui"),
      ("paths", .arr [.str "./x/../ui/", .str "ui//."])]]),
    ("restricted_paths", .arr [.obj [("restricted_root", .str "..\\..\\r\\core")]]),
    ("private_files", .obj [("regexes", .arr [.str "^_"])]),
    ("zone_private", .arr [.obj [("name", .str "core"),
      ("src", .arr [.str "/r/core", .str "core\\", .str "core//in"]),
      ("filename_regexps", .arr [.str "x$"])]])]

theorem otherDocument_same : SameDocument "/r" plainDocument otherDocument := by
  have same {s t : String} (nul : Path.IsNulFree s) (nul' : Path.IsNulFree t)
      (normal : Path.normalize "/r" s = Path.normalize "/r" t) : SamePath "/r" s t :=
    ⟨nul, nul', normal⟩
  have paths : SamePaths "/r" ([] ++ ["ui"]) ([] ++ ["./x/../ui/"] ++ ["ui//."]) :=
    .again' (.next .nil (same (by decide) (by decide) rfl)) (List.mem_singleton_self _)
      (same (by decide) (by decide) rfl)
  have sources : SamePaths "/r" ([] ++ ["core"] ++ ["core/in"])
      ([] ++ ["/r/core"] ++ ["core\\"] ++ ["core//in"]) :=
    .next (.again' (.next .nil (same (by decide) (by decide) rfl)) (List.mem_singleton_self _)
      (same (by decide) (by decide) rfl)) (same (by decide) (by decide) rfl)
  refine ⟨_, _, rfl, rfl, .cons ⟨rfl, ?_⟩ (.cons ⟨rfl, ?_⟩ (.cons ⟨rfl, rfl⟩
    (.cons ⟨rfl, ?_⟩ .nil)))⟩
  · exact ⟨_, _, rfl, rfl, .cons ⟨_, _, rfl, rfl, .cons ⟨rfl, rfl⟩
      (.cons ⟨rfl, _, _, rfl, rfl, paths⟩ .nil)⟩ .nil⟩
  · exact ⟨_, _, rfl, rfl, .cons ⟨_, _, rfl, rfl, .cons
      ⟨rfl, _, _, rfl, rfl, same (by decide) (by decide) rfl⟩ .nil⟩ .nil⟩
  · exact ⟨_, _, rfl, rfl, .cons ⟨_, _, rfl, rfl, .cons ⟨rfl, rfl⟩
      (.cons ⟨rfl, _, _, rfl, rfl, sources⟩ (.cons ⟨rfl, rfl⟩ .nil))⟩ .nil⟩

theorem evaluate_respelled_backslashes : ∃ p e e',
    build "/r" plainDocument = .ok p ∧ build "\\r\\.\\" otherDocument = .ok p ∧
    Edge.create "/r/ui/a.py" "../core/in/_x" none = .ok e ∧
    Edge.create "//r/b/../ui/a.py/" "/r/core/in\\_x" none = .ok e' ∧
    (p.evaluate e).map (·.rule) =
      [.crossZone, .restrictedPath, .directoryPrivate, .zonePrivate, .zonePrivate] ∧
    List.Forall₂ SameButSpecifier (p.evaluate e) (p.evaluate e') := by
  have shaped : IsDocument plainDocument := Schema.isDocument_iff.mpr (by rfl)
  have shaped' : IsDocument otherDocument := Schema.isDocument_iff.mpr (by rfl)
  have targets : Path.normalize (Path.parent (Path.normalize "/" "/r/ui/a.py")) "../core/in/_x" =
      Path.normalize (Path.parent (Path.normalize "/" "//r/b/../ui/a.py/"))
        "/r/core/in\\_x" := by decide
  obtain ⟨same, e, e', made, made', agree⟩ := evaluate_respelled
    (by decide : Path.isAbsolute "/r" = true) (by decide)
    (by decide : Path.isAbsolute "\\r\\.\\" = true) (by decide) rfl shaped shaped'
    otherDocument_same none (by decide) (by decide) (by decide) targets
  cases made
  refine ⟨_, _, e', rfl, ?_, rfl, made', by decide, agree _ rfl⟩
  rw [← same]
  rfl

end Policy

end ImportBoundary
