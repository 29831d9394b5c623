import ImportBoundary.Check.Evaluation
import ImportBoundary.Proofs.Edge.Record
import ImportBoundary.Proofs.Path.Relative
import ImportBoundary.Proofs.Policy.Paths
import Mathlib.Data.List.Forall2

/-!
# Moving a project

A project whose document and imports stay inside its root gets the same report wherever the root
is: under `/` or on a drive, deep down or at a top. Everything that the rules compare lies below
the root, and is compared by the segments from there on, which the root has no part in. Two such
reports are put side by side violation by violation (`SameFrom`).
-/

namespace ImportBoundary

open Address

/-- Two lists of the same length, with related items in the same places, made from one list. -/
theorem forall₂_filter_map {α β γ : Type} {R : β → γ → Prop} {items : List α} {c c' : α → Bool}
    {f : α → β} {f' : α → γ} (same : ∀ x ∈ items, c x = c' x)
    (related : ∀ x ∈ items, R (f x) (f' x)) :
    List.Forall₂ R ((items.filter c).map f) ((items.filter c').map f') := by
  rw [List.filter_congr same, List.forall₂_map_left_iff, List.forall₂_map_right_iff,
    List.forall₂_same]
  exact fun x hx => related x (List.mem_of_mem_filter hx)

theorem forall₂_flatMap {α β γ : Type} {R : β → γ → Prop} {items : List α} {f : α → List β}
    {f' : α → List γ} (related : ∀ x ∈ items, List.Forall₂ R (f x) (f' x)) :
    List.Forall₂ R (items.flatMap f) (items.flatMap f') := by
  induction items with
  | nil => exact .nil
  | cons x rest ih =>
    obtain ⟨first, others⟩ := List.forall_mem_cons.mp related
    exact List.rel_append first (ih others)

/-- Leaving out what comes again does not depend on how the items are written. -/
theorem eraseDups_map {α β : Type} [BEq α] [LawfulBEq α] [BEq β] [LawfulBEq β] {f : α → β}
    (injective : ∀ x y, f x = f y → x = y) (items : List α) :
    (items.map f).eraseDups = items.eraseDups.map f := by
  have loop (items seen : List α) :
      List.eraseDupsBy.loop (· == ·) (items.map f) (seen.map f) =
        (List.eraseDupsBy.loop (· == ·) items seen).map f := by
    induction items generalizing seen with
    | nil => simp [List.eraseDupsBy.loop]
    | cons x rest ih =>
      have same : (seen.map f).any (f x == ·) = seen.any (x == ·) := by
        rw [List.any_map]
        congr 1
        funext y
        rw [Bool.eq_iff_iff]
        simpa using ⟨injective x y, congrArg f⟩
      simp only [List.map_cons, List.eraseDupsBy.loop, same]
      cases seen.any (x == ·) with
      | true => exact ih seen
      | false => exact ih (x :: seen)
  exact loop items []

/-! ## Paths below one root -/

/-- The segments below its root that a path of a document leads to. -/
def insideOf (t : String) : List Segment :=
  (Path.route [] t).getD []

/-- The path of some segments below an address. -/
def pathBelow (a : Address) (segments : List Segment) : String :=
  (a.below segments).path

/-- The path leads somewhere inside the directory that it starts from. -/
def StaysInside (t : String) : Prop :=
  ∃ stop, Path.LeadsTo [] t stop

theorem staysInside_iff {t : String} :
    StaysInside t ↔
      Path.isAbsolute t = false ∧ Path.IsNulFree t ∧ (Path.route [] t).isSome = true := by
  rw [Option.isSome_iff_exists]
  constructor
  · rintro ⟨stop, leads⟩
    exact ⟨leads.relative, leads.nulFree, stop, leads.leads⟩
  · rintro ⟨relative, nulFree, stop, leads⟩
    exact ⟨stop, relative, nulFree, leads⟩

instance (t : String) : Decidable (StaysInside t) :=
  decidable_of_iff _ staysInside_iff.symm

theorem normalize_inside (a : Address) {t : String} (h : StaysInside t) :
    Path.normalize a.path t = pathBelow a (insideOf t) := by
  obtain ⟨stop, leads⟩ := h
  rw [leads.normalize a, insideOf, leads.leads]
  rfl

theorem covers_pathBelow (a : Address) (s t : List Segment) :
    Path.covers (pathBelow a s) (pathBelow a t) = decide (s <+: t) := by
  rw [pathBelow, pathBelow, Path.covers_path]
  exact decide_eq_decide.mpr (isAbove_below a s t)

theorem anyCovers_pathBelow (a : Address) (roots : List (List Segment)) (t : List Segment) :
    Path.anyCovers (roots.map (pathBelow a)) (pathBelow a t) =
      roots.any fun s => decide (s <+: t) := by
  rw [Path.anyCovers, List.any_map]
  congr 1
  funext s
  exact covers_pathBelow a s t

theorem lastSegment_pathBelow (a : Address) {s : List Segment} (h : s ≠ []) :
    Path.lastSegment (pathBelow a s) = String.ofList (s.getLast h).1 := by
  rw [pathBelow, Path.lastSegment_path, name_below_of_ne_nil a h]

theorem covers_parent_pathBelow (a : Address) {s t : List Segment} (hs : s ≠ []) (ht : t ≠ []) :
    Path.covers (Path.parent (pathBelow a s)) (Path.parent (pathBelow a t)) =
      decide (s.dropLast <+: t.dropLast) := by
  rw [pathBelow, pathBelow, Path.covers_parent_path, up_below_of_ne_nil a hs,
    up_below_of_ne_nil a ht]
  exact decide_eq_decide.mpr (isAbove_below a _ _)

theorem shownFrom_pathBelow (a : Address) (s : List Segment) :
    Path.shownFrom a.path (pathBelow a s) =
      String.ofList (if s = [] then ['.'] else Text.joinWith ['/'] (s.map Subtype.val)) := by
  rw [pathBelow, Path.shownFrom_path, shownFrom_below]

namespace Policy

theorem resolveAll_inside (a : Address) {ts : List String} (h : ∀ t ∈ ts, StaysInside t) :
    resolveAll a.path ts = ((ts.map insideOf).eraseDups).map (pathBelow a) := by
  have each : ts.map (Path.normalize a.path) = (ts.map insideOf).map (pathBelow a) := by
    rw [List.map_map]
    exact List.map_congr_left fun t ht => normalize_inside a (h t ht)
  have injective : ∀ s t, pathBelow a s = pathBelow a t → s = t :=
    fun s t same => a.below_injective (path_injective same)
  rw [resolveAll, each, eraseDups_map injective]

/-! ## Reports side by side -/

/-- Two violations that tell the same about two copies of a project, each from its own root. -/
structure SameFrom (root root' : String) (v v' : Violation) : Prop where
  rule : v.rule = v'.rule
  subject : v.subject = v'.subject
  specifier : v.specifier = v'.specifier
  location : v.location = v'.location
  source : Path.shownFrom root v.sourceFile = Path.shownFrom root' v'.sourceFile
  target : Path.shownFrom root v.target = Path.shownFrom root' v'.target
  message : v.rule ≠ .zonePrivate → v.message = v'.message
  ownTarget : v.rule = .zonePrivate → ∀ u ∈ [v, v'], u.message =
    s!"Import '{u.target}' goes beyond the directories of private scope '{u.subject}'."

/-- The edge between two places below an address. -/
def edgeBelow (a : Address) (source target : List Segment) (specifier : String)
    (location : Option Location) : Edge :=
  { sourceFile := pathBelow a source, specifier, target := pathBelow a target, location }

section

variable {v : Json} {privateFiles : List Regex.Pattern}
  {scopes : List (Json × List Regex.Pattern)} {source target : List Segment} {specifier : String}
  {location : Option Location} (a a' : Address)

theorem sameFrom_ofEdge {rule : Rule} {subject message : String} (other : rule ≠ .zonePrivate) :
    SameFrom a.path a'.path
      (.ofEdge rule (edgeBelow a source target specifier location) subject message)
      (.ofEdge rule (edgeBelow a' source target specifier location) subject message) := by
  constructor
  case source => exact (shownFrom_pathBelow a source).trans (shownFrom_pathBelow a' source).symm
  case target => exact (shownFrom_pathBelow a target).trans (shownFrom_pathBelow a' target).symm
  case ownTarget => exact fun zonePrivate => absurd zonePrivate other
  all_goals intros; rfl

/-! ### Rule by rule -/

theorem crossZone_relocated
    (inside : ∀ zone ∈ itemsAt v "zones", ∀ t ∈ textsAt zone "paths" ++ textsAt zone "uses",
      StaysInside t) :
    List.Forall₂ (SameFrom a.path a'.path)
      ((placed a v privateFiles scopes).crossZone (edgeBelow a source target specifier location))
      ((placed a' v privateFiles scopes).crossZone
        (edgeBelow a' source target specifier location)) := by
  -- the zones that are broken are the same wherever the root is
  have broken (b : Address) : ∀ zone ∈ itemsAt v "zones",
      (!(zoneOf b.path zone).allows (pathBelow b target) &&
          (zoneOf b.path zone).holds (pathBelow b source)) =
        (!(((textsAt zone "uses").map insideOf).eraseDups ++
            ((textsAt zone "paths").map insideOf).eraseDups).any (fun s => decide (s <+: target)) &&
          ((textsAt zone "paths").map insideOf).eraseDups.any fun s => decide (s <+: source)) := by
    intro zone hz
    have paths : ∀ t ∈ textsAt zone "paths", StaysInside t :=
      fun t ht => inside zone hz t (List.mem_append_left _ ht)
    have uses : ∀ t ∈ textsAt zone "uses", StaysInside t :=
      fun t ht => inside zone hz t (List.mem_append_right _ ht)
    simp only [Zone.allows, Zone.holds, Zone.reach, zoneOf, resolveAll_inside b paths,
      resolveAll_inside b uses, ← List.map_append, anyCovers_pathBelow]
  simp only [crossZone, zonesOf, placed, List.filter_filter, List.filter_map, List.map_map]
  apply forall₂_filter_map
  · intro zone hz
    exact (broken a zone hz).trans (broken a' zone hz).symm
  · intro zone _
    have shown := (shownFrom_pathBelow a target).trans (shownFrom_pathBelow a' target).symm
    simp only [Function.comp, edgeBelow, shown]
    exact sameFrom_ofEdge a a' (by decide)

theorem restrictedPath_relocated
    (inside : ∀ entry ∈ itemsAt v "restricted_paths",
      ∀ t ∈ textAt entry "restricted_root" :: textsAt entry "whitelist", StaysInside t) :
    List.Forall₂ (SameFrom a.path a'.path)
      ((placed a v privateFiles scopes).restrictedPath
        (edgeBelow a source target specifier location))
      ((placed a' v privateFiles scopes).restrictedPath
        (edgeBelow a' source target specifier location)) := by
  have broken (b : Address) : ∀ entry ∈ itemsAt v "restricted_paths",
      (Path.covers (restrictedOf b.path entry).root (pathBelow b target) &&
          !Path.anyCovers (restrictedOf b.path entry).whitelist (pathBelow b source)) =
        (decide (insideOf (textAt entry "restricted_root") <+: target) &&
          !((textsAt entry "whitelist").map insideOf).eraseDups.any
            fun s => decide (s <+: source)) := by
    intro entry he
    obtain ⟨root, whitelist⟩ := List.forall_mem_cons.mp (inside entry he)
    simp only [restrictedOf, normalize_inside b root, resolveAll_inside b whitelist,
      covers_pathBelow, anyCovers_pathBelow]
  simp only [restrictedPath, placed, List.filter_map, List.map_map]
  apply forall₂_filter_map
  · intro entry he
    exact (broken a entry he).trans (broken a' entry he).symm
  · intro entry he
    obtain ⟨root, -⟩ := List.forall_mem_cons.mp (inside entry he)
    simp only [Function.comp, restrictedOf, normalize_inside _ root, shownFrom_pathBelow]
    exact sameFrom_ofEdge a a' (by decide)

theorem directoryPrivate_relocated (hs : source ≠ []) (ht : target ≠ []) :
    List.Forall₂ (SameFrom a.path a'.path)
      ((placed a v privateFiles scopes).directoryPrivate
        (edgeBelow a source target specifier location))
      ((placed a' v privateFiles scopes).directoryPrivate
        (edgeBelow a' source target specifier location)) := by
  simp only [directoryPrivate, privatePattern?, placed, edgeBelow, lastSegment_pathBelow _ ht,
    covers_parent_pathBelow _ ht hs]
  cases privateFiles.find? (·.isFoundIn (String.ofList (target.getLast ht).1)) with
  | none => exact .nil
  | some pattern =>
    simp only
    split
    · exact .nil
    · exact .cons (sameFrom_ofEdge a a' (by decide)) .nil

theorem scopeViolations_relocated (ht : target ≠ []) {scope : Json}
    {fileNames : List Regex.Pattern} (inside : ∀ t ∈ textsAt scope "src", StaysInside t) :
    List.Forall₂ (SameFrom a.path a'.path)
      (scopeViolations (edgeBelow a source target specifier location)
        (scopeOf a.path scope fileNames))
      (scopeViolations (edgeBelow a' source target specifier location)
        (scopeOf a'.path scope fileNames)) := by
  simp only [scopeViolations, scopeOf, PrivateScope.coversName, edgeBelow,
    resolveAll_inside _ inside, lastSegment_pathBelow _ ht, anyCovers_pathBelow]
  split
  · simp only [List.filter_map, List.map_map]
    apply forall₂_filter_map
    · intro s _
      simp only [Function.comp, covers_pathBelow]
    · intro s _
      constructor
      case source => exact (shownFrom_pathBelow a source).trans (shownFrom_pathBelow a' source).symm
      case target => exact (shownFrom_pathBelow a target).trans (shownFrom_pathBelow a' target).symm
      case message => exact fun other => absurd rfl other
      case ownTarget =>
        intro _ u hu
        simp only [List.mem_cons, List.not_mem_nil, or_false] at hu
        rcases hu with rfl | rfl <;> rfl
      all_goals rfl
  · exact .nil

theorem zonePrivate_relocated (ht : target ≠ [])
    (inside : ∀ scope ∈ scopes, ∀ t ∈ textsAt scope.1 "src", StaysInside t) :
    List.Forall₂ (SameFrom a.path a'.path)
      ((placed a v privateFiles scopes).zonePrivate (edgeBelow a source target specifier location))
      ((placed a' v privateFiles scopes).zonePrivate
        (edgeBelow a' source target specifier location)) := by
  simp only [zonePrivate, placed, List.flatMap_map]
  apply forall₂_flatMap
  intro scope hs
  exact scopeViolations_relocated a a' ht (inside scope hs)

/-- Under two copies of a policy, two copies of an edge have the same violations. -/
theorem placed_relocated (hs : source ≠ []) (ht : target ≠ [])
    (inside : ∀ t ∈ documentPaths v, StaysInside t)
    (read : scopes.map Prod.fst = itemsAt v "zone_private") :
    List.Forall₂ (SameFrom a.path a'.path)
      ((placed a v privateFiles scopes).evaluate (edgeBelow a source target specifier location))
      ((placed a' v privateFiles scopes).evaluate
        (edgeBelow a' source target specifier location)) := by
  have zones : ∀ zone ∈ itemsAt v "zones",
      ∀ t ∈ textsAt zone "paths" ++ textsAt zone "uses", StaysInside t := by
    intro zone hz t ht
    exact inside t (mem_documentPaths.mpr (.inl ⟨zone, hz, List.mem_append.mp ht⟩))
  have restricted : ∀ entry ∈ itemsAt v "restricted_paths",
      ∀ t ∈ textAt entry "restricted_root" :: textsAt entry "whitelist", StaysInside t := by
    intro entry he t ht
    exact inside t (mem_documentPaths.mpr (.inr (.inl ⟨entry, he, List.mem_cons.mp ht⟩)))
  have sources : ∀ scope ∈ scopes, ∀ t ∈ textsAt scope.1 "src", StaysInside t := by
    intro scope hc t ht
    have inDocument : scope.1 ∈ itemsAt v "zone_private" := read ▸ List.mem_map_of_mem hc
    exact inside t (mem_documentPaths.mpr (.inr (.inr ⟨scope.1, inDocument, ht⟩)))
  simp only [evaluate, evaluateRules, Rule.all, List.flatMap_cons, List.flatMap_nil,
    List.append_nil, evaluateRule]
  refine List.rel_append (crossZone_relocated a a' zones) ?_
  refine List.rel_append (restrictedPath_relocated a a' restricted) ?_
  exact List.rel_append (directoryPrivate_relocated a a' hs ht)
    (zonePrivate_relocated a a' ht sources)

end

end Policy

/-! ## Records and reports -/

namespace Edge

/-- A record whose paths stay inside gives an edge between two places below the root. -/
theorem ofRecord_inside {root s i : String} {fields : List (String × Json)}
    {source target : List Segment} (absolute : Path.isAbsolute root = true)
    (nul : Path.IsNulFree root) (sourceField : fieldOf fields "source_file" = .str s)
    (specifierField : fieldOf fields "import_specifier" = .str i)
    (sourceLeads : Path.LeadsTo [] s source) (hs : source ≠ [])
    (targetLeads : Path.LeadsTo source.dropLast i target) :
    ofRecord root fields = (completeLocation fields).map
      (Policy.edgeBelow (ofPath root) source target i) := by
  have sourceFile : Path.normalize root s = pathBelow (ofPath root) source := by
    have below := sourceLeads.resolve (ofPath root)
    rw [below_nil] at below
    rw [Path.normalize_of_base absolute nul sourceLeads.nulFree, below]
    rfl
  have made (location : Option Location) :
      create (pathBelow (ofPath root) source) i location =
        .ok (Policy.edgeBelow (ofPath root) source target i location) := by
    simp only [create, pathBelow, Path.isAbsolute_path, if_true, Path.normalize_of_path,
      Path.normalize_parent _ targetLeads.nulFree, up_below_of_ne_nil _ hs, targetLeads.resolve]
    rfl
  unfold ofRecord completeLocation
  simp only [sourceField, specifierField, Json.asText, sourceFile, made]
  split
  · rfl
  · cases locationOf fields <;> rfl

end Edge

namespace Policy

/-- A project whose paths stay inside its root has the same report under every root: the policy is
built and the record read under both or neither, with the same failure, and the violations agree
one by one in all that is not a path, and in their paths as they are seen from the root. Only the
message on a private scope shows a target in full, each the one of its own project. -/
theorem evaluate_relocated [Host] {root root' : String} {document : Json}
    {fields : List (String × Json)} {s i : String} {source target : List Segment}
    (absolute : Path.isAbsolute root = true) (nul : Path.IsNulFree root)
    (absolute' : Path.isAbsolute root' = true) (nul' : Path.IsNulFree root')
    (inside : ∀ t ∈ documentPaths document, StaysInside t)
    (sourceField : Edge.fieldOf fields "source_file" = .str s)
    (specifierField : Edge.fieldOf fields "import_specifier" = .str i)
    (sourceLeads : Path.LeadsTo [] s source) (hs : source ≠ [])
    (targetLeads : Path.LeadsTo source.dropLast i target) (ht : target ≠ []) :
    (∀ failure, build root document = .error failure ↔ build root' document = .error failure) ∧
      (∀ fault, Edge.ofRecord root fields = .error fault ↔
        Edge.ofRecord root' fields = .error fault) ∧
      ∀ p p' e e', build root document = .ok p → build root' document = .ok p' →
        Edge.ofRecord root fields = .ok e → Edge.ofRecord root' fields = .ok e' →
          List.Forall₂ (SameFrom p.root p'.root) (p.evaluate e) (p'.evaluate e') := by
  rw [build_eq absolute nul, build_eq absolute' nul',
    Edge.ofRecord_inside absolute nul sourceField specifierField sourceLeads hs targetLeads,
    Edge.ofRecord_inside absolute' nul' sourceField specifierField sourceLeads hs targetLeads]
  refine ⟨fun failure => ?_, fun fault => ?_, ?_⟩
  · cases patternsOf document <;> simp
  · cases Edge.completeLocation fields <;> simp [Except.map]
  · rintro p p' e e' built built' made made'
    cases patterns : patternsOf document with
    | error refusal => simp [patterns] at built
    | ok read =>
      cases located : Edge.completeLocation fields with
      | error fault => simp [located, Except.map] at made
      | ok location =>
        simp only [patterns, Except.ok.injEq] at built built'
        simp only [located, Except.map, Except.ok.injEq] at made made'
        obtain ⟨-, -, scopes⟩ := patternsOf_eq_ok.mp patterns
        rw [← built, ← built', ← made, ← made']
        exact placed_relocated (ofPath root) (ofPath root') hs ht inside
          (fst_mem_of_readScopes scopes)

/-- A policy that every rule has something to say about, and the import it is about. -/
def sharedDocument : Json :=
  .obj [("zones", .arr [.obj [("name", .str "ui"), ("paths", .arr [.str "ui", .str "./ui/"])]]),
    ("restricted_paths", .arr [.obj [("restricted_root", .str "core/x/..")]]),
    ("private_files", .obj [("regexes", .arr [.str "^_"])]),
    ("zone_private", .arr [.obj [("name", .str "core"),
      ("src", .arr [.str "core", .str "core\\in", .str "core/in"]),
      ("filename_regexps", .arr [.str "x$"])]])]

def sharedRecord : List (String × Json) :=
  [("source_file", .str "ui/a.py"), ("import_specifier", .str "../core/in/_x")]

theorem evaluate_relocated_drive : ∃ p p' e e',
    build "/" sharedDocument = .ok p ∧ build "C:\\work" sharedDocument = .ok p' ∧
    Edge.ofRecord "/" sharedRecord = .ok e ∧ Edge.ofRecord "C:\\work" sharedRecord = .ok e' ∧
    (p.evaluate e).map (·.rule) =
      [.crossZone, .restrictedPath, .directoryPrivate, .zonePrivate, .zonePrivate] ∧
    List.Forall₂ (SameFrom p.root p'.root) (p.evaluate e) (p'.evaluate e') := by
  have inside : ∀ t ∈ documentPaths sharedDocument, StaysInside t := by decide
  obtain ⟨source, target, sourceLeads, hs, targetLeads, ht⟩ : ∃ source target,
      Path.LeadsTo [] "ui/a.py" source ∧ source ≠ [] ∧
        Path.LeadsTo source.dropLast "../core/in/_x" target ∧ target ≠ [] :=
    ⟨_, _, ⟨by decide, by decide, rfl⟩, by decide, ⟨by decide, by decide, rfl⟩, by decide⟩
  have fields : Edge.fieldOf sharedRecord "source_file" = .str "ui/a.py" ∧
      Edge.fieldOf sharedRecord "import_specifier" = .str "../core/in/_x" := ⟨rfl, rfl⟩
  have same := evaluate_relocated (by decide : Path.isAbsolute "/" = true) (by decide)
    (by decide : Path.isAbsolute "C:\\work" = true) (by decide) inside fields.1 fields.2 sourceLeads
    hs targetLeads ht
  exact ⟨_, _, _, _, rfl, rfl, rfl, rfl, by decide, same.2.2 _ _ _ _ rfl rfl rfl rfl⟩

end Policy

end ImportBoundary
