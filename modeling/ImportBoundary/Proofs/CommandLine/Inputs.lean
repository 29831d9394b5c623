import ImportBoundary.Proofs.CommandLine.Work

/-!
# The inputs of a check

A check uses its inputs in a fixed order: the log file, the policy, the list of edges, the
sources. `uses` says what becomes of each of them, up to the first that cannot be used at all. An
input is what it is at the moment of its use, since the log file may be one of the inputs that
come after it.

`gather_gathered` says that a check goes on exactly if every input can be used or is a source that
cannot be parsed, and that it then has collected all edges and all sources that cannot be parsed.
-/

namespace ImportBoundary.CommandLine

open Log

/-- What becomes of an input. -/
inductive Use
  | usable (edges : List Edge)
  | unparsed (failure : Failure)
  | unusable (failure : Failure)

namespace Use

/-- The edges that the input gives. -/
def edges : Use → List Edge
  | usable edges => edges
  | _ => []

/-- Why the input is passed over, if it is. -/
def unparsed? : Use → Option Failure
  | unparsed failure => some failure
  | _ => none

def isUnusable : Use → Bool
  | unusable _ => true
  | _ => false

/-- The use of a document that gives edges. -/
def ofDocument : Except Failure (List Edge) → Use
  | .ok edges => .usable edges
  | .error failure => .unusable failure

/-- The use of a source. -/
def ofSource : Except Failure Extraction → Use
  | .ok found => .usable found.edges
  | .error (.source file fault) => .unparsed (.source file fault)
  | .error failure => .unusable failure

/-- Uses one after the other; the second come only if all of the first can be used. -/
def andThen (us vs : List Use) : List Use :=
  if us.any isUnusable then us else us ++ vs

end Use

/-! ## Collecting -/

/-- What is collected on top of a collection when inputs are used: their edges and the failures that
they are passed over for, or the failure of the one that cannot be used. -/
inductive Gathered (c : Collection) (us : List Use) : Except Failure Collection → Prop
  | all (d : Collection) (usable : ∀ failure, .unusable failure ∉ us)
    (edges : d.edges = c.edges ++ us.flatMap Use.edges)
    (failures : d.failures = c.failures ++ us.filterMap Use.unparsed?) : Gathered c us (.ok d)
  | stopped (failure : Failure) (only : ∀ other, .unusable other ∈ us ↔ other = failure) :
    Gathered c us (.error failure)

theorem any_isUnusable {us : List Use} :
    us.any Use.isUnusable = true ↔ ∃ failure, .unusable failure ∈ us := by
  rw [List.any_eq_true]
  constructor
  · rintro ⟨u, hu, unusable⟩
    cases u with
    | unusable failure => exact ⟨failure, hu⟩
    | _ => cases unusable
  · rintro ⟨failure, hu⟩
    exact ⟨_, hu, rfl⟩

theorem Gathered.nil (c : Collection) : Gathered c [] (.ok c) :=
  .all c (by simp) (by simp) (by simp)

theorem Gathered.document (r : Except Failure (List Edge)) :
    Gathered {} [Use.ofDocument r] (r.map fun edges => { edges }) := by
  cases r with
  | error failure =>
    refine .stopped failure fun other => ?_
    simp [Use.ofDocument]
  | ok edges =>
    refine .all { edges } (fun failure => ?_) ?_ ?_
    · simp [Use.ofDocument]
    · simp [Use.ofDocument, Use.edges]
    · rfl

/-- Collecting goes on where all inputs so far could be used. -/
theorem Gathered.andThen {c : Collection} {us vs : List Use} {r : Except Failure Collection}
    {next : Collection → Except Failure Collection} (first : Gathered c us r)
    (second : ∀ d, r = .ok d → Gathered d vs (next d)) :
    Gathered c (Use.andThen us vs) (r.bind next) := by
  cases first with
  | stopped failure only =>
    have unusable : us.any Use.isUnusable = true :=
      any_isUnusable.mpr ⟨failure, (only failure).mpr rfl⟩
    rw [Use.andThen, if_pos unusable]
    exact .stopped failure only
  | all d usable edges failures =>
    have quiet : ¬ us.any Use.isUnusable = true := by
      rw [any_isUnusable]
      rintro ⟨failure, hu⟩
      exact usable failure hu
    have rest := second d rfl
    rw [Use.andThen, if_neg quiet, Except.bind]
    generalize next d = last at rest
    cases rest with
    | stopped failure only =>
      refine .stopped failure fun other => ?_
      rw [List.mem_append, ← only other]
      exact ⟨fun hu => hu.resolve_left (usable other), .inr⟩
    | all e usable' edges' failures' =>
      refine .all e (fun failure hu => ?_) ?_ ?_
      · rcases List.mem_append.mp hu with hu | hu
        · exact usable failure hu
        · exact usable' failure hu
      · rw [edges', edges, List.flatMap_append, List.append_assoc]
      · rw [failures', failures, List.filterMap_append, List.append_assoc]

/-- Whether collecting goes on depends on what is used, not on what has been collected before. -/
theorem Gathered.goesOn {c d : Collection} {us : List Use} {r r' : Except Failure Collection}
    (h : Gathered c us r) (h' : Gathered d us r') :
    (∃ e e', r = .ok e ∧ r' = .ok e') ∨ ∃ f f', r = .error f ∧ r' = .error f' := by
  cases h with
  | stopped failure only =>
    cases h' with
    | stopped failure' only' => exact .inr ⟨failure, failure', rfl, rfl⟩
    | all e usable => exact absurd ((only failure).mpr rfl) (usable failure)
  | all e usable =>
    cases h' with
    | stopped failure only => exact absurd ((only failure).mpr rfl) (usable failure)
    | all e' => exact .inl ⟨e, e', rfl, rfl⟩

/-! ## Definition -/

variable [Host]

/-- The uses of some sources, each as it is after those before it. -/
def sourceUses (packages : String) : List String → Terminal → List Use
  | [], _ => []
  | path :: rest, t =>
    Use.andThen [Use.ofSource (Extraction.ofFile t.files path (some packages))]
      (sourceUses packages rest ((collectSource packages {} path).leaves t))

/-- The sources that a path names, as far as they can be searched for. -/
def sourcesOf (fs : FileSystem) (path : String) : Except Failure (List String) :=
  (fs.search FileSystem.defaultExcludes (Path.tidy (fs.absolute path))).mapError .file

/-- The uses of the sources that a path names. -/
def usesOf (packages path : String) (t : Terminal) : List Use :=
  match sourcesOf t.files path with
  | .ok found => sourceUses packages found t
  | .error failure => [.unusable failure]

/-- The uses of the sources that some paths name. -/
def pathUses (packages : String) : List String → Terminal → List Use
  | [], _ => []
  | path :: rest, t =>
    Use.andThen (usesOf packages path t)
      (pathUses packages rest ((collectPath packages {} path).leaves t))

/-- Loads the list of edges, if there is one. -/
def listEdges (s : CheckSettings) (root : String) : Work (List Edge) :=
  match nonempty s.edges with
  | some path => loadEdges path root
  | none => pure []

/-- The use of the list of edges, if there is one. -/
def listUses (s : CheckSettings) (root : String) (t : Terminal) : List Use :=
  match nonempty s.edges with
  | some path => [Use.ofDocument (Edge.load t.files (Path.tidy path) root)]
  | none => []

/-- The policy of a check on a terminal whose log file is open. -/
def policyOf (s : CheckSettings) (t : Terminal) : Except Failure Policy :=
  Policy.load t.files (Path.tidy s.policy) (rootOf t.files s.root)

/-- The directory of packages. -/
def packagesFor (s : CheckSettings) (t : Terminal) : String :=
  ((nonempty s.packageRoot).map fun p => rootOf t.files (some p)).getD (rootOf t.files s.root)

/-- The uses of a policy, a list of edges and sources. -/
def gatherUses (s : CheckSettings) (t : Terminal) : List Use :=
  let root := rootOf t.files s.root
  let loaded := (loadPolicy s.policy root).leaves t
  let listed := (listEdges s root).leaves loaded
  Use.andThen [Use.ofDocument ((policyOf s t).map fun _ => [])]
    (Use.andThen (listUses s root loaded) (pathUses (packagesFor s t) s.sources listed))

/-- What becomes of the inputs of a check, up to the first that cannot be used. -/
def uses (s : CheckSettings) (t : Terminal) : List Use :=
  match t.setUp programLogger s.verbose s.logFile with
  | .error fault => [.unusable (.file fault)]
  | .ok ready => gatherUses s ready

/-! ## Loading -/

theorem loadPolicy_result (path root : String) (t : Terminal) :
    (loadPolicy path root).result t = Policy.load t.files (Path.tidy path) root := by
  simp only [loadPolicy, Policy.load, Work.result_bind, Work.result_files, Work.leaves_files,
    Work.result_ofExcept, Work.leaves_ofExcept, Work.result_log, Work.result_pure, Except.bind]
  cases Policy.loadDocument t.files (Path.tidy path) with
  | error failure => rfl
  | ok document =>
    simp only [bind, Except.bind]
    cases Policy.build root document <;> rfl

theorem loadEdges_result (path root : String) (t : Terminal) :
    (loadEdges path root).result t = Edge.load t.files (Path.tidy path) root := by
  simp only [loadEdges, Work.result_bind, Work.result_files, Work.leaves_files,
    Work.result_ofExcept, Work.result_log, Work.result_pure, Except.bind]
  cases Edge.load t.files (Path.tidy path) root <;> rfl

theorem listEdges_result (s : CheckSettings) (root : String) (t : Terminal) :
    (listEdges s root).result t =
      match nonempty s.edges with
      | some path => Edge.load t.files (Path.tidy path) root
      | none => .ok [] := by
  unfold listEdges
  cases nonempty s.edges with
  | none => rfl
  | some path => exact loadEdges_result path root t

/-! ## Sources -/

omit [Host] in
theorem logSkipped_result (packages : String) (modules : List String) (t : Terminal) :
    (logSkipped packages modules).result t = .ok () := by
  unfold logSkipped
  split <;> rfl

theorem collectSource_result (packages : String) (c : Collection) (path : String)
    (t : Terminal) :
    Gathered c [Use.ofSource (Extraction.ofFile t.files path (some packages))]
      ((collectSource packages c path).result t) := by
  simp only [collectSource, Work.result_bind, Work.result_files, Work.leaves_files, Except.bind]
  rcases Extraction.ofFile t.files path (some packages) with failure | found
  · cases failure with
    | source file fault =>
      simp only [Work.result_bind, Work.result_log, Work.result_pure, Except.bind]
      exact .all _ (by simp [Use.ofSource]) (by simp [Use.ofSource, Use.edges]) rfl
    | _ => exact .stopped _ (by simp [Use.ofSource])
  · have quiet : ∀ t', (found.skipped.forM (logSkipped found.packages)).result t' = .ok () :=
      Work.result_forM _ (logSkipped_result found.packages) _
    simp only [Work.result_bind, Work.result_log, Work.result_pure, Except.bind, quiet]
    exact .all _ (by simp [Use.ofSource]) (by simp [Use.ofSource, Use.edges])
      (by simp [Use.ofSource, Use.unparsed?])

/-- What a source leaves on the terminal does not depend on what has been collected before. -/
theorem collectSource_leaves (packages : String) (c d : Collection) (path : String)
    (t : Terminal) :
    (collectSource packages c path).leaves t = (collectSource packages d path).leaves t := by
  simp only [collectSource, Work.leaves_bind, Work.result_files, Work.leaves_files]
  rcases Extraction.ofFile t.files path (some packages) with failure | found
  · cases failure <;> rfl
  · have quiet : ∀ t', (found.skipped.forM (logSkipped found.packages)).result t' = .ok () :=
      Work.result_forM _ (logSkipped_result found.packages) _
    simp only [Work.leaves_bind, quiet, Work.result_log]
    rfl

/-- The sources of one path. -/
theorem collectSources_result (packages : String) (c : Collection) (found : List String)
    (t : Terminal) :
    Gathered c (sourceUses packages found t)
      ((found.foldlM (collectSource packages) c).result t) := by
  induction found generalizing c t with
  | nil => exact Gathered.nil c
  | cons path rest ih =>
    have step := collectSource_leaves packages {} c path t
    simp only [List.foldlM_cons, Work.result_bind, sourceUses, step]
    exact (collectSource_result packages c path t).andThen fun d _ => ih d _

theorem collectSources_leaves (packages : String) (c d : Collection) (found : List String)
    (t : Terminal) :
    (found.foldlM (collectSource packages) c).leaves t =
      (found.foldlM (collectSource packages) d).leaves t := by
  induction found generalizing c d t with
  | nil => rfl
  | cons path rest ih =>
    have step := collectSource_leaves packages c d path t
    simp only [List.foldlM_cons, Work.leaves_bind, step]
    rcases (collectSource_result packages c path t).goesOn (collectSource_result packages d path t)
      with ⟨e, e', ok, ok'⟩ | ⟨f, f', error, error'⟩
    · simpa only [ok, ok'] using ih e e' _
    · simp only [error, error']

theorem collectPath_eq (packages : String) (c : Collection) (path : String) :
    collectPath packages c path = Work.files >>= fun fs =>
      Work.ofExcept (sourcesOf fs path) >>= fun found =>
        found.foldlM (collectSource packages) c :=
  rfl

theorem collectPath_result (packages : String) (c : Collection) (path : String) (t : Terminal) :
    Gathered c (usesOf packages path t) ((collectPath packages c path).result t) := by
  have search : (collectPath packages c path).result t = (sourcesOf t.files path).bind fun found =>
      (found.foldlM (collectSource packages) c).result t := by
    rw [collectPath_eq, Work.result_bind, Work.result_files, Work.leaves_files, Except.bind,
      Work.result_bind, Work.result_ofExcept, Work.leaves_ofExcept]
  rw [search]
  unfold usesOf
  cases sourcesOf t.files path with
  | ok found => exact collectSources_result packages c found t
  | error failure => exact .stopped failure fun other => by simp

theorem collectPath_leaves (packages : String) (c d : Collection) (path : String) (t : Terminal) :
    (collectPath packages c path).leaves t = (collectPath packages d path).leaves t := by
  simp only [collectPath_eq, Work.leaves_bind, Work.result_files, Work.leaves_files,
    Work.result_ofExcept, Work.leaves_ofExcept]
  cases sourcesOf t.files path with
  | ok found => exact collectSources_leaves packages c d found t
  | error failure => rfl

/-- The sources of all paths. -/
theorem collectPaths_result (packages : String) (c : Collection) (paths : List String)
    (t : Terminal) :
    Gathered c (pathUses packages paths t) ((paths.foldlM (collectPath packages) c).result t) := by
  induction paths generalizing c t with
  | nil => exact Gathered.nil c
  | cons path rest ih =>
    have step := collectPath_leaves packages {} c path t
    simp only [List.foldlM_cons, Work.result_bind, pathUses, step]
    exact (collectPath_result packages c path t).andThen fun d _ => ih d _

/-! ## All inputs -/

theorem listEdges_gathered (s : CheckSettings) (root : String) (t : Terminal) :
    Gathered {} (listUses s root t)
      (((listEdges s root).result t).map fun edges => { edges }) := by
  rw [listEdges_result]
  unfold listUses
  cases nonempty s.edges with
  | none => exact Gathered.nil {}
  | some path => exact Gathered.document _

/-- Loads the list of edges, and then collects the sources. -/
def collect (s : CheckSettings) (root packages : String) : Work Collection := do
  let edges ← listEdges s root
  s.sources.foldlM (collectPath packages) { edges }

theorem collect_gathered (s : CheckSettings) (root packages : String) (t : Terminal) :
    Gathered {} (Use.andThen (listUses s root t)
        (pathUses packages s.sources ((listEdges s root).leaves t)))
      ((collect s root packages).result t) := by
  have listed := (listEdges_gathered s root t).andThen fun d _ =>
    collectPaths_result packages d s.sources ((listEdges s root).leaves t)
  rw [collect, Work.result_bind]
  cases edges : (listEdges s root).result t with
  | error failure => simpa only [edges, Except.map, Except.bind] using listed
  | ok edges => simpa only [edges, Except.map, Except.bind] using listed

theorem gather_eq (s : CheckSettings) : gather s = do
    let fs ← Work.files
    let policy ← loadPolicy s.policy (rootOf fs s.root)
    let c ← collect s (rootOf fs s.root) (((nonempty s.packageRoot).map fun p =>
      rootOf fs (some p)).getD (rootOf fs s.root))
    return (policy, c) := by
  unfold gather collect listEdges
  cases nonempty s.edges <;> simp

/-- A check collects after it has loaded its policy. -/
theorem gather_result (s : CheckSettings) (t : Terminal) :
    (gather s).result t = (policyOf s t).bind fun policy =>
      ((collect s (rootOf t.files s.root) (packagesFor s t)).result
        ((loadPolicy s.policy (rootOf t.files s.root)).leaves t)).map fun c => (policy, c) := by
  rw [gather_eq]
  simp only [Work.result_bind, Work.result_files, Work.leaves_files, loadPolicy_result,
    Work.result_pure]
  rfl

/-- A check gathers its policy and a collection of what its inputs give, or fails as the first input
that cannot be used does. -/
theorem gather_gathered (s : CheckSettings) (t : Terminal) :
    Gathered {} (gatherUses s t) (((gather s).result t).map (·.2)) := by
  let loaded := (loadPolicy s.policy (rootOf t.files s.root)).leaves t
  let collected := (collect s (rootOf t.files s.root) (packagesFor s t)).result loaded
  have policy := Gathered.document ((policyOf s t).map fun _ => [])
  have all : Gathered {} (gatherUses s t)
      ((((policyOf s t).map fun _ => []).map fun edges => ({ edges } : Collection)).bind
        fun _ => collected) := by
    refine policy.andThen fun d started => ?_
    have unstarted : d = {} := by
      cases given : policyOf s t with
      | error failure =>
        rw [given] at started
        cases started
      | ok p =>
        rw [given] at started
        cases started
        rfl
    rw [unstarted]
    exact collect_gathered s _ _ loaded
  have same : (((policyOf s t).map fun _ => []).map fun edges => ({ edges } : Collection)).bind
      (fun _ => collected) = ((gather s).result t).map (·.2) := by
    rw [gather_result]
    change _ = Except.map _ ((policyOf s t).bind fun policy => collected.map fun c => (policy, c))
    cases policyOf s t with
    | error failure => rfl
    | ok p => cases collected <;> rfl
  rwa [← same]

/-- The policy that is gathered is the one that is loaded. -/
theorem policyOf_of_gather {s : CheckSettings} {t : Terminal} {policy : Policy} {c : Collection}
    (gathered : (gather s).result t = .ok (policy, c)) : policyOf s t = .ok policy := by
  rw [gather_result] at gathered
  cases loaded : policyOf s t with
  | error failure =>
    rw [loaded] at gathered
    cases gathered
  | ok p =>
    rw [loaded, Except.bind] at gathered
    cases collected : (collect s (rootOf t.files s.root) (packagesFor s t)).result
        ((loadPolicy s.policy (rootOf t.files s.root)).leaves t) with
    | error failure =>
      rw [collected] at gathered
      cases gathered
    | ok d =>
      rw [collected] at gathered
      cases gathered
      rfl

end ImportBoundary.CommandLine
