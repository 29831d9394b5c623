import ImportBoundary.Proofs.CommandLine.Output
import ImportBoundary.Proofs.Source.Contents

/-!
# The inputs of a check without a log file

While nothing is logged to a file, every input is what it was at the start. The uses of a check are
then those of its documents and of the sources that it visits (`inputUses`), up to the first input that
cannot be used.
-/

namespace ImportBoundary.CommandLine

open Log Log.Terminal

/-! ## Up to the first that cannot be used -/

namespace Use

/-- Uses up to the first input that cannot be used, that one included. -/
def upToUnusable : List Use → List Use
  | [] => []
  | u :: us => andThen [u] (upToUnusable us)

theorem andThen_cons (u : Use) (us : List Use) :
    andThen [u] us = if u.isUnusable then [u] else u :: us := by
  cases h : u.isUnusable <;> simp [andThen, h]

theorem andThen_assoc (us vs ws : List Use) :
    andThen (andThen us vs) ws = andThen us (andThen vs ws) := by
  cases h : us.any isUnusable <;> cases h' : vs.any isUnusable <;> simp [andThen, h, h']

theorem upToUnusable_singleton (u : Use) : upToUnusable [u] = [u] := by
  rw [upToUnusable, andThen_cons, upToUnusable, ite_self]

theorem upToUnusable_append (us vs : List Use) :
    upToUnusable (us ++ vs) = andThen (upToUnusable us) (upToUnusable vs) := by
  induction us with
  | nil => rfl
  | cons u us ih => rw [List.cons_append, upToUnusable, upToUnusable, ih, andThen_assoc]

theorem mem_of_mem_upToUnusable {u : Use} {us : List Use} (h : u ∈ upToUnusable us) : u ∈ us := by
  induction us with
  | nil => exact h
  | cons v us ih =>
    rw [upToUnusable, andThen_cons] at h
    split at h
    · rw [List.mem_singleton.mp h]
      exact List.mem_cons_self
    · rcases List.mem_cons.mp h with rfl | rest
      · exact List.mem_cons_self
      · exact List.mem_cons_of_mem v (ih rest)

/-- If nothing on the way cannot be used, that is the whole way. -/
theorem upToUnusable_eq_self {us : List Use}
    (usable : ∀ failure, unusable failure ∉ upToUnusable us) : upToUnusable us = us := by
  induction us with
  | nil => rfl
  | cons u us ih =>
    rw [upToUnusable, andThen_cons] at usable ⊢
    cases u with
    | unusable failure => exact absurd (List.mem_singleton_self _) (usable failure)
    | _ =>
      have rest : upToUnusable us = us :=
        ih fun failure hf => usable failure (List.mem_cons_of_mem _ hf)
      simp only [isUnusable, Bool.false_eq_true, if_false, rest]

end Use

section

variable [Host]

/-! ## The inputs -/

/-- The sources that a check visits, in that order. -/
def visited (s : CheckSettings) (fs : FileSystem) : List String :=
  s.sources.flatMap fun path => (sourcesOf fs path).toOption.getD []

/-- The directory of packages. -/
def packagesAt (s : CheckSettings) (fs : FileSystem) : String :=
  ((nonempty s.packageRoot).map fun p => rootOf fs (some p)).getD (rootOf fs s.root)

/-- The use of a source. -/
def sourceUse (s : CheckSettings) (fs : FileSystem) (path : String) : Use :=
  Use.ofSource (Extraction.ofFile fs path (some (packagesAt s fs)))

/-- The uses of the policy and of the list of edges, if there is one. -/
def documentUses (s : CheckSettings) (fs : FileSystem) : List Use :=
  let root := rootOf fs s.root
  Use.ofDocument ((Policy.load fs (Path.tidy s.policy) root).map fun _ => []) ::
    match nonempty s.edges with
    | some path => [Use.ofDocument (Edge.load fs (Path.tidy path) root)]
    | none => []

/-- The uses of the sources that a path names. -/
def searchUses (fs : FileSystem) (use : String → Use) (path : String) : List Use :=
  match sourcesOf fs path with
  | .ok found => found.map use
  | .error failure => [.unusable failure]

/-- What can be said of every input on its own. -/
def inputUses (s : CheckSettings) (fs : FileSystem) : List Use :=
  documentUses s fs ++ s.sources.flatMap (searchUses fs (sourceUse s fs))

omit [Host] in
theorem mem_searchUses {fs : FileSystem} {use : String → Use} {path : String} {u : Use} :
    u ∈ searchUses fs use path ↔
      (∃ found, sourcesOf fs path = .ok found ∧ ∃ source ∈ found, use source = u) ∨
        ∃ failure, sourcesOf fs path = .error failure ∧ u = .unusable failure := by
  unfold searchUses
  cases sourcesOf fs path <;> simp

/-! ## No log file -/

variable {s : CheckSettings} {t : Terminal}

theorem sourceUses_eq (packages : String) (found : List String) (screen : t.OnScreen) :
    sourceUses packages found t = Use.upToUnusable (found.map fun path =>
      Use.ofSource (Extraction.ofFile t.files path (some packages))) := by
  induction found generalizing t with
  | nil => rfl
  | cons path rest ih =>
    have told := collectSource_tells packages {} path t screen
    rw [sourceUses, ih told.onScreen, told.files, List.map_cons, Use.upToUnusable]

theorem usesOf_eq (packages path : String) (screen : t.OnScreen) :
    usesOf packages path t = Use.upToUnusable (searchUses t.files (fun source =>
      Use.ofSource (Extraction.ofFile t.files source (some packages))) path) := by
  unfold usesOf searchUses
  cases sourcesOf t.files path with
  | ok found => exact sourceUses_eq packages found screen
  | error failure => rfl

theorem pathUses_eq (packages : String) (paths : List String) (screen : t.OnScreen) :
    pathUses packages paths t = Use.upToUnusable (paths.flatMap (searchUses t.files fun source =>
      Use.ofSource (Extraction.ofFile t.files source (some packages)))) := by
  induction paths generalizing t with
  | nil => rfl
  | cons path rest ih =>
    have told := collectPath_tells packages {} path t screen
    rw [pathUses, ih told.onScreen, usesOf_eq packages path screen, told.files, List.flatMap_cons,
      Use.upToUnusable_append]

/-- A check uses its inputs as they are at its start. -/
theorem gatherUses_eq (screen : t.OnScreen) :
    gatherUses s t = Use.upToUnusable (inputUses s t.files) := by
  let loaded := (loadPolicy s.policy (rootOf t.files s.root)).leaves t
  let listed := (listEdges s (rootOf t.files s.root)).leaves loaded
  have policy : Told t "" loaded := loadPolicy_tells _ _ t screen
  have list : Told loaded "" listed := listEdges_tells _ _ loaded policy.onScreen
  have files : listed.files = t.files := list.files.trans policy.files
  have sources : pathUses (packagesFor s t) s.sources listed =
      Use.upToUnusable (s.sources.flatMap (searchUses t.files (sourceUse s t.files))) := by
    rw [pathUses_eq _ _ list.onScreen, files]
    rfl
  have edges : Use.upToUnusable (listUses s (rootOf t.files s.root) loaded) =
      listUses s (rootOf t.files s.root) loaded := by
    unfold listUses
    cases nonempty s.edges with
    | none => rfl
    | some path => exact Use.upToUnusable_singleton _
  have documents : documentUses s t.files =
      Use.ofDocument ((policyOf s t).map fun _ => []) ::
        listUses s (rootOf t.files s.root) loaded := by
    rw [listUses, policy.files]
    rfl
  rw [inputUses, documents, List.cons_append, Use.upToUnusable, Use.upToUnusable_append, edges,
    ← sources]
  rfl

theorem uses_eq (screen : t.OnScreen) (unlogged : s.logFile = none) :
    uses s t = Use.upToUnusable (inputUses s t.files) := by
  obtain ⟨ready, set, told⟩ := setUp_told screen programLogger s.verbose
  rw [← unlogged] at set
  rw [uses, set, ← told.files]
  exact gatherUses_eq told.onScreen

/-! ## Checks whose inputs can be used -/

/-- Every input can be used, even if it is a source that cannot be parsed. -/
def InputsUsable (s : CheckSettings) (fs : FileSystem) : Prop :=
  ∀ failure, .unusable failure ∉ inputUses s fs

/-- The policy and the list of edges, if there is one, can be loaded. -/
structure DocumentsLoad (s : CheckSettings) (fs : FileSystem) : Prop where
  policy : ∃ p, Policy.load fs (Path.tidy s.policy) (rootOf fs s.root) = .ok p
  edges : ∀ path, nonempty s.edges = some path →
    ∃ found, Edge.load fs (Path.tidy path) (rootOf fs s.root) = .ok found

/-- What a check has collected before it reports. -/
def collected (s : CheckSettings) (t : Terminal) : Except Failure Collection :=
  match t.setUp programLogger s.verbose s.logFile with
  | .error fault => .error (.file fault)
  | .ok ready => ((gather s).result ready).map (·.2)

theorem allUsable_iff (screen : t.OnScreen) (unlogged : s.logFile = none) :
    AllUsable s t ↔ InputsUsable s t.files := by
  rw [AllUsable, uses_eq screen unlogged]
  constructor
  · intro usable failure
    rw [← Use.upToUnusable_eq_self usable]
    exact usable failure
  · exact fun usable failure hf => usable failure (Use.mem_of_mem_upToUnusable hf)

/-- Once its documents have been loaded, no mistake can end a check. -/
theorem DocumentsLoad.unexpected {fs : FileSystem} (loads : DocumentsLoad s fs) {failure : Failure}
    (hf : .unusable failure ∈ inputUses s fs) (fault : ConfigurationFault) :
    failure ≠ .configuration fault := by
  rintro rfl
  rcases List.mem_append.mp hf with document | source
  · rw [documentUses] at document
    obtain ⟨p, policy⟩ := loads.policy
    rcases List.mem_cons.mp document with here | list
    · rw [policy] at here
      cases here
    · cases named : nonempty s.edges with
      | none =>
        rw [named] at list
        cases list
      | some path =>
        obtain ⟨found, edges⟩ := loads.edges path named
        simp only [named, edges, List.mem_singleton] at list
        cases list
  · obtain ⟨path, -, used⟩ := List.mem_flatMap.mp source
    rcases mem_searchUses.mp used with ⟨found, -, file, -, used⟩ | ⟨failure, lost, used⟩
    · rw [sourceUse] at used
      cases extracted : Extraction.ofFile fs file (some (packagesAt s fs)) with
      | ok found =>
        rw [extracted] at used
        cases used
      | error failure =>
        rw [extracted] at used
        cases failure <;> cases used
        exact Extraction.ofFile_ne_configuration file _ fault extracted
    · cases used
      unfold sourcesOf at lost
      cases searched : fs.search FileSystem.defaultExcludes (Path.tidy (fs.absolute path)) <;>
        rw [searched] at lost <;> cases lost

/-- A run that comes to an end without a failure has been able to use all its inputs. -/
theorem inputsUsable_of_run {arguments : List String} {files : FileSystem} {now : String}
    {w : Words} (accepted : IsAccepted arguments files w)
    (unlogged : (checkSettings w).logFile = none) (loads : DocumentsLoad (checkSettings w) files)
    (expected : (run arguments { files, now }).failure = none) :
    InputsUsable (checkSettings w) files := by
  let t : Terminal := { files, now }
  have screen : t.OnScreen := fun _ hl => absurd hl List.not_mem_nil
  have outcome := run_outcome arguments t
  rw [runMain_result accepted] at outcome
  rcases check_cases (checkSettings w) t with ⟨usable, -⟩ | ⟨failure, only, ended⟩
  · exact (allUsable_iff screen unlogged).mp usable
  · have there : .unusable failure ∈ inputUses (checkSettings w) files := by
      apply Use.mem_of_mem_upToUnusable
      rw [← uses_eq screen unlogged]
      exact (only failure).mpr rfl
    have escaped : (run arguments t).failure = some failure := by
      rw [ended] at outcome
      cases failure with
      | configuration fault => exact absurd rfl (loads.unexpected there fault)
      | _ => exact (Prod.mk.inj outcome).2
    rw [expected] at escaped
    cases escaped

/-- A run whose inputs can all be used: what it loads and collects, the output and the exit code that
it comes to. -/
structure UsableRun (s : CheckSettings) (files : FileSystem) (now : String) (o : Outcome)
    (p : Policy) (c : Collection) : Prop where
  loaded : Policy.load files (Path.tidy s.policy) (rootOf files s.root) = .ok p
  collected : collected s { files, now } = .ok c
  edges : c.edges = (inputUses s files).flatMap Use.edges
  failures : c.failures = (inputUses s files).filterMap Use.unparsed?
  violations : violationsOf s { files, now } = c.edges.flatMap p.evaluate
  ended : (o.exitCode, o.failure) =
    match written p (c.edges.flatMap p.evaluate) s.format with
    | .ok _ => (codeOf c (c.edges.flatMap p.evaluate), none)
    | .error failure => (1, some failure)
  output : ∀ text, Work.Tells (report s p c) text → o.terminal.output = text

theorem usableRun {arguments : List String} {files : FileSystem} (now : String) {w : Words}
    (accepted : IsAccepted arguments files w) (unlogged : (checkSettings w).logFile = none)
    (usable : InputsUsable (checkSettings w) files) :
    ∃ p c, UsableRun (checkSettings w) files now (run arguments { files, now }) p c := by
  let t : Terminal := { files, now }
  have screen : t.OnScreen := fun _ hl => absurd hl List.not_mem_nil
  have outcome := run_outcome arguments t
  have terminal : (run arguments t).terminal = (check (checkSettings w)).leaves t := by
    rw [run_terminal, Work.leaves, Work.leaves, runMain_eq accepted]
  rw [runMain_result accepted] at outcome
  generalize checkSettings w = s at *
  obtain ⟨ready, set, told⟩ := setUp_told screen programLogger s.verbose
  rw [← unlogged] at set
  have gathered := gather_gathered s ready
  have whole : gatherUses s ready = inputUses s files := by
    rw [gatherUses_eq told.onScreen, told.files]
    exact Use.upToUnusable_eq_self fun failure hf => usable failure (Use.mem_of_mem_upToUnusable hf)
  cases result : (gather s).result ready with
  | error failure =>
    rw [result, whole] at gathered
    cases gathered with
    | stopped _ only => exact absurd ((only failure).mpr rfl) (usable failure)
  | ok pc =>
    obtain ⟨p, c⟩ := pc
    rw [result, whole] at gathered
    cases gathered with
    | all _ _ edges failures =>
      refine ⟨p, c, ?_⟩
      constructor
      case loaded =>
        have loaded := policyOf_of_gather result
        rwa [policyOf, told.files] at loaded
      case collected =>
        have after : collected s t = ((gather s).result ready).map (·.2) := by
          simp only [collected, set]
        rw [after, result]
        rfl
      case edges => rw [edges, List.nil_append]
      case failures => rw [failures, List.nil_append]
      case violations => exact violationsOf_of_gathered set result
      case ended =>
        rw [outcome, check_result, set]
        simp only [result]
        cases written p (c.edges.flatMap p.evaluate) s.format <;> rfl
      case output =>
        intro text tells
        rw [terminal, (check_told set told result tells).output]
        exact String.empty_append

end

end ImportBoundary.CommandLine
