import ImportBoundary.Proofs.CommandLine.Shape
import ImportBoundary.Proofs.Source.Written
import Mathlib

/-!
# Sources that cannot be parsed

A check passes over the sources that it cannot parse, and tells of them in the order of its visits.
Everything else is checked as if they were empty: a run on the files that are left when these sources
are emptied has the same output, and its exit code is that of what has been found
(`run_withoutUnparsed`). A source that is itself the policy or the list of edges is not emptied, since it
would be another document then. It goes on to turn the exit code into 2 (`run_shared`).
-/

namespace ImportBoundary.CommandLine

open Log Log.Terminal FileSystem

section

variable [Host]

/-! ## Definition -/

/-- Why a source cannot be parsed, if it cannot. -/
def raised? (s : CheckSettings) (fs : FileSystem) (path : String) : Option Failure :=
  match Extraction.ofFile fs path (some (packagesAt s fs)) with
  | .error (.source file fault) => some (.source file fault)
  | _ => none

/-- The sources that a check visits and cannot parse, in that order. -/
def unparsedSources (s : CheckSettings) (fs : FileSystem) : List String :=
  (visited s fs).filter fun path => (raised? s fs path).isSome

/-- The routes of the policy and of the list of edges. -/
def documentRoutes (s : CheckSettings) (fs : FileSystem) : List Route :=
  (s.policy :: (nonempty s.edges).toList).filterMap fun path =>
    (fs.follow (Path.tidy path)).toOption

/-- The path leads to the policy or to the list of edges. -/
def IsDocument (s : CheckSettings) (fs : FileSystem) (path : String) : Prop :=
  ∃ route ∈ documentRoutes s fs, fs.follow path = .ok route

/-- The routes of the sources that cannot be parsed, except for documents. -/
def brokenRoutes (s : CheckSettings) (fs : FileSystem) : List Route :=
  ((unparsedSources s fs).filterMap fun path => (fs.follow path).toOption).filter fun route =>
    !(documentRoutes s fs).contains route

/-- The files after every source has been emptied that cannot be parsed, except for documents. -/
def withoutUnparsed (s : CheckSettings) (fs : FileSystem) : FileSystem :=
  fs.emptied (brokenRoutes s fs)

variable {s : CheckSettings} {fs : FileSystem} {path : String}

theorem withoutUnparsed_sameShape (s : CheckSettings) (fs : FileSystem) :
    fs.SameShape (withoutUnparsed s fs) :=
  fs.sameShape_emptied _

theorem unparsed?_sourceUse (s : CheckSettings) (fs : FileSystem) (path : String) :
    (sourceUse s fs path).unparsed? = raised? s fs path := by
  rw [sourceUse, raised?]
  rcases Extraction.ofFile fs path (some (packagesAt s fs)) with failure | found
  · cases failure <;> rfl
  · rfl

omit [Host] in
theorem toOption_eq_some {ε α : Type} {r : Except ε α} {a : α} :
    r.toOption = some a ↔ r = .ok a := by
  cases r <;> simp [Except.toOption]

theorem mem_brokenRoutes {route : Route} : route ∈ brokenRoutes s fs ↔
    (∃ path ∈ unparsedSources s fs, fs.follow path = .ok route) ∧ route ∉ documentRoutes s fs := by
  simp only [brokenRoutes, List.mem_filter, List.mem_filterMap, toOption_eq_some, Bool.not_eq_true',
    List.contains_eq_mem, decide_eq_false_iff_not]

theorem mem_unparsedSources : path ∈ unparsedSources s fs ↔ path ∈ visited s fs ∧
    ∃ file fault, Extraction.ofFile fs path (some (packagesAt s fs)) =
      .error (.source file fault) := by
  rw [unparsedSources, List.mem_filter, raised?]
  refine and_congr_right fun _ => ?_
  rcases Extraction.ofFile fs path (some (packagesAt s fs)) with failure | found
  · cases failure <;> simp
  · simp

theorem mem_unparsedSources_iff_use : path ∈ unparsedSources s fs ↔ path ∈ visited s fs ∧
    ∃ failure, (sourceUse s fs path).unparsed? = some failure := by
  rw [unparsedSources, List.mem_filter, unparsed?_sourceUse, Option.isSome_iff_exists]

/-! ## Documents -/

theorem read_document (named : path ∈ s.policy :: (nonempty s.edges).toList) :
    (withoutUnparsed s fs).read (Path.tidy path) = fs.read (Path.tidy path) := by
  apply read_emptied_of_not_mem
  intro route leads broken
  have document : route ∈ documentRoutes s fs :=
    List.mem_filterMap.mpr ⟨path, named, toOption_eq_some.mpr leads⟩
  exact (mem_brokenRoutes.mp broken).2 document

theorem load_withoutUnparsed (s : CheckSettings) (fs : FileSystem) (root : String) :
    Policy.load (withoutUnparsed s fs) (Path.tidy s.policy) root =
      Policy.load fs (Path.tidy s.policy) root :=
  Policy.load_congr (withoutUnparsed_sameShape s fs) (read_document List.mem_cons_self) root

theorem documentUses_withoutUnparsed (s : CheckSettings) (fs : FileSystem) :
    documentUses s (withoutUnparsed s fs) = documentUses s fs := by
  have shape := withoutUnparsed_sameShape s fs
  have edges (path : String) (named : nonempty s.edges = some path) (root : String) :
      Edge.load (withoutUnparsed s fs) (Path.tidy path) root = Edge.load fs (Path.tidy path) root := by
    refine Edge.load_congr shape (read_document (List.mem_cons_of_mem _ ?_)) root
    rw [named]
    exact List.mem_singleton_self path
  rw [documentUses, documentUses, rootOf_congr shape, load_withoutUnparsed]
  cases named : nonempty s.edges with
  | none => rfl
  | some path => simp only [edges path named]

theorem documentUses_parsed (s : CheckSettings) (fs : FileSystem) :
    (documentUses s fs).filterMap Use.unparsed? = [] := by
  have parsed (r : Except Failure (List Edge)) : (Use.ofDocument r).unparsed? = none := by
    cases r <;> rfl
  rw [documentUses]
  cases nonempty s.edges <;> simp [parsed]

/-! ## Sources -/

/-- A source stays as it is, or it cannot be parsed and is emptied. An empty source has no edges, if
whoever reads it finds no statements in it. -/
theorem sourceUse_cases (nothing : Host.imports [] = .ok []) (s : CheckSettings) (fs : FileSystem)
    (path : String) :
    (sourceUse s (withoutUnparsed s fs) path = sourceUse s fs path ∧
        (path ∈ unparsedSources s fs → IsDocument s fs path)) ∨
      ((∃ failure, sourceUse s fs path = .unparsed failure) ∧ ¬ IsDocument s fs path ∧
        sourceUse s (withoutUnparsed s fs) path = .usable []) := by
  have shape := withoutUnparsed_sameShape s fs
  by_cases broken : fs.tooLong path = false ∧ ∃ route ∈ brokenRoutes s fs, fs.follow path = .ok route
  · obtain ⟨fits, route, emptied, leads⟩ := broken
    obtain ⟨⟨other, unparsed, leads'⟩, apart⟩ := mem_brokenRoutes.mp emptied
    obtain ⟨-, file, fault, raised⟩ := mem_unparsedSources.mp unparsed
    have raised' := Extraction.source_of_follow_eq (leads'.trans leads.symm) fits raised
    obtain ⟨bytes, there⟩ := Extraction.read_of_source raised'
    have fits' : (withoutUnparsed s fs).tooLong path = false := (shape.tooLong_eq path).trans fits
    obtain ⟨found, used, none⟩ := Extraction.ofFile_of_empty nothing fits'
      (read_emptied_of_mem leads there emptied) (some (packagesAt s fs))
    refine .inr ⟨⟨_, by rw [sourceUse, raised']; rfl⟩, ?_, ?_⟩
    · rintro ⟨route', document, leads''⟩
      cases leads.symm.trans leads''
      exact apart document
    · rw [sourceUse, packagesAt_congr s shape, used, Use.ofSource, none]
  · refine .inl ⟨?_, fun unparsed => ?_⟩
    · cases fits : fs.tooLong path with
      | true =>
        have fits' : (withoutUnparsed s fs).tooLong path = true := (shape.tooLong_eq path).trans fits
        rw [sourceUse, sourceUse, Extraction.ofFile_of_tooLong fits,
          Extraction.ofFile_of_tooLong fits']
      | false =>
        have same : (withoutUnparsed s fs).read path = fs.read path :=
          read_emptied_of_not_mem fun route leads emptied => broken ⟨fits, route, emptied, leads⟩
        exact sourceUse_congr s shape same
    · obtain ⟨-, file, fault, raised⟩ := mem_unparsedSources.mp unparsed
      obtain ⟨bytes, there⟩ := Extraction.read_of_source raised
      obtain ⟨-, fits, -⟩ := Extraction.ofFile_eq_source_iff.mp raised
      cases leads : fs.follow path with
      | error obstacle =>
        rw [FileSystem.read, leads] at there
        cases there
      | ok route =>
        by_cases document : route ∈ documentRoutes s fs
        · exact ⟨route, document, leads⟩
        · have emptied := mem_brokenRoutes.mpr ⟨⟨path, unparsed, leads⟩, document⟩
          exact absurd ⟨fits, route, emptied, leads⟩ broken

/-! ## Inputs -/

theorem inputUses_withoutUnparsed (s : CheckSettings) (fs : FileSystem) :
    inputUses s (withoutUnparsed s fs) = documentUses s fs ++
      s.sources.flatMap (searchUses fs (sourceUse s (withoutUnparsed s fs))) := by
  have searched (use : String → Use) :
      searchUses (withoutUnparsed s fs) use = searchUses fs use := by
    funext path
    unfold searchUses
    rw [sourcesOf_congr (withoutUnparsed_sameShape s fs)]
  rw [inputUses, documentUses_withoutUnparsed, searched]

theorem edges_withoutUnparsed (nothing : Host.imports [] = .ok []) (s : CheckSettings)
    (fs : FileSystem) :
    (inputUses s (withoutUnparsed s fs)).flatMap Use.edges =
      (inputUses s fs).flatMap Use.edges := by
  have sources (file : String) : (sourceUse s (withoutUnparsed s fs) file).edges =
      (sourceUse s fs file).edges := by
    rcases sourceUse_cases nothing s fs file with ⟨same, -⟩ | ⟨⟨failure, before⟩, -, after⟩
    · rw [same]
    · rw [before, after]
      rfl
  have paths (path : String) :
      (searchUses fs (sourceUse s (withoutUnparsed s fs)) path).flatMap Use.edges =
        (searchUses fs (sourceUse s fs) path).flatMap Use.edges := by
    unfold searchUses
    cases sourcesOf fs path with
    | error failure => rfl
    | ok found => simp only [List.flatMap_map, sources]
  rw [inputUses_withoutUnparsed, inputUses, List.flatMap_append, List.flatMap_append,
    List.flatMap_assoc, List.flatMap_assoc, funext paths]

theorem inputsUsable_withoutUnparsed (nothing : Host.imports [] = .ok [])
    (usable : InputsUsable s fs) :
    InputsUsable s (withoutUnparsed s fs) := by
  intro failure hf
  rw [inputUses_withoutUnparsed] at hf
  rcases List.mem_append.mp hf with document | source
  · exact usable failure (List.mem_append_left _ document)
  · obtain ⟨path, hp, used⟩ := List.mem_flatMap.mp source
    refine usable failure (List.mem_append_right _ (List.mem_flatMap.mpr ⟨path, hp, ?_⟩))
    rcases mem_searchUses.mp used with ⟨found, searched, file, hfile, used⟩ | lost
    · rcases sourceUse_cases nothing s fs file with ⟨same, -⟩ | ⟨-, -, after⟩
      · rw [same] at used
        exact mem_searchUses.mpr (.inl ⟨found, searched, file, hfile, used⟩)
      · rw [after] at used
        cases used
    · exact mem_searchUses.mpr (.inr lost)

theorem failures_eq (s : CheckSettings) (fs : FileSystem) :
    (inputUses s fs).filterMap Use.unparsed? = (visited s fs).filterMap (raised? s fs) := by
  have raised : Use.unparsed? ∘ sourceUse s fs = raised? s fs :=
    funext (unparsed?_sourceUse s fs)
  have paths (path : String) : (searchUses fs (sourceUse s fs) path).filterMap Use.unparsed? =
      ((sourcesOf fs path).toOption.getD []).filterMap (raised? s fs) := by
    unfold searchUses
    cases sourcesOf fs path with
    | error failure => rfl
    | ok found => rw [List.filterMap_map, raised]; rfl
  rw [inputUses, List.filterMap_append, documentUses_parsed, List.nil_append, visited,
    List.filterMap_flatMap, List.filterMap_flatMap, funext paths]

theorem failures_eq_nil_iff (s : CheckSettings) (fs : FileSystem) :
    (inputUses s fs).filterMap Use.unparsed? = [] ↔ unparsedSources s fs = [] := by
  rw [failures_eq, List.filterMap_eq_nil_iff, unparsedSources, List.filter_eq_nil_iff]
  simp only [Option.not_isSome_iff_eq_none]

/-- What still cannot be parsed are the documents among the sources. -/
theorem mem_unparsedSources_withoutUnparsed (nothing : Host.imports [] = .ok []) :
    path ∈ unparsedSources s (withoutUnparsed s fs) ↔
      path ∈ unparsedSources s fs ∧ IsDocument s fs path := by
  rw [mem_unparsedSources_iff_use, visited_congr s (withoutUnparsed_sameShape s fs)]
  constructor
  · rintro ⟨hp, failure, after⟩
    rcases sourceUse_cases nothing s fs path with ⟨same, document⟩ | ⟨-, -, emptied⟩
    · rw [same] at after
      have unparsed := mem_unparsedSources_iff_use.mpr ⟨hp, failure, after⟩
      exact ⟨unparsed, document unparsed⟩
    · rw [emptied] at after
      cases after
  · rintro ⟨unparsed, document⟩
    obtain ⟨hp, failure, before⟩ := mem_unparsedSources_iff_use.mp unparsed
    rcases sourceUse_cases nothing s fs path with ⟨same, -⟩ | ⟨-, apart, -⟩
    · exact ⟨hp, failure, by rwa [same]⟩
    · exact absurd document apart

/-! ## Runs -/

/-- The exit code of what has been found, if every source can be parsed. -/
def foundCode (vs : List Violation) : Nat :=
  if vs = [] then exitClean else exitViolations

/-- A run whose inputs can all be used comes to 2 if it has passed over a source. -/
theorem UsableRun.exitCode {files : FileSystem} {now : String} {o : Outcome} {p : Policy}
    {c : Collection} (h : UsableRun s files now o p c) (expected : o.failure = none) :
    o.exitCode = if unparsedSources s files = [] then
      foundCode (violationsOf s { files, now }) else exitFaulty := by
  have ended := h.ended
  rw [expected] at ended
  have code : o.exitCode = codeOf c (c.edges.flatMap p.evaluate) := by
    cases wrote : written p (c.edges.flatMap p.evaluate) s.format with
    | error failure =>
      rw [wrote] at ended
      cases (Prod.mk.inj ended).2
    | ok _ =>
      rw [wrote] at ended
      exact (Prod.mk.inj ended).1
  have all : c.failures = [] ↔ unparsedSources s files = [] := by
    rw [h.failures]
    exact failures_eq_nil_iff s files
  rw [code, h.violations, codeOf, foundCode]
  by_cases passed : c.failures = []
  · rw [if_neg (not_not_intro passed), if_pos (all.mp passed)]
    exact ite_not _ _ _
  · rw [if_pos passed, if_neg (mt all.mpr passed)]
    rfl

/-- Two runs with the same policy and the same edges end without a failure alike. -/
theorem UsableRun.failure_eq {files files' : FileSystem} {now : String} {o o' : Outcome}
    {p : Policy} {c c' : Collection} (h : UsableRun s files now o p c)
    (h' : UsableRun s files' now o' p c') (same : c'.edges = c.edges) : o'.failure = o.failure := by
  have ended := h.ended
  have ended' := h'.ended
  rw [same] at ended'
  cases wrote : written p (c.edges.flatMap p.evaluate) s.format with
  | error failure =>
    rw [wrote] at ended ended'
    rw [(Prod.mk.inj ended).2, (Prod.mk.inj ended').2]
  | ok _ =>
    rw [wrote] at ended ended'
    rw [(Prod.mk.inj ended).2, (Prod.mk.inj ended').2]

/-- Where there are no edges, nothing can go wrong with the report. -/
theorem UsableRun.of_no_edges {files : FileSystem} {now : String} {o : Outcome} {p : Policy}
    {c : Collection} (h : UsableRun s files now o p c)
    (none : (inputUses s files).flatMap Use.edges = []) :
    o.failure = .none ∧ violationsOf s { files, now } = [] := by
  have edges : c.edges = [] := h.edges.trans none
  have violations : c.edges.flatMap p.evaluate = [] := by rw [edges, List.flatMap_nil]
  have ended := h.ended
  have wrote : written p [] s.format = .ok () := rfl
  rw [violations, wrote] at ended
  exact ⟨(Prod.mk.inj ended).2, h.violations.trans violations⟩

/-- Whoever reads the sources, if an empty one imports nothing: emptying all sources that cannot be
parsed, except for documents, does not change the output of a run, and leaves an exit code of 2 only to a
document among these sources. What has been told before are just these sources, in the order of the
visits. -/
theorem run_withoutUnparsed (nothing : Host.imports [] = .ok []) {arguments : List String}
    {files : FileSystem} {now : String} {w : Words} (accepted : IsAccepted arguments files w)
    (unlogged : w.value? .logFile = none)
    (loads : DocumentsLoad (checkSettings w) files)
    (expected : (run arguments { files, now }).failure = none) :
    let s := checkSettings w
    let before := run arguments { files, now }
    let after := run arguments { files := withoutUnparsed s files, now }
    let found := foundCode (violationsOf s { files, now })
    after.failure = none ∧ after.terminal.output = before.terminal.output ∧
      before.exitCode = (if unparsedSources s files = [] then found else exitFaulty) ∧
      ((∀ path ∈ unparsedSources s files, ¬ IsDocument s files path) → after.exitCode = found) ∧
      ((∃ path ∈ unparsedSources s files, IsDocument s files path) →
        after.exitCode = exitFaulty) ∧
      ∃ c, collected s { files, now } = .ok c ∧
        c.failures = (visited s files).filterMap (raised? s files) := by
  intro s before after found
  have usable := inputsUsable_of_run accepted unlogged loads expected
  have accepted' := accepted.congr (withoutUnparsed_sameShape s files)
  obtain ⟨p, c, ran⟩ := usableRun now accepted unlogged usable
  obtain ⟨p', c', ran'⟩ := usableRun now accepted' unlogged (inputsUsable_withoutUnparsed nothing usable)
  have policy : p' = p := by
    have loaded := ran'.loaded
    rw [load_withoutUnparsed, rootOf_congr (withoutUnparsed_sameShape s files), ran.loaded] at loaded
    exact (Except.ok.inj loaded).symm
  subst policy
  have edges : c'.edges = c.edges := by
    rw [ran'.edges, ran.edges, edges_withoutUnparsed nothing]
  have quiet : after.failure = none := (ran.failure_eq ran' edges).trans expected
  have violations : violationsOf s { files := withoutUnparsed s files, now } =
      violationsOf s { files, now } := by
    rw [ran'.violations, ran.violations, edges]
  have code := ran'.exitCode quiet
  rw [violations] at code
  refine ⟨quiet, ?_, ran.exitCode expected, ?_, ?_, c, ran.collected, ?_⟩
  · obtain ⟨text, tells⟩ := report_tells s p' c.edges
    exact (ran'.output text (tells c' edges)).trans (ran.output text (tells c rfl)).symm
  · intro apart
    rw [code, if_pos]
    refine List.eq_nil_iff_forall_not_mem.mpr fun path unparsed => ?_
    obtain ⟨before, document⟩ := (mem_unparsedSources_withoutUnparsed nothing).mp unparsed
    exact apart path before document
  · rintro ⟨path, unparsed, document⟩
    rw [code, if_neg]
    exact List.ne_nil_of_mem ((mem_unparsedSources_withoutUnparsed nothing).mpr ⟨unparsed, document⟩)
  · rw [ran.failures, failures_eq]

end

/-- A directory with a policy that is JSON, but for its indentation no source, and with a source that
only closes a bracket. -/
def sharedFiles : FileSystem where
  entries := [(["p.py"], .file [0x20, 0x7b, 0x7d]), (["b.py"], .file [0x29])]
  current := []

/-- A check of some sources against that policy. -/
def sharedCheck (sources : List String) : List String :=
  ["check", "--policy", "p.py"] ++ sources

def sharedWords (sources : List String) : Words :=
  { options := [(.policy, "p.py")], arguments := sources }

theorem sharedFiles_load (sources : List String) :
    DocumentsLoad (checkSettings (sharedWords sources)) sharedFiles where
  policy := by
    have loads : (Policy.load sharedFiles (Path.tidy "p.py") (rootOf sharedFiles none)).isOk := by
      decide +kernel
    exact exists_of_isOk loads
  edges := fun _ named => nomatch named

theorem sharedCheck_isAccepted_bracket :
    IsAccepted (sharedCheck ["b.py"]) sharedFiles (sharedWords ["b.py"]) :=
  ⟨⟨{ arguments := sharedCheck ["b.py"] }, _, rfl, rfl, rfl, rfl⟩, rfl, rfl⟩

theorem sharedCheck_isAccepted_both :
    IsAccepted (sharedCheck ["p.py", "b.py"]) sharedFiles (sharedWords ["p.py", "b.py"]) :=
  ⟨⟨{ arguments := sharedCheck ["p.py", "b.py"] }, _, rfl, rfl, rfl, rfl⟩, rfl, rfl⟩

/-- What these files hold, and where their names lead. -/
theorem sharedFiles_read :
    sharedFiles.readTextLossy "/p.py" = .ok [' ', '{', '}'] ∧
      sharedFiles.readTextLossy "/b.py" = .ok [')'] ∧
      (sourcesOf sharedFiles "p.py").toOption = some ["/p.py"] ∧
      (sourcesOf sharedFiles "b.py").toOption = some ["/b.py"] := by
  decide +kernel

theorem imports_shared :
    Host.imports [' ', '{', '}'] = .error (.faulty ⟨.unexpectedIndent, 1⟩) ∧
      Host.imports [')'] = .error (.faulty ⟨.unmatched ')', 1⟩) :=
  ⟨by cbv, by cbv⟩

/-- Neither file can be parsed. -/
theorem sourceUse_shared (sources : List String) (known : path = "/p.py" ∨ path = "/b.py") :
    ∃ failure, sourceUse (checkSettings (sharedWords sources)) sharedFiles path =
      .unparsed failure := by
  obtain ⟨indented, closing⟩ := imports_shared
  obtain ⟨policy, bracket, -⟩ := sharedFiles_read
  rw [sourceUse]
  rcases known with rfl | rfl
  · rw [Extraction.ofFile_eq_source_iff.mpr ⟨rfl, rfl, _, policy, indented⟩]
    exact ⟨_, rfl⟩
  · rw [Extraction.ofFile_eq_source_iff.mpr ⟨rfl, rfl, _, bracket, closing⟩]
    exact ⟨_, rfl⟩

theorem documentRoutes_shared (sources : List String) :
    documentRoutes (checkSettings (sharedWords sources)) sharedFiles = [["p.py"]] := by
  have route : (["p.py"].filterMap fun path => (sharedFiles.follow (Path.tidy path)).toOption) =
      [["p.py"]] := rfl
  exact route

theorem documentUses_shared (sources : List String) :
    documentUses (checkSettings (sharedWords sources)) sharedFiles = [.usable []] := by
  obtain ⟨p, loaded⟩ := (sharedFiles_load sources).policy
  rw [documentUses, loaded]
  rfl

theorem sourcesOf_shared (known : path ∈ ["p.py", "b.py"]) :
    ∃ file, (file = "/p.py" ∨ file = "/b.py") ∧ sourcesOf sharedFiles path = .ok [file] := by
  obtain ⟨-, -, policy, bracket⟩ := sharedFiles_read
  rcases List.mem_pair.mp known with rfl | rfl
  · exact ⟨_, .inl rfl, toOption_eq_some.mp policy⟩
  · exact ⟨_, .inr rfl, toOption_eq_some.mp bracket⟩

/-- A check of these files passes over all its sources, and finds nothing. -/
theorem shared_inputs (sources : List String) (known : ∀ path ∈ sources, path ∈ ["p.py", "b.py"]) :
    InputsUsable (checkSettings (sharedWords sources)) sharedFiles ∧
      (inputUses (checkSettings (sharedWords sources)) sharedFiles).flatMap Use.edges = [] ∧
      unparsedSources (checkSettings (sharedWords sources)) sharedFiles =
        visited (checkSettings (sharedWords sources)) sharedFiles := by
  have uses : ∀ u ∈ inputUses (checkSettings (sharedWords sources)) sharedFiles,
      u = .usable [] ∨ ∃ failure, u = .unparsed failure := by
    intro u hu
    rw [inputUses, documentUses_shared] at hu
    rcases List.mem_append.mp hu with document | source
    · exact .inl (List.mem_singleton.mp document)
    · obtain ⟨path, hp, source⟩ := List.mem_flatMap.mp source
      obtain ⟨file, isFile, searched⟩ := sourcesOf_shared (known path hp)
      rcases mem_searchUses.mp source with ⟨found, same, other, hother, rfl⟩ | ⟨failure, lost, -⟩
      · cases searched.symm.trans same
        rw [List.mem_singleton.mp hother]
        exact .inr (sourceUse_shared sources isFile)
      · cases searched.symm.trans lost
  refine ⟨fun failure hf => ?_, List.flatMap_eq_nil_iff.mpr fun u hu => ?_, ?_⟩
  · rcases uses _ hf with usable | ⟨failure, unparsed⟩
    · cases usable
    · cases unparsed
  · rcases uses u hu with rfl | ⟨failure, rfl⟩ <;> rfl
  · refine List.filter_eq_self.mpr fun file hfile => ?_
    obtain ⟨path, hp, found⟩ := List.mem_flatMap.mp hfile
    obtain ⟨file', isFile, searched⟩ := sourcesOf_shared (known path hp)
    rw [searched] at found
    obtain rfl := List.mem_singleton.mp found
    obtain ⟨failure, unparsed⟩ := sourceUse_shared sources isFile
    rw [← unparsed?_sourceUse, unparsed]
    rfl

/-- A source that is no document is emptied, and nothing else keeps the exit code from being 0. -/
theorem run_withoutUnparsed_bracket :
    let s := checkSettings (sharedWords ["b.py"])
    let before := run (sharedCheck ["b.py"]) { files := sharedFiles, now := "" }
    let after := run (sharedCheck ["b.py"]) { files := withoutUnparsed s sharedFiles, now := "" }
    before.failure = none ∧ before.exitCode = 2 ∧ after.failure = none ∧ after.exitCode = 0 ∧
      after.terminal.output = before.terminal.output ∧ unparsedSources s sharedFiles = ["/b.py"] := by
  intro s before after
  have accepted := sharedCheck_isAccepted_bracket
  have found : visited s sharedFiles = ["/b.py"] := by
    change ["b.py"].flatMap (fun path => (sourcesOf sharedFiles path).toOption.getD []) = _
    rw [List.flatMap_singleton, sharedFiles_read.2.2.2, Option.getD_some]
  obtain ⟨usable, none, unparsed⟩ := shared_inputs ["b.py"] (by decide)
  obtain ⟨p, c, ran⟩ := usableRun "" accepted rfl usable
  obtain ⟨expected, clean⟩ := ran.of_no_edges none
  obtain ⟨quiet, output, code, code', -⟩ :=
    run_withoutUnparsed Source.imports_nil accepted rfl (sharedFiles_load ["b.py"]) expected
  rw [found] at unparsed
  rw [unparsed, if_neg (List.cons_ne_nil _ _)] at code
  rw [clean] at code'
  refine ⟨expected, code, quiet, code' fun path hp => ?_, output, unparsed⟩
  rw [unparsed] at hp
  rw [List.mem_singleton.mp hp]
  rintro ⟨route, document, leads⟩
  have bracket : sharedFiles.follow "/b.py" = .ok ["b.py"] := rfl
  cases leads.symm.trans bracket
  rw [documentRoutes_shared] at document
  exact absurd document (by decide)

/-- A source that is the policy is not emptied. The exit code stays 2, though a source has been emptied
and nothing is found. -/
theorem run_shared :
    let s := checkSettings (sharedWords ["p.py", "b.py"])
    let arguments := sharedCheck ["p.py", "b.py"]
    let before := run arguments { files := sharedFiles, now := "" }
    let after := run arguments { files := withoutUnparsed s sharedFiles, now := "" }
    IsAccepted arguments sharedFiles (sharedWords ["p.py", "b.py"]) ∧ DocumentsLoad s sharedFiles ∧
      before.failure = none ∧ before.exitCode = 2 ∧ brokenRoutes s sharedFiles = [["b.py"]] ∧
      unparsedSources s sharedFiles = ["/p.py", "/b.py"] ∧
      violationsOf s { files := sharedFiles, now := "" } = [] ∧ after.exitCode = 2 := by
  intro s arguments before after
  have accepted := sharedCheck_isAccepted_both
  have found : visited s sharedFiles = ["/p.py", "/b.py"] := by
    change ["p.py", "b.py"].flatMap (fun path => (sourcesOf sharedFiles path).toOption.getD []) = _
    rw [List.flatMap_cons, List.flatMap_singleton, sharedFiles_read.2.2.1, sharedFiles_read.2.2.2]
    rfl
  obtain ⟨usable, none, unparsed⟩ := shared_inputs ["p.py", "b.py"] (by decide)
  obtain ⟨p, c, ran⟩ := usableRun "" accepted rfl usable
  obtain ⟨expected, clean⟩ := ran.of_no_edges none
  have code := ran.exitCode expected
  rw [found] at unparsed
  rw [unparsed, if_neg (List.cons_ne_nil _ _)] at code
  have emptied : brokenRoutes s sharedFiles = [["b.py"]] := by
    rw [brokenRoutes, unparsed, documentRoutes_shared]
    rfl
  have policy : "/p.py" ∈ unparsedSources s (withoutUnparsed s sharedFiles) := by
    refine (mem_unparsedSources_withoutUnparsed Source.imports_nil).mpr ⟨?_, ["p.py"], ?_, rfl⟩
    · rw [unparsed]
      exact List.mem_cons_self
    · rw [documentRoutes_shared]
      exact List.mem_singleton_self _
  obtain ⟨p', c', ran'⟩ := usableRun "" (accepted.congr (withoutUnparsed_sameShape s sharedFiles)) rfl
    (inputsUsable_withoutUnparsed Source.imports_nil usable)
  have none' := (edges_withoutUnparsed Source.imports_nil s sharedFiles).trans none
  have code' := ran'.exitCode (ran'.of_no_edges none').1
  rw [if_neg (List.ne_nil_of_mem policy)] at code'
  exact ⟨accepted, sharedFiles_load _, expected, code, emptied, unparsed, clean, code'⟩

end ImportBoundary.CommandLine
