import ImportBoundary.Proofs.CommandLine.Inputs
import ImportBoundary.Proofs.Display.Table

/-!
# The exit code of a check

What the exit code of a check should say: 1 that violations have been found in inputs that could
all be used, 2 that some input could not be used or parsed, and 0 anything else (`KeepsContract`).
On any host, a check says so exactly if every input that it cannot use has a mistake that is told
(`OnlyMistakes`), and if what it has found can be written (`ReportShows`). Otherwise a failure
that nobody expected leaves the command, with the exit code of violations, as it does when the
bytes of a policy are no text.
-/

namespace ImportBoundary.CommandLine

open Log

/-! ## The contract -/

/-- A command line that asks for a check, with words that pass the checks of options. -/
structure IsAccepted (arguments : List String) (files : FileSystem) (w : Words) : Prop where
  asked : ∃ m rest, readWords .main {} arguments = .ok m ∧ tell? .main m = none ∧
    m.arguments = "check" :: rest ∧ readWords .check {} rest = .ok w
  untold : tell? .check w = none
  checked : checkWords files .check w = .ok ()

section

variable [Host]

/-- The policy that a check loads after it has opened its log file. -/
def loadedPolicy (s : CheckSettings) (t : Terminal) : Except Failure Policy :=
  match t.setUp programLogger s.verbose s.logFile with
  | .error fault => .error (.file fault)
  | .ok ready => policyOf s ready

/-- The violations in the edges of all inputs. -/
def violationsOf (s : CheckSettings) (t : Terminal) : List Violation :=
  match loadedPolicy s t with
  | .ok policy => ((uses s t).flatMap Use.edges).flatMap policy.evaluate
  | .error _ => []

/-- Every input can be used, even if it is a source that cannot be parsed. -/
def AllUsable (s : CheckSettings) (t : Terminal) : Prop :=
  ∀ failure, .unusable failure ∉ uses s t

/-- No source is passed over. -/
def AllParsed (s : CheckSettings) (t : Terminal) : Prop :=
  ∀ failure, .unparsed failure ∉ uses s t

/-- What the end of a check says is so. -/
structure KeepsContract (s : CheckSettings) (t : Terminal) (o : Outcome) : Prop where
  violations : o.exitCode = 1 ↔ AllUsable s t ∧ AllParsed s t ∧ violationsOf s t ≠ []
  faulty : o.exitCode = 2 ↔ ¬ (AllUsable s t ∧ AllParsed s t)
  clean : o.exitCode ≠ 1 → o.exitCode ≠ 2 → o.exitCode = 0
  expected : o.failure = none

/-- An input that cannot be used has a mistake in it that is told. -/
def OnlyMistakes (s : CheckSettings) (t : Terminal) : Prop :=
  ∀ failure, .unusable failure ∈ uses s t → ∃ fault, failure = .configuration fault

/-- What has been found can be written: as a table that can be shown, or as lines that the output
takes. -/
def ReportShows (s : CheckSettings) (t : Terminal) : Prop :=
  violationsOf s t ≠ [] → ∀ policy, loadedPolicy s t = .ok policy →
    match s.format with
    | .text => ∃ text,
      Host.display (Display.violationDrawing policy.root (violationsOf s t)) = .ok text
    | .jsonLines => Host.takes (Report.text ⟨violationsOf s t⟩ ++ "\n") = true

end

/-! ## The table -/

theorem exists_of_isOk {α ε : Type} {r : Except ε α} (h : r.isOk = true) : ∃ a, r = .ok a := by
  cases r with
  | error e => cases h
  | ok a => exact ⟨a, rfl⟩

theorem ruleId_plain (rule : Rule) :
    ∃ shown, Display.Markup.plain rule.id.toList = .ok shown := by
  apply exists_of_isOk
  cases rule <;> rfl

/-- The standard host shows the table of some violations if it can show their own texts. -/
theorem violationDrawing_isOk (root : String) (vs : List Violation) :
    (∃ text, Host.display (Display.violationDrawing root vs) = .ok text) ↔
      ∀ v ∈ vs, ∀ text ∈ [Display.placeText root v, v.subject, v.message],
        ∃ shown, Display.Markup.plain text.toList = .ok shown := by
  have heads : ∀ head ∈ ["Location", "Rule", "Zone / rule", "Message"],
      ∃ shown, Display.Markup.plain head.toList = .ok shown := by
    have all : (["Location", "Rule", "Zone / rule", "Message"].all fun head =>
        (Display.Markup.plain head.toList).isOk) = true := by
      rfl
    exact fun head hh => exists_of_isOk (List.all_eq_true.mp all head hh)
  change (∃ text, (Display.violationDrawing root vs).shown = .ok text) ↔ _
  rw [Display.violationDrawing, Display.Drawing.shown, Display.markedTable_isOk]
  simp only [List.forall_mem_cons, List.not_mem_nil, false_implies, implies_true, and_true,
    List.forall_mem_map] at heads ⊢
  obtain ⟨location, rule, zone, message⟩ := heads
  constructor
  · rintro ⟨⟨-, places⟩, -, ⟨-, subjects⟩, -, messages⟩ v hv
    exact ⟨places v hv, subjects v hv, messages v hv⟩
  · intro texts
    exact ⟨⟨location, fun v hv => (texts v hv).1⟩, ⟨rule, fun v _ => ruleId_plain v.rule⟩,
      ⟨zone, fun v hv => (texts v hv).2.1⟩, message, fun v hv => (texts v hv).2.2⟩

/-! ## The report -/

section

variable [Host]

omit [Host] in
theorem logViolations_result (p : Policy) (e : Edge) (t : Terminal) :
    (logViolations p e).result t = .ok () := by
  simp only [logViolations]
  split <;> rfl

omit [Host] in
theorem evaluateEdges_result (p : Policy) (edges : List Edge) (t : Terminal) :
    (evaluateEdges p edges).result t = .ok ⟨edges.flatMap p.evaluate⟩ := by
  have quiet : ∀ t', (edges.forM (logViolations p)).result t' = .ok () :=
    Work.result_forM _ (logViolations_result p) edges
  simp only [evaluateEdges, Work.result_bind, quiet, Work.result_log, Work.result_pure, Except.bind]
  exact congrArg Except.ok (congrArg Report.mk (Report.addEdges_violations {} p Rule.all edges))

/-- Whether some violations can be written: a table may have markup that is wrong, and the output may
not take the lines. -/
def written (p : Policy) (vs : List Violation) (format : Format) : Except Failure Unit :=
  if vs = [] then .ok ()
  else
    match format with
    | .text =>
      ((Host.display (Display.violationDrawing p.root vs)).mapError Failure.markup).map fun _ => ()
    | .jsonLines => if Host.takes (Report.text ⟨vs⟩ ++ "\n") then .ok () else .error .untaken

theorem writeReport_result (p : Policy) (vs : List Violation) (count : Nat) (format : Format)
    (t : Terminal) : (writeReport p ⟨vs⟩ count format).result t = written p vs format := by
  cases vs with
  | nil => cases format <;> rfl
  | cons v vs =>
    unfold written
    rw [if_neg (List.cons_ne_nil v vs)]
    cases format with
    | jsonLines => exact Work.result_print _ t
    | text =>
      simp only [writeReport, Report.isEmpty, List.isEmpty_cons, Bool.not_false, if_true,
        Work.result_bind, Work.result_draw, Work.result_write]
      cases Host.display (Display.violationDrawing p.root (v :: vs)) <;> rfl

/-- The exit code that a report ends with, if it can be written. -/
def codeOf (c : Collection) (vs : List Violation) : Nat :=
  if c.failures ≠ [] then 2 else if vs ≠ [] then 1 else 0

theorem report_result (s : CheckSettings) (p : Policy) (c : Collection) (t : Terminal) :
    (report s p c).result t =
      (written p (c.edges.flatMap p.evaluate) s.format).map fun _ =>
        codeOf c (c.edges.flatMap p.evaluate) := by
  have ended : ∀ (vs : List Violation) (told : Work Unit) t',
      (told.result t' = .ok ()) → (if c.failures.isEmpty = true then
          pure (if (Report.mk vs).isEmpty = true then exitClean else exitViolations)
        else told >>= fun _ => pure exitFaulty : Work Nat).result t' = .ok (codeOf c vs) := by
    intro vs told t' ht
    cases hf : c.failures with
    | nil => cases vs <;> simp [codeOf, hf, Report.isEmpty, exitClean, exitViolations]
    | cons failure rest =>
      rw [if_neg (by simp), Work.result_bind, ht, codeOf, if_pos (by simp [hf])]
      rfl
  simp only [report]
  split
  all_goals
    simp only [Work.result_bind, Work.result_log, evaluateEdges_result, writeReport_result,
      Except.bind]
    cases written p (c.edges.flatMap p.evaluate) s.format with
    | error failure => rfl
    | ok _ => exact ended _ _ _ rfl

/-- The result of a check from what it has gathered. -/
theorem check_result (s : CheckSettings) (t : Terminal) :
    (check s).result t =
      match t.setUp programLogger s.verbose s.logFile with
      | .error fault => .error (.file fault)
      | .ok ready =>
        match (gather s).result ready with
        | .ok (p, c) => (written p (c.edges.flatMap p.evaluate) s.format).map fun _ =>
          codeOf c (c.edges.flatMap p.evaluate)
        | .error (.configuration _) => .ok 2
        | .error failure => .error failure := by
  simp only [check, Work.result_bind, Work.result_get, Work.leaves_get, Work.result_ofExcept,
    Work.leaves_ofExcept, Work.result_set, Work.leaves_set, Except.bind,
    Work.result_tellingMistakes]
  cases t.setUp programLogger s.verbose s.logFile with
  | error fault => rfl
  | ok ready =>
    simp only [Work.mapError_ok, report_result]
    rcases (gather s).result ready with failure | ⟨p, c⟩
    · cases failure <;> rfl
    · rfl

/-- A command line that asks for a check runs the check. -/
theorem runMain_eq {arguments : List String} {t : Terminal} {w : Words}
    (accepted : IsAccepted arguments t.files w) :
    runMain arguments t = check (checkSettings w) t := by
  obtain ⟨⟨m, rest, main, asked, words, read⟩, untold, checked⟩ := accepted
  have nonempty : ¬ arguments.isEmpty = true := by
    intro empty
    rw [List.isEmpty_iff.mp empty] at main
    cases main
    cases words
  have name : Command.ofName? "check" = some .check := by decide
  rw [runMain, if_neg nonempty]
  have files : Work.files t = .ok t.files t := rfl
  simp only [main, asked, words, name, runCommand, read, untold, bind, EStateM.bind, files, checked]

theorem runMain_result {arguments : List String} {t : Terminal} {w : Words}
    (accepted : IsAccepted arguments t.files w) :
    (runMain arguments).result t = (check (checkSettings w)).result t := by
  rw [Work.result, Work.result, runMain_eq accepted]

/-! ## Keeping the contract -/

theorem written_isOk {s : CheckSettings} {t : Terminal} {p : Policy}
    (loaded : loadedPolicy s t = .ok p) :
    (∃ u, written p (violationsOf s t) s.format = .ok u) ↔ ReportShows s t := by
  unfold written ReportShows
  simp only [loaded, Except.ok.injEq, forall_eq']
  by_cases none : violationsOf s t = []
  · simp [none]
  · rw [if_neg none]
    cases s.format with
    | text =>
      cases Host.display (Display.violationDrawing p.root (violationsOf s t)) <;>
        simp [none, Except.map, Except.mapError]
    | jsonLines => simp [none]

/-- A report in text shows its table. -/
theorem ReportShows.table {s : CheckSettings} {t : Terminal} {p : Policy} (shows : ReportShows s t)
    (text : s.format = .text) (found : violationsOf s t ≠ []) (loaded : loadedPolicy s t = .ok p) :
    ∃ text, Host.display (Display.violationDrawing p.root (violationsOf s t)) = .ok text := by
  have written := shows found p loaded
  rwa [text] at written

theorem allParsed_iff {s : CheckSettings} {t : Terminal} :
    AllParsed s t ↔ (uses s t).filterMap Use.unparsed? = [] := by
  rw [AllParsed, List.filterMap_eq_nil_iff]
  constructor
  · intro parsed u hu
    cases u with
    | unparsed failure => exact absurd hu (parsed failure)
    | _ => rfl
  · intro none failure hu
    cases none _ hu

theorem loadedPolicy_of_gathered {s : CheckSettings} {t ready : Terminal} {p : Policy}
    {c : Collection} (set : t.setUp programLogger s.verbose s.logFile = .ok ready)
    (gathered : (gather s).result ready = .ok (p, c)) : loadedPolicy s t = .ok p := by
  simpa only [loadedPolicy, set] using policyOf_of_gather gathered

/-- The violations in the edges that have been gathered. -/
theorem violationsOf_of_gathered {s : CheckSettings} {t ready : Terminal} {p : Policy}
    {c : Collection} (set : t.setUp programLogger s.verbose s.logFile = .ok ready)
    (gathered : (gather s).result ready = .ok (p, c)) :
    violationsOf s t = c.edges.flatMap p.evaluate := by
  have loaded := loadedPolicy_of_gathered set gathered
  have used : uses s t = gatherUses s ready := by simp only [uses, set]
  have collected := gather_gathered s ready
  rw [gathered, Except.map] at collected
  cases collected with
  | all _ usable edges failures =>
    have collected : c.edges = (gatherUses s ready).flatMap Use.edges := by
      rw [edges, List.nil_append]
    simp only [violationsOf, loaded, used, collected]

/-- A check that gathers its inputs can use all of them, and its exit code says what has been found
unless that cannot be written. -/
theorem check_of_gathered {s : CheckSettings} {t ready : Terminal} {p : Policy} {c : Collection}
    (set : t.setUp programLogger s.verbose s.logFile = .ok ready)
    (gathered : (gather s).result ready = .ok (p, c)) :
    AllUsable s t ∧ loadedPolicy s t = .ok p ∧ (c.failures = [] ↔ AllParsed s t) ∧
      (check s).result t = (written p (violationsOf s t) s.format).map fun _ =>
        codeOf c (violationsOf s t) := by
  have used : uses s t = gatherUses s ready := by simp only [uses, set]
  have collected := gather_gathered s ready
  rw [gathered, Except.map] at collected
  cases collected with
  | all _ usable edges failures =>
    refine ⟨?_, loadedPolicy_of_gathered set gathered, ?_, ?_⟩
    · rw [AllUsable, used]
      exact usable
    · rw [allParsed_iff, used, failures, List.nil_append]
    · rw [check_result, set, violationsOf_of_gathered set gathered]
      simp only [gathered]

/-- A check ends with its exit code if all its inputs can be used, and with the mistake or the
failure of the first of them that cannot be. -/
theorem check_cases (s : CheckSettings) (t : Terminal) :
    (AllUsable s t ∧ ∃ p c, loadedPolicy s t = .ok p ∧ (c.failures = [] ↔ AllParsed s t) ∧
        (check s).result t = (written p (violationsOf s t) s.format).map fun _ =>
          codeOf c (violationsOf s t)) ∨
      ∃ failure, (∀ other, .unusable other ∈ uses s t ↔ other = failure) ∧
        (check s).result t =
          match failure with
          | .configuration _ => .ok 2
          | failure => .error failure := by
  cases set : t.setUp programLogger s.verbose s.logFile with
  | error fault =>
    refine .inr ⟨.file fault, by simp [uses, set], ?_⟩
    rw [check_result, set]
  | ok ready =>
    cases gathered : (gather s).result ready with
    | ok pc =>
      obtain ⟨usable, ended⟩ := check_of_gathered (p := pc.1) (c := pc.2) set gathered
      exact .inl ⟨usable, pc.1, pc.2, ended⟩
    | error failure =>
      have used : uses s t = gatherUses s ready := by simp only [uses, set]
      have collected := gather_gathered s ready
      rw [gathered, Except.map] at collected
      cases collected with
      | stopped _ only =>
        refine .inr ⟨failure, by rwa [used], ?_⟩
        rw [check_result, set]
        simp only [gathered]
        cases failure <;> rfl

/-- What keeps some violations from being written is no mistake. -/
theorem ne_configuration_of_written {p : Policy} {vs : List Violation} {format : Format}
    {failure : Failure} (h : written p vs format = .error failure) :
    ∀ fault, failure ≠ .configuration fault := by
  rintro fault rfl
  unfold written at h
  by_cases none : vs = []
  · rw [if_pos none] at h
    cases h
  · rw [if_neg none] at h
    cases format with
    | text =>
      cases shown : Host.display (Display.violationDrawing p.root vs) <;>
        simp [shown, Except.map, Except.mapError] at h
    | jsonLines =>
      dsimp only at h
      split at h <;> cases h

/-- The exit code of a report says what it should. -/
theorem keepsContract_of_code {s : CheckSettings} {t : Terminal} {c : Collection} {o : Outcome}
    (usable : AllUsable s t) (parsed : c.failures = [] ↔ AllParsed s t)
    (code : o.exitCode = codeOf c (violationsOf s t)) (expected : o.failure = none) :
    KeepsContract s t o := by
  unfold codeOf at code
  by_cases all : c.failures = []
  · rw [if_neg (not_not_intro all)] at code
    have allParsed := parsed.mp all
    by_cases found : violationsOf s t = []
    · rw [if_neg (not_not_intro found)] at code
      constructor <;> simp [code, usable, allParsed, found, expected]
    · rw [if_pos found] at code
      constructor <;> simp [code, usable, allParsed, found, expected]
  · rw [if_pos all] at code
    have passedOver : ¬ AllParsed s t := fun h => all (parsed.mpr h)
    constructor <;> simp [code, usable, passedOver, expected]

/-- A check that ends by a failure does not keep its contract. -/
theorem not_keepsContract_of_failure {s : CheckSettings} {t : Terminal} {o : Outcome}
    {failure : Failure} (escaped : o.failure = some failure) : ¬ KeepsContract s t o := by
  intro keeps
  rw [keeps.expected] at escaped
  cases escaped

/-- A check that is told of a mistake says that it cannot use an input. -/
theorem keepsContract_of_mistake {s : CheckSettings} {t : Terminal} {o : Outcome}
    (unusable : ¬ AllUsable s t) (code : o.exitCode = 2) (expected : o.failure = none) :
    KeepsContract s t o := by
  constructor <;> simp [code, unusable, expected]

/-- On any host, a check keeps its contract exactly if whatever it cannot use has a mistake that it
tells, and if what it has found can be written. Where it does not, a failure leaves it with the exit code of
violations. -/
theorem keepsContract_iff {arguments : List String} {t : Terminal} {w : Words}
    (accepted : IsAccepted arguments t.files w) :
    (KeepsContract (checkSettings w) t (run arguments t) ↔
        OnlyMistakes (checkSettings w) t ∧
          (AllUsable (checkSettings w) t → ReportShows (checkSettings w) t)) ∧
      (¬ KeepsContract (checkSettings w) t (run arguments t) →
        (run arguments t).exitCode = 1 ∧ ∃ failure, (run arguments t).failure = some failure ∧
          ∀ fault, failure ≠ .configuration fault) := by
  have outcome := run_outcome arguments t
  rw [runMain_result accepted] at outcome
  generalize checkSettings w = s at outcome ⊢
  rcases check_cases s t with ⟨usable, p, c, loaded, parsed, ended⟩ | ⟨failure, only, ended⟩
  · have mistakes : OnlyMistakes s t := fun failure hf => absurd hf (usable failure)
    have table := written_isOk loaded
    rw [ended] at outcome
    cases wrote : written p (violationsOf s t) s.format with
    | ok u =>
      rw [wrote] at outcome table
      obtain ⟨code, expected⟩ := Prod.mk.inj outcome
      have keeps := keepsContract_of_code usable parsed code expected
      have shows : ReportShows s t := table.mp ⟨u, rfl⟩
      exact ⟨iff_of_true keeps ⟨mistakes, fun _ => shows⟩, fun broken => absurd keeps broken⟩
    | error failure =>
      rw [wrote] at outcome table
      obtain ⟨code, escaped⟩ := Prod.mk.inj outcome
      have hidden : ¬ ReportShows s t := by
        intro shows
        obtain ⟨u, wrote⟩ := table.mpr shows
        cases wrote
      exact ⟨iff_of_false (not_keepsContract_of_failure escaped) fun h => hidden (h.2 usable),
        fun _ => ⟨code, failure, escaped, ne_configuration_of_written wrote⟩⟩
  · have unusable : ¬ AllUsable s t := fun usable => usable failure ((only failure).mpr rfl)
    rw [ended] at outcome
    by_cases mistake : ∃ fault, failure = .configuration fault
    · obtain ⟨fault, rfl⟩ := mistake
      obtain ⟨code, expected⟩ := Prod.mk.inj outcome
      have keeps := keepsContract_of_mistake unusable code expected
      have mistakes : OnlyMistakes s t := fun other hf => ⟨fault, (only other).mp hf⟩
      exact ⟨iff_of_true keeps ⟨mistakes, fun usable => absurd usable unusable⟩,
        fun broken => absurd keeps broken⟩
    · have escaped : (run arguments t).exitCode = 1 ∧ (run arguments t).failure = some failure := by
        cases failure with
        | configuration fault => exact absurd ⟨fault, rfl⟩ mistake
        | _ => exact Prod.mk.inj outcome
      have unexpected : ¬ OnlyMistakes s t := fun mistakes =>
        mistake (mistakes failure ((only failure).mpr rfl))
      exact ⟨iff_of_false (not_keepsContract_of_failure escaped.2) fun h => unexpected h.1,
        fun _ => ⟨escaped.1, failure, escaped.2, fun fault told => mistake ⟨fault, told⟩⟩⟩

end

/-- A directory with a policy file of some bytes. -/
def withPolicy (bytes : List UInt8) : Terminal :=
  { files := { entries := [(["vroot", "workspace", "p.json"], .file bytes)]
               current := ["vroot", "workspace"] }
    now := "" }

/-- The command line that checks nothing against this policy, and its words. -/
def bareCheck : List String := ["check", "--policy", "p.json"]

def bareWords : Words := { options := [(.policy, "p.json")] }

theorem bareCheck_isAccepted (bytes : List UInt8) :
    IsAccepted bareCheck (withPolicy bytes).files bareWords :=
  ⟨⟨{ arguments := bareCheck }, ["--policy", "p.json"], rfl, rfl, rfl, rfl⟩, rfl, rfl⟩

/-- With an empty policy and nothing to check, the contract is kept. -/
theorem keepsContract_bare :
    IsAccepted bareCheck (withPolicy [0x7b, 0x7d]).files bareWords ∧
      KeepsContract (checkSettings bareWords) (withPolicy [0x7b, 0x7d])
        (run bareCheck (withPolicy [0x7b, 0x7d])) := by
  have accepted := bareCheck_isAccepted [0x7b, 0x7d]
  have usable : AllUsable (checkSettings bareWords) (withPolicy [0x7b, 0x7d]) := by
    intro failure hf
    have none : (uses (checkSettings bareWords) (withPolicy [0x7b, 0x7d])).any
        Use.isUnusable = false := by
      decide +kernel
    rw [any_isUnusable.mpr ⟨failure, hf⟩] at none
    cases none
  have clean : violationsOf (checkSettings bareWords) (withPolicy [0x7b, 0x7d]) = [] := by
    rw [← List.isEmpty_iff]
    decide +kernel
  refine ⟨accepted, (keepsContract_iff accepted).1.mpr ⟨?_, fun _ found => ?_⟩⟩
  · exact fun failure hf => absurd hf (usable failure)
  · exact absurd clean found

/-- A policy file of one byte that begins no character. The check fails with the exit code of
violations, though it has not looked at any import. -/
theorem broken_by_bytes :
    ∃ w, IsAccepted bareCheck (withPolicy [0xff]).files w ∧
      (run bareCheck (withPolicy [0xff])).exitCode = 1 ∧
      ¬ KeepsContract (checkSettings w) (withPolicy [0xff])
        (run bareCheck (withPolicy [0xff])) := by
  have code : (run bareCheck (withPolicy [0xff])).exitCode = 1 := by decide +kernel
  have escaped : (run bareCheck (withPolicy [0xff])).failure.isSome = true := by decide +kernel
  obtain ⟨failure, escaped⟩ := Option.isSome_iff_exists.mp escaped
  exact ⟨bareWords, bareCheck_isAccepted [0xff], code, not_keepsContract_of_failure escaped⟩

end ImportBoundary.CommandLine
