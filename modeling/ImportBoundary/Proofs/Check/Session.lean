import ImportBoundary.Check.Session
import ImportBoundary.Proofs.Check.Batch
import Mathlib.Algebra.Ring.Nat

/-!
# Reports through sessions

What a command adds to a report is known from the command and the session before it (`added`), and
nothing else happens to the report (`content_perform`). So reports and snapshots only grow at their
ends, a batch adds its violations whatever its workers do, a report that is added to itself holds
everything twice, and the counts by rule add up (`reports_through_session`).
-/

namespace ImportBoundary

/-! ## Counting -/

namespace Report

theorem counts_rules (r : Report) : r.counts.map (·.1) = Rule.all := by
  rw [counts, List.map_map]
  exact List.map_id _

/-- Every violation is counted under one rule. -/
theorem sum_counts (r : Report) : (r.counts.map (·.2)).sum = r.length := by
  obtain ⟨violations⟩ := r
  rw [counts, List.map_map, length]
  induction violations with
  | nil => rfl
  | cons v rest ih =>
    simp only [Rule.all, List.map_cons, List.map_nil, List.sum_cons, List.sum_nil, count,
      Function.comp_apply, List.countP_cons, List.length_cons] at ih ⊢
    cases v.rule <;> simp <;> omega

theorem count_append (vs ws : List Violation) (rule : Rule) :
    count ⟨vs ++ ws⟩ rule = count ⟨vs⟩ rule + count ⟨ws⟩ rule :=
  List.countP_append

end Report

namespace Session

/-! ## One command -/

/-- What a command adds to a report. -/
def added (s : Session) (report : Nat) : Command → List Violation
  | .add number v => if number = report then [v] else []
  | .extend number vs => if number = report then vs else []
  | .extendFrom number other => if number = report then s.content other else []
  | .evaluateAll g edges _ _ (some number) =>
    if number = report then (edges.toList.toOption.getD []).flatMap g.evaluate else []
  | _ => []

theorem content_change {s : Session} {report : Nat} (there : report < s.reports.length)
    {number : Nat} {f : Report → Report} {vs : List Violation}
    (adds : ∀ r, (f r).violations = r.violations ++ vs) :
    (s.change number f).content report =
      s.content report ++ if number = report then vs else [] := by
  rw [content, change, List.getElem?_modify, List.getElem?_eq_getElem there, content,
    List.getElem?_eq_getElem there]
  by_cases same : number = report
  · simpa [same] using adds _
  · simp [same]

theorem content_append {s : Session} {report : Nat} (there : report < s.reports.length)
    (more : List Report) : ({ s with reports := s.reports ++ more } : Session).content report =
      s.content report := by
  rw [content, content, List.getElem?_append_left there]

/-- A command adds to a report and does nothing else to it. -/
theorem content_perform {s : Session} {report : Nat} (there : report < s.reports.length)
    (c : Command) : (s.perform c).1.content report = s.content report ++ s.added report c := by
  cases c with
  | create violations => simpa [perform, added] using content_append there _
  | add number v => exact content_change there fun _ => rfl
  | extend number vs => exact content_change there fun _ => rfl
  | extendFrom number other => exact content_change there fun _ => rfl
  | snapshot number => exact (List.append_nil _).symm
  | evaluateAll g edges workers schedule number =>
    cases number with
    | none =>
      cases produced : edges.toList <;> simp only [perform, produced, added, List.append_nil]
      exact content_append there _
    | some number =>
      cases produced : edges.toList <;> simp only [perform, produced, added]
      · simp [Except.toOption]
      · exact content_change there (g.evaluateAll_violations workers schedule _)

theorem length_perform (s : Session) (c : Command) :
    s.reports.length ≤ (s.perform c).1.reports.length := by
  cases c with
  | evaluateAll g edges workers schedule number =>
    cases number <;> cases produced : edges.toList <;> simp [perform, produced, change]
  | _ => simp [perform, change]

theorem snapshots_perform (s : Session) (c : Command) :
    s.snapshots <+: (s.perform c).1.snapshots := by
  cases c with
  | evaluateAll g edges workers schedule number =>
    cases number <;> cases produced : edges.toList <;> simp [perform, produced, change]
  | _ => simp [perform, change]

/-! ## Many commands -/

theorem run_append (s : Session) (earlier later : List Command) :
    s.run (earlier ++ later) = (s.run earlier).run later :=
  List.foldl_append

theorem length_run (s : Session) (commands : List Command) :
    s.reports.length ≤ (s.run commands).reports.length := by
  induction commands generalizing s with
  | nil => exact Nat.le_refl _
  | cons c rest ih => exact Nat.le_trans (length_perform s c) (ih _)

theorem content_run {s : Session} {report : Nat} (there : report < s.reports.length)
    (commands : List Command) : s.content report <+: (s.run commands).content report := by
  induction commands generalizing s with
  | nil => exact List.prefix_rfl
  | cons c rest ih =>
    have added : s.content report <+: (s.perform c).1.content report :=
      content_perform there c ▸ List.prefix_append _ _
    exact added.trans (ih (Nat.lt_of_lt_of_le there (length_perform s c)))

theorem snapshots_run (s : Session) (commands : List Command) :
    s.snapshots <+: (s.run commands).snapshots := by
  induction commands generalizing s with
  | nil => exact List.prefix_rfl
  | cons c rest ih => exact (snapshots_perform s c).trans (ih _)

/-! ## Batches -/

theorem extend_eq {f : Report → Report} {vs : List Violation}
    (adds : ∀ r, (f r).violations = r.violations ++ vs) : f = (·.extend vs) := by
  funext r
  have same := adds r
  cases h : f r
  rw [h] at same
  rw [Report.extend, ← same]

/-- A batch that is added to a report answers with that report, whatever the report holds. -/
theorem perform_evaluateAll (s : Session) (g : Engine) (edges : List Edge) (workers : Option Int)
    (schedule : Pool.Schedule) (report : Nat) :
    s.perform (.evaluateAll g (.ofList edges) workers schedule (some report)) =
      (s.change report (·.extend (edges.flatMap g.evaluate)), .report report) := by
  simp only [perform, Production.toList_ofList]
  rw [extend_eq (g.evaluateAll_violations workers schedule edges)]

theorem change_extend_extend (s : Session) (report : Nat) (vs ws : List Violation) :
    (s.change report (·.extend vs)).change report (·.extend ws) =
      s.change report (·.extend (vs ++ ws)) := by
  simp only [change, List.modify_modify_eq]
  congr 2
  funext r
  simp [Report.extend]

/-- What a session keeps of its reports, from any moment of it (after `earlier`) on. -/
theorem reports_through_session (start : Session) (earlier : List Command) :
    let s := start.run earlier
    (∀ later report, report < s.reports.length →
        s.content report <+: (start.run (earlier ++ later)).content report) ∧
      (∀ later, s.snapshots <+: (start.run (earlier ++ later)).snapshots) ∧
      (∀ g edges workers schedule report,
        s.perform (.evaluateAll g (.ofList edges) workers schedule (some report)) =
          (s.change report (·.extend (edges.flatMap g.evaluate)), .report report)) ∧
      (∀ g edges more workers schedule workers' schedule' workers'' schedule'' report,
        s.run [.evaluateAll g (.ofList edges) workers schedule (some report),
            .evaluateAll g (.ofList more) workers' schedule' (some report)] =
          s.run [.evaluateAll g (.ofList (edges ++ more)) workers'' schedule'' (some report)]) ∧
      (∀ report, report < s.reports.length →
        (s.run [.extendFrom report report]).content report =
          s.content report ++ s.content report) ∧
      (∀ r ∈ s.reports, r.counts.map (·.1) = Rule.all ∧ (r.counts.map (·.2)).sum = r.length) ∧
      (∀ c report rule, report < s.reports.length →
        Report.count ⟨(s.perform c).1.content report⟩ rule =
          Report.count ⟨s.content report⟩ rule + Report.count ⟨s.added report c⟩ rule) ∧
      (∀ g edges workers schedule report failure, edges.toList = .error failure →
        s.perform (.evaluateAll g edges workers schedule report) = (s, .failed failure)) := by
  intro s
  have later (commands : List Command) : start.run (earlier ++ commands) = s.run commands :=
    run_append start earlier commands
  refine ⟨fun commands report there => ?_, fun commands => ?_, s.perform_evaluateAll, ?_, ?_, ?_,
    ?_, ?_⟩
  · rw [later]
    exact content_run there commands
  · rw [later]
    exact snapshots_run s commands
  · intro g edges more workers schedule workers' schedule' workers'' schedule'' report
    simp only [run, List.foldl_cons, List.foldl_nil, perform_evaluateAll, change_extend_extend,
      List.flatMap_append]
  · intro report there
    have doubled := content_perform there (.extendFrom report report)
    rwa [added, if_pos rfl] at doubled
  · exact fun r _ => ⟨r.counts_rules, r.sum_counts⟩
  · intro c report rule there
    rw [content_perform there, Report.count_append]
  · intro g edges workers schedule report failure failed
    simp only [perform, failed]

/-- A report of one violation, of which a snapshot is taken before the report is added to itself. -/
def exampleSession : Session :=
  { reports := [⟨[⟨.restrictedPath, "/a.py", "/b/c", "/b/c", "/b", "", none⟩]⟩] }

theorem reports_through_session_twice :
    0 < (exampleSession.run [.snapshot 0]).reports.length ∧
      ((exampleSession.run [.snapshot 0]).run [.extendFrom 0 0]).content 0 =
        exampleSession.content 0 ++ exampleSession.content 0 ∧
      exampleSession.content 0 ≠ [] := by
  have there : 0 < (exampleSession.run [.snapshot 0]).reports.length := by decide
  obtain ⟨-, -, -, -, doubles, -⟩ := reports_through_session exampleSession [.snapshot 0]
  exact ⟨there, doubles 0 there, by decide⟩

end Session

end ImportBoundary
