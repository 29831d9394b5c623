import ImportBoundary.Proofs.CommandLine.ExitCode
import ImportBoundary.Proofs.Log.Screen

/-!
# The output of a check

As long as nothing is logged to a file, a check leaves files as they are, and all that it writes to its
output is the report. What a report says depends on the policy and on the edges (`report_tells`).
-/

namespace ImportBoundary.CommandLine

open Log Log.Terminal

namespace Work

variable {α β : Type}

/-- Work that leaves files alone and writes `text` to the output, whatever it results in. -/
def Tells (work : Work α) (text : String) : Prop :=
  ∀ t : Terminal, t.OnScreen → Told t text (work.leaves t)

namespace Tells

theorem pure (a : α) : Tells (Pure.pure a : Work α) "" :=
  fun _ screen => .refl screen

theorem files : Tells Work.files "" :=
  fun _ screen => .refl screen

theorem ofExcept (r : Except Failure α) : Tells (Work.ofExcept r) "" := by
  intro t screen
  rw [leaves_ofExcept]
  exact .refl screen

theorem write (text : String) : Tells (Work.write text) text :=
  fun _ screen => .write screen text

theorem writeError (message : String) : Tells (Work.writeError message) "" :=
  fun _ screen => .writeError screen message

theorem log (logger : String) (level : Level) (message : String) :
    Tells (Work.log logger level message) "" :=
  fun _ screen => Told.log screen _

/-- Work that writes something, and then work that writes nothing. -/
theorem bind {work : Work α} {next : α → Work β} {text : String} (first : Tells work text)
    (quiet : ∀ a, Tells (next a) "") : Tells (work >>= next) text := by
  intro t screen
  have told := first t screen
  rw [leaves_bind]
  cases work.result t with
  | error failure => exact told
  | ok a => exact told.trans_quiet (quiet a _ told.onScreen)

/-- Work that always results in `a`, and then the work that goes on with it. -/
theorem andThen {work : Work α} {next : α → Work β} {text more : String} {a : α}
    (first : Tells work text) (same : ∀ t, work.result t = .ok a) (second : Tells (next a) more) :
    Tells (work >>= next) (text ++ more) := by
  intro t screen
  have told := first t screen
  rw [leaves_bind, same]
  exact told.trans (second _ told.onScreen)

/-- Work that writes nothing and always results in `a`. -/
theorem quietly {work : Work α} {next : α → Work β} {text : String} {a : α}
    (first : Tells work "") (same : ∀ t, work.result t = .ok a) (second : Tells (next a) text) :
    Tells (work >>= next) text := by
  have both := first.andThen same second
  rwa [String.empty_append] at both

/-- Work that always fails. -/
theorem stopped {work : Work α} {next : α → Work β} {text : String} {failure : Failure}
    (first : Tells work text) (fails : ∀ t, work.result t = .error failure) :
    Tells (work >>= next) text := by
  intro t screen
  rw [leaves_bind, fails]
  exact first t screen

theorem forM {step : α → Work Unit} (quiet : ∀ a, Tells (step a) "") (items : List α) :
    Tells (items.forM step) "" := by
  induction items with
  | nil => exact pure ()
  | cons a rest ih => exact (quiet a).bind fun _ => ih

theorem foldlM {step : β → α → Work β} (quiet : ∀ b a, Tells (step b a) "") (b : β)
    (items : List α) : Tells (items.foldlM step b) "" := by
  induction items generalizing b with
  | nil => exact pure b
  | cons a rest ih => exact (quiet b a).bind ih

end Tells

end Work

open Work

section

variable [Host]

/-- A drawing is written wholly or not at all. -/
theorem draw_tells (drawing : Display.Drawing) : ∃ text, Tells (draw drawing) text := by
  unfold draw
  cases Host.display drawing with
  | error fault => exact ⟨_, (Tells.ofExcept _).stopped fun _ => result_ofExcept _ _⟩
  | ok text => exact ⟨_, (Tells.ofExcept _).quietly (fun _ => result_ofExcept _ _) (.write text)⟩

/-- A text is written wholly or not at all. -/
theorem print_tells (text : String) : ∃ written, Tells (print text) written := by
  unfold print
  split
  · exact ⟨text, .write text⟩
  · exact ⟨"", Tells.ofExcept (.error .untaken)⟩

/-! ## Gathering -/

theorem loadPolicy_tells (path root : String) : Tells (loadPolicy path root) "" :=
  Tells.files.bind fun _ => (Tells.ofExcept _).bind fun _ => (Tells.log _ _ _).bind fun _ =>
    (Tells.ofExcept _).bind fun _ => (Tells.log _ _ _).bind fun _ => .pure _

theorem loadEdges_tells (path root : String) : Tells (loadEdges path root) "" :=
  Tells.files.bind fun _ => (Tells.ofExcept _).bind fun _ => (Tells.log _ _ _).bind fun _ => .pure _

theorem listEdges_tells (s : CheckSettings) (root : String) : Tells (listEdges s root) "" := by
  unfold listEdges
  cases nonempty s.edges with
  | none => exact .pure _
  | some path => exact loadEdges_tells path root

omit [Host] in
theorem logSkipped_tells (packages : String) (modules : List String) :
    Tells (logSkipped packages modules) "" := by
  unfold logSkipped
  split
  · exact .pure ()
  · exact .log _ _ _

theorem collectSource_tells (packages : String) (c : Collection) (path : String) :
    Tells (collectSource packages c path) "" := by
  refine Tells.files.bind fun fs => ?_
  rcases Extraction.ofFile fs path (some packages) with failure | found
  · cases failure with
    | source file fault => exact (Tells.log _ _ _).bind fun _ => .pure _
    | _ => exact .ofExcept (.error _)
  · refine (Tells.forM (logSkipped_tells found.packages) found.skipped).bind fun _ => ?_
    exact (Tells.log _ _ _).bind fun _ => .pure _

theorem collectPath_tells (packages : String) (c : Collection) (path : String) :
    Tells (collectPath packages c path) "" :=
  Tells.files.bind fun _ => (Tells.ofExcept _).bind fun _ =>
    .foldlM (collectSource_tells packages) c _

theorem collect_tells (s : CheckSettings) (root packages : String) :
    Tells (collect s root packages) "" :=
  (listEdges_tells s root).bind fun _ => .foldlM (collectPath_tells packages) _ _

theorem gather_tells (s : CheckSettings) : Tells (gather s) "" := by
  rw [gather_eq]
  exact Tells.files.bind fun _ => (loadPolicy_tells _ _).bind fun _ =>
    (collect_tells s _ _).bind fun _ => .pure _

/-! ## Reporting -/

omit [Host] in
theorem logViolations_tells (p : Policy) (e : Edge) : Tells (logViolations p e) "" := by
  unfold logViolations
  dsimp only
  split
  · exact .pure ()
  · exact .log _ _ _

omit [Host] in
theorem evaluateEdges_tells (p : Policy) (edges : List Edge) : Tells (evaluateEdges p edges) "" :=
  (Tells.forM (logViolations_tells p) edges).bind fun _ => (Tells.log _ _ _).bind fun _ => .pure _

theorem draw_violations_tells (p : Policy) (vs : List Violation) (panel : String) :
    ∃ text, Tells (do
      draw (Display.violationDrawing p.root vs)
      Work.write panel) text := by
  let drawing := Display.violationDrawing p.root vs
  obtain ⟨table, told⟩ := draw_tells drawing
  cases shown : Host.display drawing with
  | error fault =>
    have fails (t : Terminal) : (draw drawing).result t = .error (.markup fault) := by
      rw [result_draw, shown]
      rfl
    exact ⟨_, told.stopped fails⟩
  | ok text =>
    have succeeds (t : Terminal) : (draw drawing).result t = .ok () := by
      rw [result_draw, shown]
      rfl
    exact ⟨_, told.andThen succeeds (.write panel)⟩

/-- What is written for a report does not depend on the terminal. -/
theorem writeReport_tells (p : Policy) (r : Report) (count : Nat) (format : Format) :
    ∃ text, Tells (writeReport p r count format) text := by
  cases format with
  | jsonLines =>
    simp only [writeReport]
    split
    · exact print_tells _
    · exact ⟨_, .pure ()⟩
  | text =>
    simp only [writeReport]
    split
    · exact draw_violations_tells p r.violations _
    · exact ⟨_, .write _⟩

/-- What is written at the end of a check depends on the policy, the edges and the format. -/
theorem report_tells (s : CheckSettings) (p : Policy) (edges : List Edge) :
    ∃ text, ∀ c : Collection, c.edges = edges → Tells (report s p c) text := by
  obtain ⟨text, told⟩ := writeReport_tells p ⟨edges.flatMap p.evaluate⟩ edges.length s.format
  refine ⟨text, fun c same => ?_⟩
  subst same
  have rest (told' : Work Unit) (quiet : Tells told' "") (code : Nat) : Tells
      (do
        let r ← evaluateEdges p c.edges
        writeReport p r c.edges.length s.format
        if c.failures.isEmpty then
          return if r.isEmpty then exitClean else exitViolations
        else
          told'
          return code) text := by
    refine (evaluateEdges_tells p c.edges).quietly (evaluateEdges_result p c.edges) ?_
    refine told.bind fun _ => ?_
    split
    · exact .pure _
    · exact quiet.bind fun _ => .pure _
  simp only [report]
  split
  · exact (Tells.log _ _ _).quietly (fun _ => rfl) (rest _ (.writeError _) exitFaulty)
  · exact rest _ (.writeError _) exitFaulty

/-- All that a check writes to its output is what its report says. -/
theorem check_told {s : CheckSettings} {t ready : Terminal} {p : Policy} {c : Collection}
    {text : String} (set : t.setUp programLogger s.verbose s.logFile = .ok ready)
    (told : Told t "" ready) (gathered : (gather s).result ready = .ok (p, c))
    (tells : Tells (report s p c) text) : Told t text ((check s).leaves t) := by
  have quiet := gather_tells s ready told.onScreen
  have reported := tells _ quiet.onScreen
  have ended : (check s).leaves t = (report s p c).leaves ((gather s).leaves ready) := by
    simp only [check, leaves_bind, result_get, leaves_get, result_ofExcept, leaves_ofExcept, set,
      mapError_ok, result_set, leaves_set]
    exact leaves_tellingMistakes _ gathered
  rw [ended]
  exact told.quiet_trans (quiet.quiet_trans reported)

end

end ImportBoundary.CommandLine
