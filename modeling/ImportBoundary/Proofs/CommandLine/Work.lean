import ImportBoundary.CommandLine.Run

/-!
# What work comes to

Work on a terminal has a result and leaves a terminal, whether it fails or not. Both are taken
apart along with the work: a command is followed from its inputs to its exit code by its results
alone, and the terminals that are left only say which files are there at each step.
-/

namespace ImportBoundary.CommandLine

open Log

namespace Work

variable {α β : Type}

/-- What work on a terminal results in. -/
def result (work : Work α) (t : Terminal) : Except Failure α :=
  match work t with
  | .ok a _ => .ok a
  | .error failure _ => .error failure

/-- The terminal that work leaves. -/
def leaves (work : Work α) (t : Terminal) : Terminal :=
  match work t with
  | .ok _ after => after
  | .error _ after => after

theorem mapError_ok {ε ε' : Type} (f : ε → ε') (a : α) :
    (Except.ok a).mapError f = .ok a :=
  rfl

@[simp]
theorem result_pure (a : α) (t : Terminal) : (pure a : Work α).result t = .ok a :=
  rfl

/-- Work after other work starts from the terminal that the first has left. -/
theorem result_bind (work : Work α) (next : α → Work β) (t : Terminal) :
    (work >>= next).result t =
      (work.result t).bind fun a => (next a).result (work.leaves t) := by
  simp only [result, leaves, bind, EStateM.bind]
  cases work t <;> rfl

theorem leaves_bind (work : Work α) (next : α → Work β) (t : Terminal) :
    (work >>= next).leaves t =
      match work.result t with
      | .ok a => (next a).leaves (work.leaves t)
      | .error _ => work.leaves t := by
  simp only [result, leaves, bind, EStateM.bind]
  cases work t <;> rfl

@[simp]
theorem result_ofExcept (r : Except Failure α) (t : Terminal) : (ofExcept r).result t = r := by
  cases r <;> rfl

@[simp]
theorem leaves_ofExcept (r : Except Failure α) (t : Terminal) : (ofExcept r).leaves t = t := by
  cases r <;> rfl

@[simp]
theorem result_files (t : Terminal) : files.result t = .ok t.files :=
  rfl

@[simp]
theorem leaves_files (t : Terminal) : files.leaves t = t :=
  rfl

@[simp]
theorem result_get (t : Terminal) : (get : Work Terminal).result t = .ok t :=
  rfl

@[simp]
theorem leaves_get (t : Terminal) : (get : Work Terminal).leaves t = t :=
  rfl

@[simp]
theorem result_set (t t' : Terminal) : (set t' : Work Unit).result t = .ok () :=
  rfl

@[simp]
theorem leaves_set (t t' : Terminal) : (set t' : Work Unit).leaves t = t' :=
  rfl

@[simp]
theorem result_log (logger : String) (level : Level) (message : String) (t : Terminal) :
    (log logger level message).result t = .ok () :=
  rfl

@[simp]
theorem result_write (text : String) (t : Terminal) : (write text).result t = .ok () :=
  rfl

/-- A text is written if the output takes it. -/
theorem result_print [Host] (text : String) (t : Terminal) :
    (print text).result t = if Host.takes text then .ok () else .error .untaken := by
  unfold print
  split <;> rfl

/-- A drawing is written unless there is something wrong with it. -/
theorem result_draw [Host] (drawing : Display.Drawing) (t : Terminal) :
    (draw drawing).result t = ((Host.display drawing).mapError .markup).map fun _ => () := by
  simp only [draw, result_bind, result_ofExcept, result_write]
  cases Host.display drawing <;> rfl

/-- A round of steps that never fail never fails. -/
theorem result_forM (step : α → Work Unit) (quiet : ∀ a t, (step a).result t = .ok ())
    (items : List α) (t : Terminal) : (items.forM step).result t = .ok () := by
  induction items generalizing t with
  | nil => rfl
  | cons a rest ih =>
    rw [List.forM, result_bind, quiet]
    exact ih _

/-- A mistake in a policy or a list of edges is an exit code; any other failure stays one. -/
theorem result_tellingMistakes (hint : Option String) (work : Work α) (next : α → Work Nat)
    (t : Terminal) :
    (tellingMistakes hint work next).result t =
      match work.result t with
      | .ok a => (next a).result (work.leaves t)
      | .error (.configuration _) => .ok exitFaulty
      | .error failure => .error failure := by
  simp only [tellingMistakes, result, leaves]
  cases work t with
  | ok a after => rfl
  | error failure after => cases failure <;> rfl

theorem leaves_tellingMistakes {hint : Option String} {work : Work α} {t : Terminal} {a : α}
    (next : α → Work Nat) (ok : work.result t = .ok a) :
    (tellingMistakes hint work next).leaves t = (next a).leaves (work.leaves t) := by
  simp only [tellingMistakes, result, leaves] at ok ⊢
  cases h : work t with
  | ok b after =>
    rw [h] at ok
    cases ok
    rfl
  | error failure after =>
    rw [h] at ok
    cases ok

end Work

/-- A command line that is run comes to an exit code, or to a failure with exit code 1. -/
theorem run_outcome [Host] (arguments : List String) (t : Terminal) :
    ((run arguments t).exitCode, (run arguments t).failure) =
      match (runMain arguments).result t with
      | .ok exitCode => (exitCode, none)
      | .error failure => (1, some failure) := by
  simp only [run, Work.result]
  cases runMain arguments t <;> rfl

theorem run_terminal [Host] (arguments : List String) (t : Terminal) :
    (run arguments t).terminal = (runMain arguments).leaves t := by
  simp only [run, Work.leaves]
  cases runMain arguments t <;> rfl

end ImportBoundary.CommandLine
