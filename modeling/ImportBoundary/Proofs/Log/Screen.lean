import ImportBoundary.Log.Terminal

/-!
# Logging to the screen

While no logger has a log file, what is logged goes to the output for errors. Files and output stay as
they are, and loggers stay without log files (`Told.log`).
-/

namespace ImportBoundary.Log

namespace Terminal

/-- No logger has a log file. -/
def OnScreen (t : Terminal) : Prop :=
  ∀ l ∈ t.loggers, ∀ h ∈ l.handlers, h.target = .screen

/-- A terminal after `text` has been written to its output and anything to its output for errors. -/
structure Told (t : Terminal) (text : String) (after : Terminal) : Prop where
  files : after.files = t.files
  output : after.output = t.output ++ text
  onScreen : after.OnScreen

variable {t u v : Terminal} {text more : String}

theorem OnScreen.handlersOf (screen : t.OnScreen) (name : String) :
    ∀ h ∈ t.handlersOf name, h.target = .screen := by
  rw [Terminal.handlersOf]
  cases found : t.loggers.find? fun l => l.name == name with
  | none => exact fun _ hh => absurd hh List.not_mem_nil
  | some l => exact screen l (List.mem_of_find?_eq_some found)

namespace Told

theorem refl (screen : t.OnScreen) : Told t "" t :=
  ⟨rfl, String.append_empty.symm, screen⟩

theorem trans (first : Told t text u) (second : Told u more v) : Told t (text ++ more) v where
  files := second.files.trans first.files
  output := by rw [second.output, first.output, String.append_assoc]
  onScreen := second.onScreen

theorem quiet_trans (first : Told t "" u) (second : Told u text v) : Told t text v := by
  have both := first.trans second
  rwa [String.empty_append] at both

theorem trans_quiet (first : Told t text u) (second : Told u "" v) : Told t text v := by
  have both := first.trans second
  rwa [String.append_empty] at both

theorem writeError (screen : t.OnScreen) (message : String) : Told t "" (t.writeError message) :=
  ⟨rfl, String.append_empty.symm, screen⟩

theorem write (screen : t.OnScreen) (text : String) : Told t text (t.write text) :=
  ⟨rfl, rfl, screen⟩

theorem withHandlers (screen : t.OnScreen) (name : String) {handlers : List Handler}
    (shown : ∀ h ∈ handlers, h.target = .screen) : Told t "" (t.withHandlers name handlers) where
  files := rfl
  output := String.append_empty.symm
  onScreen := by
    intro l hl
    rcases List.mem_cons.mp hl with rfl | kept
    · exact shown
    · exact screen l (List.mem_filter.mp kept).1

/-! ## Handlers -/

theorem handle (screen : t.OnScreen) {h : Handler} (shown : h.target = .screen) (r : Record) :
    Told t "" (t.handle h r).1 ∧ (t.handle h r).2 = h := by
  rw [Terminal.handle]
  split
  · exact ⟨.refl screen, rfl⟩
  · rw [shown]
    exact ⟨.writeError screen _, rfl⟩

theorem handleAll (screen : t.OnScreen) {handlers : List Handler}
    (shown : ∀ h ∈ handlers, h.target = .screen) (r : Record) :
    Told t "" (t.handleAll r handlers).1 ∧ (t.handleAll r handlers).2 = handlers := by
  induction handlers generalizing t with
  | nil => exact ⟨.refl screen, rfl⟩
  | cons h rest ih =>
    obtain ⟨told, same⟩ := handle screen (shown h List.mem_cons_self) r
    obtain ⟨told', same'⟩ := ih told.onScreen fun h' hh => shown h' (List.mem_cons_of_mem h hh)
    simp only [Terminal.handleAll, same, same']
    exact ⟨told.quiet_trans told', trivial⟩

theorem handleAt (screen : t.OnScreen) (r : Record) (name : String) :
    Told t "" (t.handleAt r name) := by
  rw [Terminal.handleAt]
  split
  · have shown := screen.handlersOf name
    obtain ⟨told, same⟩ := handleAll screen shown r
    refine told.quiet_trans (withHandlers told.onScreen name ?_)
    rw [same]
    exact shown
  · exact .refl screen

/-- What is logged leaves files and output as they are. -/
theorem log (screen : t.OnScreen) (r : Record) : Told t "" (t.log r) := by
  have handled (r : Record) (names : List String) :
      Told t "" (names.foldl (fun t name => t.handleAt r name) t) := by
    induction names generalizing t with
    | nil => exact .refl screen
    | cons name rest ih =>
      have first := handleAt screen r name
      exact first.quiet_trans (ih first.onScreen)
  simp only [Terminal.log]
  split
  · exact .refl screen
  · split
    · exact handled _ _
    · exact .writeError screen _

end Told

/-- A program that is set up without a log file logs to the screen. -/
theorem setUp_told (screen : t.OnScreen) (name : String) (verbose : Bool) :
    ∃ ready, t.setUp name verbose none = .ok ready ∧ Told t "" ready := by
  refine ⟨_, rfl, .withHandlers screen _ ?_⟩
  intro h hh
  rw [List.mem_singleton.mp hh]
  rfl

end Terminal

end ImportBoundary.Log
