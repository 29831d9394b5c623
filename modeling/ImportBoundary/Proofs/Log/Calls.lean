import ImportBoundary.Proofs.Log.Names
import ImportBoundary.Proofs.Log.Opening

/-!
# Calls that set loggers up

A call gives a logger one handler for the screen and, if it names a log file, one for that file
(`Call.Serves`); those of every other logger stay (`handlersOf_of_call`). What such handlers do with a
record leaves them in place and shows the record once, if it weighs enough (`Call.Serves.handleAll`).
-/

namespace ImportBoundary.Log

open FileSystem

/-! ## Definition -/

/-- A logger, and how it is to be set up. -/
structure Call where
  logger : String
  verbose : Bool
  logFile : Option String
  deriving DecidableEq, Repr

namespace Call

/-- The handlers that a call gives its logger: one for the screen and, if a path is named, one for the
file that the path leads to. -/
inductive Serves (c : Call) (files : FileSystem) : List Handler → Prop
  | screen (bare : c.logFile = none ∨ c.logFile = some "") :
      Serves c files [Terminal.screenHandler c.verbose]
  | file {path : String} {route : Route} {written : Nat} (named : c.logFile = some path)
      (some_char : path ≠ "") (there : Terminal.IsFileAt files path route) :
      Serves c files [Terminal.screenHandler c.verbose, ⟨.file route written, .debug⟩]

/-- The screen shows records of that weight. -/
def admits (c : Call) (l : Level) : Bool :=
  (Terminal.screenHandler c.verbose).threshold.rank ≤ l.rank

end Call

namespace Terminal

/-- Sets a logger up as a call asks for. -/
def call (t : Terminal) (c : Call) : Except FileFault Terminal :=
  t.setUp c.logger c.verbose c.logFile

/-- Makes some calls in turn. -/
def callAll (t : Terminal) (cs : List Call) : Except FileFault Terminal :=
  cs.foldlM call t

/-- Logs some records in turn. -/
def logAll (t : Terminal) (rs : List Record) : Terminal :=
  rs.foldl log t

variable {t u : Terminal} {c : Call}

/-! ## One call -/

/-- What a call does: it gives its logger a handler for the screen, or that one and a log file. -/
theorem call_eq_ok_iff : t.call c = .ok u ↔
    ((c.logFile = none ∨ c.logFile = some "") ∧
      u = t.withHandlers (loggerName c.logger) [screenHandler c.verbose]) ∨
    ∃ path files h, c.logFile = some path ∧ path ≠ "" ∧ openLog t.files path = .ok (files, h) ∧
      u = { t with files := files }.withHandlers (loggerName c.logger)
        [screenHandler c.verbose, h] := by
  unfold call setUp
  dsimp only
  constructor
  · intro called
    split at called
    · next none =>
      cases called
      exact .inl ⟨.inl none, rfl⟩
    · next path some =>
      split at called
      · next empty =>
        cases called
        rw [String.isEmpty_iff.mp empty] at some
        exact .inl ⟨.inr some, rfl⟩
      · next named =>
        cases opened : openLog t.files path with
        | error fault =>
          rw [opened] at called
          cases called
        | ok result =>
          rw [opened] at called
          cases called
          exact .inr ⟨path, _, _, some, mt String.isEmpty_iff.mpr named, opened, rfl⟩
  · rintro (⟨none | empty, rfl⟩ | ⟨path, files, h, some, named, opened, rfl⟩)
    · simp only [none]
    · simp only [empty]
      rfl
    · simp only [some, if_neg (mt String.isEmpty_iff.mp named), opened]
      rfl

/-- A call gives its logger the handlers that it asks for, and files may be created. -/
theorem exists_of_call (called : t.call c = .ok u) : ∃ files handlers,
    t.files.Within files ∧ c.Serves files handlers ∧
      u = { t with files := files }.withHandlers (loggerName c.logger) handlers := by
  rcases call_eq_ok_iff.mp called with ⟨bare, rfl⟩ | ⟨path, files, h, some, named, opened, rfl⟩
  · exact ⟨_, _, .refl _, .screen bare, rfl⟩
  · obtain ⟨within, route, rfl, there⟩ := openLog_opened opened
    exact ⟨_, _, within, .file some named there, rfl⟩

/-- A call that succeeds succeeds where less is there, too. -/
theorem call_within {v : Terminal} (within : v.files.Within t.files)
    (named : ∀ name ∈ v.files.current, IsName name) (called : t.call c = .ok u) :
    ∃ w, v.call c = .ok w ∧ w.files.Within u.files := by
  rcases call_eq_ok_iff.mp called with ⟨bare, rfl⟩ | ⟨path, files, h, some, inner, opened, rfl⟩
  · exact ⟨_, call_eq_ok_iff.mpr (.inl ⟨bare, rfl⟩), within⟩
  · obtain ⟨files', opened', within'⟩ := openLog_within within named opened
    exact ⟨_, call_eq_ok_iff.mpr (.inr ⟨path, files', h, some, inner, opened', rfl⟩), within'⟩

/-- A call changes the handlers of its own logger only. -/
theorem handlersOf_of_call (called : t.call c = .ok u) {name : String}
    (other : name ≠ loggerName c.logger) : u.handlersOf name = t.handlersOf name := by
  obtain ⟨files, handlers, -, -, rfl⟩ := exists_of_call called
  rw [handlersOf_withHandlers, if_neg other]
  rfl

theorem isSetUp_withHandlers (t : Terminal) (name other : String) (handlers : List Handler) :
    (t.withHandlers name handlers).isSetUp other = (decide (other = name) || t.isSetUp other) := by
  unfold withHandlers isSetUp
  rw [List.any_cons, List.any_filter]
  by_cases same : other = name
  · simp [same]
  · have kept (l : Logger) : (l.name != name && l.name == other) = (l.name == other) := by
      by_cases found : l.name = other
      · simp [found, same]
      · simp [found]
    rw [decide_eq_false same, beq_eq_false_iff_ne.mpr (Ne.symm same)]
    simp only [kept]

/-! ## One record -/

/-- The terminal after a record has been handed to some handlers: no logger has changed, all files are
there, and the screen shows `text`. -/
structure Handed (t : Terminal) (text : String) (after : Terminal) : Prop where
  loggers : after.loggers = t.loggers
  files : t.files.Within after.files
  errors : after.errors = t.errors ++ text

theorem writeFile_handed (t : Terminal) (route : Route) (written : Nat) (more : List UInt8) :
    Handed t "" (t.writeFile route written more) := by
  unfold writeFile
  split
  · next bytes file =>
    refine ⟨rfl, within_set fun old entry => ?_, String.append_empty.symm⟩
    rw [file] at entry
    cases entry
    rfl
  · exact ⟨rfl, .refl _, String.append_empty.symm⟩

theorem handle_screen (t : Terminal) (verbose : Bool) (r : Record) :
    (t.handle (screenHandler verbose) r).2 = screenHandler verbose ∧
      Handed t (if (screenHandler verbose).threshold.rank ≤ r.level.rank then r.line else "")
        (t.handle (screenHandler verbose) r).1 := by
  rw [handle]
  split
  · next light =>
    rw [if_neg (Nat.not_le.mpr light)]
    exact ⟨rfl, rfl, .refl _, String.append_empty.symm⟩
  · next heavy =>
    rw [if_pos (Nat.not_lt.mp heavy)]
    exact ⟨rfl, rfl, .refl _, rfl⟩

theorem handle_file (t : Terminal) (route : Route) (written : Nat) (r : Record) :
    ∃ written', (t.handle ⟨.file route written, .debug⟩ r).2 = ⟨.file route written', .debug⟩ ∧
      Handed t "" (t.handle ⟨.file route written, .debug⟩ r).1 := by
  have heavy : ¬ r.level.rank < Level.debug.rank := by
    cases r.level <;> decide
  rw [handle, if_neg heavy]
  exact ⟨_, rfl, writeFile_handed t _ _ _⟩

end Terminal

open Terminal

/-- The handlers of a call stay those of the call, and the screen shows a record once or not at all. -/
theorem Call.Serves.handleAll {c : Call} {t : Terminal} {handlers : List Handler}
    (serves : c.Serves t.files handlers) (r : Record) :
    Handed t (if c.admits r.level then r.line else "") (t.handleAll r handlers).1 ∧
      c.Serves (t.handleAll r handlers).1.files (t.handleAll r handlers).2 := by
  obtain ⟨same, shown⟩ := handle_screen t c.verbose r
  simp only [Call.admits, decide_eq_true_iff]
  cases serves with
  | screen bare =>
    simp only [Terminal.handleAll, same]
    exact ⟨shown, .screen bare⟩
  | @file path route written named some_char there =>
    obtain ⟨written', same', quiet⟩ := handle_file (t.handle (screenHandler c.verbose) r).1 route written r
    simp only [Terminal.handleAll, same, same']
    refine ⟨⟨?_, ?_, ?_⟩, .file named some_char ?_⟩
    · rw [quiet.loggers, shown.loggers]
    · exact shown.files.trans quiet.files
    · rw [quiet.errors, shown.errors, String.append_empty]
    · exact there.within (shown.files.trans quiet.files)

theorem Call.Serves.within {c : Call} {fs gs : FileSystem} {handlers : List Handler}
    (serves : c.Serves fs handlers) (within : fs.Within gs) : c.Serves gs handlers := by
  cases serves with
  | screen bare => exact .screen bare
  | file named some_char there => exact .file named some_char (there.within within)

end ImportBoundary.Log
