import ImportBoundary.Files.Creation
import ImportBoundary.Log.Basic

/-!
# Logging

A terminal is what a program runs on: files, loggers, and what it has written to its two outputs.
`setUp` gives a logger its handlers in the place of those it had, and `log` hands a record to every
handler above it. `handlersOf_withHandlers` says that giving handlers to a logger replaces its own and
leaves those of the others alone.
-/

namespace ImportBoundary.Log

/-- What a program runs on. `now` is the time that log files show. -/
structure Terminal where
  files : FileSystem
  now : String
  loggers : List Logger := []
  output : String := ""
  errors : String := ""

namespace Terminal

/-- The handlers of a logger. -/
def handlersOf (t : Terminal) (name : String) : List Handler :=
  ((t.loggers.find? fun l => l.name == name).map (·.handlers)).getD []

/-- A logger has been set up. -/
def isSetUp (t : Terminal) (name : String) : Bool :=
  t.loggers.any fun l => l.name == name

/-- Gives a logger its handlers. -/
def withHandlers (t : Terminal) (name : String) (handlers : List Handler) : Terminal :=
  { t with loggers := ⟨name, handlers⟩ :: t.loggers.filter fun l => l.name != name }

/-- The handler for the terminal. -/
def screenHandler (verbose : Bool) : Handler :=
  ⟨.screen, if verbose then .debug else .warning⟩

/-- Opens a log file that holds nothing yet, in a directory that is created with it. -/
def openLog (files : FileSystem) (path : String) : Except FileFault (FileSystem × Handler) := do
  let directory := (FileSystem.splitLast path.toList).1
  let files ← if directory.isEmpty then pure files else files.createDirectories directory
  let absolute := files.absolute path
  let files ← files.createFile absolute
  let route ← (files.follow absolute).mapError fun obstacle => ⟨obstacle, absolute⟩
  return (files, ⟨.file route 0, .debug⟩)

/-- Sets a logger up: the terminal shows its warnings, or everything; the log file, if there is one,
takes everything. -/
def setUp (t : Terminal) (name : String) (verbose : Bool) (logFile : Option String) :
    Except FileFault Terminal :=
  let name := loggerName name
  match logFile with
  | none => .ok (t.withHandlers name [screenHandler verbose])
  | some path =>
    if path.isEmpty then .ok (t.withHandlers name [screenHandler verbose])
    else
      (openLog t.files path).map fun (files, handler) =>
        { t with files }.withHandlers name [screenHandler verbose, handler]

/-- Writes to the output for errors. -/
def writeError (t : Terminal) (text : String) : Terminal :=
  { t with errors := t.errors ++ text }

/-- Writes to the output. -/
def write (t : Terminal) (text : String) : Terminal :=
  { t with output := t.output ++ text }

/-- A file's bytes with others written over them from a place on. -/
def overwrite (bytes : List UInt8) (place : Nat) (more : List UInt8) : List UInt8 :=
  bytes.take place ++ List.replicate (place - bytes.length) 0 ++ more ++
    bytes.drop (place + more.length)

/-- Writes on in a file, when `written` bytes have been written. -/
def writeFile (t : Terminal) (route : Route) (written : Nat) (more : List UInt8) : Terminal :=
  match t.files.entry? route with
  | some (.file bytes) =>
    { t with files := t.files.set route (.file (overwrite bytes written more)) }
  | _ => t

/-- What a handler does with a record, and the handler after it. -/
def handle (t : Terminal) (h : Handler) (r : Record) : Terminal × Handler :=
  if r.level.rank < h.threshold.rank then (t, h)
  else
    match h.target with
    | .screen => (t.writeError r.line, h)
    | .file route written =>
      let bytes := (s!"{t.now} | {r.line}").toUTF8.toList
      (t.writeFile route written bytes, { h with target := .file route (written + bytes.length) })

/-- Hands a record to some handlers in turn. -/
def handleAll (t : Terminal) (r : Record) : List Handler → Terminal × List Handler
  | [] => (t, [])
  | h :: hs =>
    let (t, h) := t.handle h r
    let (t, hs) := t.handleAll r hs
    (t, h :: hs)

/-- Hands a record to the handlers of a logger. -/
def handleAt (t : Terminal) (r : Record) (name : String) : Terminal :=
  if t.isSetUp name then
    let (after, handlers) := t.handleAll r (t.handlersOf name)
    after.withHandlers name handlers
  else t

/-- The least weight that passes a logger: everything does once it or one above it is set up. -/
def leastRank (t : Terminal) (names : List String) : Nat :=
  if names.any t.isSetUp then Level.debug.rank else Level.warning.rank

/-- Logs a record: every logger from its own up to the root hands it to its handlers. When there is
no handler at all, the bare message goes to the output for errors. -/
def log (t : Terminal) (r : Record) : Terminal :=
  let r := { r with logger := loggerName r.logger }
  let names := lineage r.logger
  if r.level.rank < t.leastRank names then t
  else if names.any t.isSetUp then names.foldl (fun t name => t.handleAt r name) t
  else t.writeError (r.message ++ "\n")

theorem handlersOf_withHandlers (t : Terminal) (name other : String) (handlers : List Handler) :
    (t.withHandlers name handlers).handlersOf other =
      if other = name then handlers else t.handlersOf other := by
  by_cases h : other = name
  · subst h; simp [handlersOf, withHandlers]
  · have h' : (name == other) = false := by simp [Ne.symm h]
    have find : ∀ ls : List Logger,
        (ls.filter fun l => l.name != name).find? (fun l => l.name == other) =
          ls.find? fun l => l.name == other := by
      intro ls
      induction ls with
      | nil => rfl
      | cons l ls ih =>
        by_cases hl : l.name = name
        · have hne : (l.name == other) = false := by rw [hl]; exact h'
          simp [hl, ih, h']
        · simp only [List.filter_cons, bne_iff_ne, ne_eq, hl, not_false_eq_true, if_true,
            List.find?_cons, ih]
    simp [handlersOf, withHandlers, h', h, find]

end Terminal

end ImportBoundary.Log
