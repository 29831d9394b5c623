import ImportBoundary.CommandLine.Help
import ImportBoundary.Display.Message
import ImportBoundary.Files.Walk
import ImportBoundary.Loading
import ImportBoundary.Log.Terminal
import ImportBoundary.Source.Extraction

/-!
# Running a command line

`check` loads a policy, collects the edges of a list and of sources, evaluates them and reports what
it found; `validatePolicy` only loads a policy. A mistake in a policy or a list of edges ends a
command with exit code 2. A source that cannot be read is passed over, and turns the exit code into
2 at the end. Any other failure leaves the command as it is, with exit code 1.
-/

namespace ImportBoundary.CommandLine

open Log

/-- Work on a terminal that may fail; what has been written by then stays. -/
abbrev Work := EStateM Failure Terminal

namespace Work

/-- Goes on with a result, or fails. -/
def ofExcept {α : Type} (result : Except Failure α) : Work α :=
  match result with
  | .ok a => return a
  | .error failure => throw failure

/-- The files. -/
def files : Work FileSystem := do
  return (← get).files

def write (text : String) : Work Unit :=
  modify (·.write text)

def writeError (text : String) : Work Unit :=
  modify (·.writeError text)

/-- Writes a text that the output has to take. -/
def print [Host] (text : String) : Work Unit :=
  if Host.takes text then write text else throw .untaken

/-- Writes what a drawing shows, unless there is something wrong with it. -/
def draw [Host] (drawing : Display.Drawing) : Work Unit := do
  write (← ofExcept ((Host.display drawing).mapError .markup))

/-- Logs a message. -/
def log (logger : String) (level : Level) (message : String) : Work Unit :=
  modify (·.log ⟨logger, level, message⟩)

end Work

/-! ## Loggers -/

/-- The logger above all of the program's. -/
def programLogger : String := "zoneguard"

def policyLogger : String := "zoneguard.infrastructure.policy_loader"

def edgeLogger : String := "zoneguard.infrastructure.edges"

def sourceLogger : String := "zoneguard.infrastructure.python_imports"

def engineLogger : String := "zoneguard.application.engine"

def commandLogger : String := "zoneguard.cli"

/-! ## Loading -/

/-- The directory that patterns start from: the one given, or else the current one. -/
def rootOf (fs : FileSystem) (root : Option String) : String :=
  match root with
  | some r => Path.unifySlashes (if r.isEmpty then fs.currentPath else fs.absolute r)
  | none => Path.unifySlashes fs.currentPath

/-- The outline of a policy in one line. -/
def outline (p : Policy) : String :=
  s!"Built policy rooted at {p.root}: {p.zones.length} zone(s), " ++
    s!"{p.restrictedPaths.length} restricted path(s), " ++
    s!"{p.privateFiles.length} private regex(es), {p.privateScopes.length} zone-private rule(s)"

section

variable [Host]

/-- Loads a policy. -/
def loadPolicy (path root : String) : Work Policy := do
  let path := Path.tidy path
  let document ← Work.ofExcept (Policy.loadDocument (← Work.files) path)
  Work.log policyLogger .info s!"Loading policy from {path}"
  let policy ← Work.ofExcept (Policy.build root document)
  Work.log policyLogger .debug (outline policy)
  return policy

/-- Loads a list of edges. -/
def loadEdges (path root : String) : Work (List Edge) := do
  let path := Path.tidy path
  let edges ← Work.ofExcept (Edge.load (← Work.files) path root)
  Work.log edgeLogger .debug s!"Loaded {edges.length} edge(s) from {path}"
  return edges

end

/-- What has been collected: edges, and the sources that cannot be read. -/
structure Collection where
  edges : List Edge := []
  failures : List Failure := []

/-- Logs the modules of a statement that lie outside the project. -/
def logSkipped (packages : String) (modules : List String) : Work Unit :=
  if modules.isEmpty then return ()
  else
    let listed := ", ".intercalate modules
    Work.log sourceLogger .debug s!"Skipping imports outside {packages}: {listed}"

section

variable [Host]

/-- Collects the edges of one source. -/
def collectSource (packages : String) (c : Collection) (path : String) : Work Collection := do
  match Extraction.ofFile (← Work.files) path (some packages) with
  | .ok found =>
    found.skipped.forM (logSkipped found.packages)
    Work.log commandLogger .debug s!"{path}: {found.edges.length} import(s)"
    return { c with edges := c.edges ++ found.edges }
  | .error (.source file fault) =>
    let failure := Failure.source file fault
    Work.log commandLogger .info s!"Skipping {failure.message}"
    return { c with failures := c.failures ++ [failure] }
  | .error failure => throw failure

/-- Collects the edges of the sources that a path names. -/
def collectPath (packages : String) (c : Collection) (path : String) : Work Collection := do
  let fs ← Work.files
  let found ← Work.ofExcept ((fs.search FileSystem.defaultExcludes
    (Path.tidy (fs.absolute path))).mapError .file)
  found.foldlM (collectSource packages) c

end

/-! ## Checking -/

/-- What `check` is asked to do. -/
structure CheckSettings where
  sources : List String
  policy : String
  root : Option String
  edges : Option String
  packageRoot : Option String
  format : Format
  logFile : Option String
  verbose : Bool

/-- The words of a value that is there. -/
def nonempty (value : Option String) : Option String :=
  value.filter fun v => !v.isEmpty

/-- Loads the policy and collects all edges. -/
def gather [Host] (s : CheckSettings) : Work (Policy × Collection) := do
  let fs ← Work.files
  let root := rootOf fs s.root
  let packages := (nonempty s.packageRoot).map fun p => rootOf fs (some p)
  let policy ← loadPolicy s.policy root
  let edges ←
    match nonempty s.edges with
    | some path => loadEdges path root
    | none => pure []
  let collection ← s.sources.foldlM (collectPath (packages.getD root)) { edges }
  return (policy, collection)

/-- Logs how many violations an edge has, if any. -/
def logViolations (p : Policy) (e : Edge) : Work Unit :=
  let count := (p.evaluate e).length
  if count = 0 then return ()
  else
    Work.log engineLogger .debug s!"{e.sourceFile} -> {e.specifier}: {count} violation(s)"

/-- The report on some edges. -/
def evaluateEdges (p : Policy) (edges : List Edge) : Work Report := do
  let report := Report.addEdges {} p Rule.all edges
  edges.forM (logViolations p)
  Work.log engineLogger .info s!"Evaluated {edges.length} edge(s): {report.length} violation(s)"
  return report

/-- Writes a report. -/
def writeReport [Host] (p : Policy) (r : Report) (edgeCount : Nat) : Format → Work Unit
  | .jsonLines => do
    if !r.isEmpty then Work.print (r.text ++ "\n")
  | .text => do
    if !r.isEmpty then Work.draw (Display.violationDrawing p.root r.violations)
    Work.write (Display.summaryPanel (r.counts.map fun c => (c.1, (c.2 : Int))) edgeCount)

/-- The exit codes: nothing found, violations found, and something wrong with what was given. -/
def exitClean : Nat := 0
def exitViolations : Nat := 1
def exitFaulty : Nat := 2

/-- Work in which a mistake in a policy or a list of edges is told to the reader. -/
def tellingMistakes {α : Type} (hint : Option String) (work : Work α) (next : α → Work Nat) :
    Work Nat := fun t =>
  match work t with
  | .ok a t => next a t
  | .error (.configuration fault) t =>
    .ok exitFaulty (t.writeError (Display.errorPanel fault.message hint))
  | .error failure t => .error failure t

/-- Reports on what has been collected. -/
def report [Host] (s : CheckSettings) (policy : Policy) (c : Collection) : Work Nat := do
  if c.edges.isEmpty then Work.log commandLogger .warning "No import edges to check"
  let report ← evaluateEdges policy c.edges
  writeReport policy report c.edges.length s.format
  if c.failures.isEmpty then
    return if report.isEmpty then exitClean else exitViolations
  else
    let told := "\n".intercalate (c.failures.map (·.message))
    let hint := s!"{c.failures.length} file(s) were not checked."
    Work.writeError (Display.errorPanel told (some hint))
    return exitFaulty

/-- What to do about a mistake. -/
def mistakeHint : String := "Fix the policy or input files and re-run."

section

variable [Host]

/-- Checks the imports of some sources against a policy. -/
def check (s : CheckSettings) : Work Nat := do
  let ready ← Work.ofExcept (((← get).setUp programLogger s.verbose s.logFile).mapError .file)
  set ready
  tellingMistakes (some mistakeHint) (gather s) fun (policy, c) => report s policy c

/-- Loads a policy and shows its outline. -/
def validatePolicy (path : String) (root : Option String) : Work Nat :=
  tellingMistakes none (do loadPolicy path (rootOf (← Work.files) root)) fun policy => do
    Work.draw (Display.validDrawing path)
    Work.draw (Display.policyDrawing policy)
    return exitClean

end

/-! ## Command lines -/

/-- What the words of a command line ask `check` to do. -/
def checkSettings (w : Words) : CheckSettings :=
  { sources := w.arguments
    policy := (w.value? .policy).getD ""
    root := w.value? .root
    edges := w.value? .edges
    packageRoot := w.value? .packageRoot
    format := ((w.value? .format).bind Format.ofName?).getD .text
    logFile := w.value? .logFile
    verbose := (w.value? .verbose).isSome }

/-- Refuses a command line. -/
def refuse (c : Command) (fault : UsageFault) : Work Nat := do
  Work.writeError (c.refusal fault)
  return exitFaulty

/-- Shows the help on a command, or the version, whichever the words ask for first. -/
def tell? (c : Command) (w : Words) : Option (Work Nat) :=
  let asked := w.options.find? fun o => o.1 = .help || o.1 = .version
  asked.map fun o => do
    Work.write (if o.1 = .help then c.help else versionLine)
    return exitClean

/-- Runs one of the commands of `main`. -/
def runCommand [Host] (c : Command) (arguments : List String) : Work Nat := do
  match readWords c {} arguments with
  | .error fault => refuse c fault
  | .ok w =>
    match tell? c w with
    | some told => told
    | none =>
      match checkWords (← Work.files) c w with
      | .error fault => refuse c fault
      | .ok () =>
        match c with
        | .validatePolicy => validatePolicy (w.arguments.headD "") (w.value? .root)
        | _ => check (checkSettings w)

/-- Runs a command line. -/
def runMain [Host] (arguments : List String) : Work Nat := do
  if arguments.isEmpty then
    Work.writeError Command.main.help
    return exitFaulty
  match readWords .main {} arguments with
  | .error fault => refuse .main fault
  | .ok w =>
    match tell? .main w with
    | some told => told
    | none =>
      match w.arguments with
      | [] => refuse .main .commandMissing
      | name :: rest =>
        match Command.ofName? name with
        | some c => runCommand c rest
        | none =>
          refuse .main (.noCommand name (closeMatches name (Command.subcommands.map (·.name))))

/-- What is left after a command line has been run. -/
structure Outcome where
  exitCode : Nat
  failure : Option Failure
  terminal : Terminal

/-- Runs a command line on a terminal; a failure that nobody expected is exit code 1. -/
def run [Host] (arguments : List String) (t : Terminal) : Outcome :=
  match runMain arguments t with
  | .ok exitCode t => ⟨exitCode, none, t⟩
  | .error failure t => ⟨1, some failure, t⟩

end ImportBoundary.CommandLine
