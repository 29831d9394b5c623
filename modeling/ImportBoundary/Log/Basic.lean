import ImportBoundary.Files.Basic

/-!
# Log records

A log record is a message of some weight from a logger. Loggers have dotted names, and what one of them
logs also goes to the handlers of those above it: from `a.b` to `a`, and at last to the root.
-/

namespace ImportBoundary.Log

open Text

/-- How much a message weighs. -/
inductive Level
  | debug
  | info
  | warning
  | error
  | critical
  deriving DecidableEq, Repr

namespace Level

/-- The number by which levels are compared. -/
def rank : Level → Nat
  | .debug => 10
  | .info => 20
  | .warning => 30
  | .error => 40
  | .critical => 50

def name : Level → String
  | .debug => "DEBUG"
  | .info => "INFO"
  | .warning => "WARNING"
  | .error => "ERROR"
  | .critical => "CRITICAL"

/-- Every level. -/
def all : List Level :=
  [.debug, .info, .warning, .error, .critical]

/-- The level of a name. -/
def ofName? (text : String) : Option Level :=
  all.find? fun l => l.name == text

end Level

/-- A message, its weight and the logger that it comes from. -/
structure Record where
  logger : String
  level : Level
  message : String
  deriving DecidableEq, Repr

/-- A record as a line: the level in a column of its own, the logger, the message. -/
def Record.line (r : Record) : String :=
  let gap := String.ofList (List.replicate (8 - r.level.name.length) ' ')
  s!"{r.level.name}{gap} | {r.logger} | {r.message}\n"

/-- Where a handler writes: to the terminal, or on in a file after the bytes that it has already
written there. -/
inductive Target
  | screen
  | file (route : Route) (written : Nat)
  deriving DecidableEq, Repr

/-- What becomes of the records that weigh enough. -/
structure Handler where
  target : Target
  threshold : Level
  deriving DecidableEq, Repr

/-- A logger that has been set up. It lets every record through. -/
structure Logger where
  name : String
  handlers : List Handler
  deriving DecidableEq, Repr

/-- The name of the logger above all others. -/
def rootName : String := "root"

/-- A logger's name; no name is the root's. -/
def loggerName (name : String) : String :=
  if name.isEmpty then rootName else name

/-- The dotted name up to its last dot, unless the dot comes first. -/
def above? (name : List Char) : Option (List Char) :=
  let head := (name.reverse.dropWhile (· ≠ '.')).drop 1
  if head.isEmpty then none else some head.reverse

/-- The dotted names above a name, the nearest first. -/
def namesAbove (name : List Char) : Nat → List String
  | 0 => []
  | fuel + 1 =>
    match above? name with
    | some upper => String.ofList upper :: namesAbove upper fuel
    | none => []

/-- A name and those above it, the root last and only there. -/
def lineage (name : String) : List String :=
  if name = rootName then [rootName]
  else name :: (namesAbove name.toList name.length).filter (· ≠ rootName) ++ [rootName]

end ImportBoundary.Log
