import ImportBoundary.Files.Basic
import ImportBoundary.Number.Integer

/-!
# Parameters

The commands and what can be given to each of them: options by name, and arguments by place. A value
is checked as soon as it is looked at (`check`): some have to name a file or a directory that is
there, others are one of a few words or a number.
-/

namespace ImportBoundary.CommandLine

open Text

/-- What can be given to a command. -/
inductive Parameter
  | sources
  | policyFile
  | policy
  | root
  | edges
  | packageRoot
  | format
  | workers
  | logFile
  | verbose
  | version
  | help
  deriving DecidableEq, Repr

namespace Parameter

/-- The names of an option, the long one first; an argument has none. -/
def names : Parameter → List String
  | .sources | .policyFile => []
  | .policy => ["--policy"]
  | .root => ["--root"]
  | .edges => ["--edges"]
  | .packageRoot => ["--package-root"]
  | .format => ["--format"]
  | .workers => ["--workers"]
  | .logFile => ["--log-file"]
  | .verbose => ["--verbose", "-v"]
  | .version => ["--version"]
  | .help => ["--help"]

/-- The name of a parameter in messages. -/
def label : Parameter → String
  | .sources => "[SOURCES]..."
  | .policyFile => "POLICY_FILE"
  | p => p.names.headD ""

/-- The option is followed by a value. -/
def takesValue : Parameter → Bool
  | .verbose | .version | .help => false
  | _ => true

/-- The command cannot do without the parameter. -/
def isRequired : Parameter → Bool
  | .policy | .policyFile => true
  | _ => false

end Parameter

/-- The commands; `main` is the one that the others are given to. -/
inductive Command
  | main
  | check
  | validatePolicy
  deriving DecidableEq, Repr

namespace Command

/-- The parameters of a command in the order in which they are listed. -/
def parameters : Command → List Parameter
  | .main => [.version, .help]
  | .check => [.sources, .policy, .root, .edges, .packageRoot, .format, .workers, .logFile, .verbose,
      .help]
  | .validatePolicy => [.policyFile, .root, .help]

/-- The argument of a command. -/
def argument? : Command → Option Parameter
  | .main => none
  | .check => some .sources
  | .validatePolicy => some .policyFile

/-- The names of all options of a command that are not single letters. -/
def longNames (c : Command) : List String :=
  c.parameters.flatMap fun p => p.names.filter fun n => "--".toList.isPrefixOf n.toList

/-- The option of a name. -/
def option? (c : Command) (name : String) : Option Parameter :=
  c.parameters.find? fun p => p.names.contains name

/-- The name of a command among the words that start it. -/
def name : Command → String
  | .main => "zoneguard"
  | .check => "check"
  | .validatePolicy => "validate-policy"

/-- The commands that can be given to `main`. -/
def subcommands : List Command :=
  [.check, .validatePolicy]

/-- The command of a name. -/
def ofName? (text : String) : Option Command :=
  subcommands.find? fun c => c.name == text

/-- The words that start a command. -/
def path : Command → String
  | .main => Command.main.name
  | c => Command.main.name ++ " " ++ c.name

end Command

/-! ## Values -/

/-- What a path should lead to. -/
inductive Place
  | file
  | directory
  | either
  deriving DecidableEq, Repr

def Place.name : Place → String
  | .file => "File"
  | .directory => "Directory"
  | .either => "Path"

/-- What is wrong with a value. -/
inductive ValueFault
  | missing (place : Place) (path : String)
  | isDirectory (path : String)
  | isFile (path : String)
  | noFormat (text : String)
  | noInteger (text : String)
  | noWorkers (count : Int)
  deriving DecidableEq, Repr

def ValueFault.message : ValueFault → String
  | .missing place path => s!"{place.name} {quoted path} does not exist."
  | .isDirectory path => s!"{Place.file.name} {quoted path} is a directory."
  | .isFile path => s!"{Place.directory.name} {quoted path} is a file."
  | .noFormat text => s!"{quoted text} is not one of 'text', 'jsonl'."
  | .noInteger text => s!"{quoted text} is not a valid integer range."
  | .noWorkers count => s!"{count} is not in the range x>=1."

/-- How violations are written. -/
inductive Format
  | text
  | jsonLines
  deriving DecidableEq, Repr

namespace Format

def name : Format → String
  | .text => "text"
  | .jsonLines => "jsonl"

/-- The format of a name. -/
def ofName? (text : String) : Option Format :=
  [Format.text, .jsonLines].find? fun f => f.name == text

end Format

/-- A path has to lead to a file. -/
def checkFile (fs : FileSystem) (path : String) : Except ValueFault Unit :=
  match fs.seen? path with
  | none => .error (.missing .file path)
  | some .directory => .error (.isDirectory path)
  | some (.file _) => .ok ()

/-- A path must not lead to a file. -/
def checkDirectory (fs : FileSystem) (path : String) : Except ValueFault Unit :=
  if fs.isFile path then .error (.isFile path) else .ok ()

/-- A path has to lead somewhere. -/
def checkThere (fs : FileSystem) (path : String) : Except ValueFault Unit :=
  if fs.contains path then .ok () else .error (.missing .either path)

/-- The format that a text names. -/
def formatOf (text : String) : Except ValueFault Format :=
  match Format.ofName? text with
  | some f => .ok f
  | none => .error (.noFormat text)

/-- The number of workers that a text denotes. -/
def workersOf (text : String) : Except ValueFault Int :=
  match Number.integer? text.toList with
  | none => .error (.noInteger text)
  | some n => if n < 1 then .error (.noWorkers n) else .ok n

/-- The value is one that the parameter can have. -/
def Parameter.check (fs : FileSystem) (value : String) : Parameter → Except ValueFault Unit
  | .policy | .policyFile | .edges => checkFile fs value
  | .root | .packageRoot => checkDirectory fs value
  | .sources => checkThere fs value
  | .format => (formatOf value).map fun _ => ()
  | .workers => (workersOf value).map fun _ => ()
  | .logFile | .verbose | .version | .help => .ok ()

end ImportBoundary.CommandLine
