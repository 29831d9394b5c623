import ImportBoundary.CommandLine.Reading

/-!
# Help

What a command tells about itself: its usage in one line, what it does, and what can be given to it.
-/

namespace ImportBoundary.CommandLine

namespace Command

/-- How a command is called. -/
def usage : Command → String
  | .main => "Usage: zoneguard [OPTIONS] COMMAND [ARGS]..."
  | .check => "Usage: zoneguard check [OPTIONS] [SOURCES]..."
  | .validatePolicy => "Usage: zoneguard validate-policy [OPTIONS] POLICY_FILE"

/-- What a command does and what can be given to it. -/
def description : Command → List String
  | .main => [
    "  Enforce import boundaries between the directories of a codebase.",
    "",
    "Options:",
    "  --version  Show the version and exit.",
    "  --help     Show this message and exit.",
    "",
    "Commands:",
    "  check            Check the imports of SOURCES (files or directories)...",
    "  validate-policy  Load and validate POLICY_FILE without checking any imports."]
  | .check => [
    "  Check the imports of SOURCES (files or directories) against a policy.",
    "",
    "Options:",
    "  --policy FILE             Path to the policy JSON document  [required]",
    "  --root DIRECTORY          Directory policy patterns are resolved against",
    "                            (default: cwd)",
    "  --edges FILE              JSON / JSON-lines file of pre-extracted import edges",
    "  --package-root DIRECTORY  Directory absolute Python imports live under",
    "                            (default: --root)",
    "  --format [text|jsonl]     Output format  [default: text]",
    "  --workers INTEGER RANGE   Evaluate edges on a thread pool of this size",
    "                            [default: 1; x>=1]",
    "  --log-file PATH           Path to log file",
    "  -v, --verbose             Enable verbose (DEBUG) logging to stderr",
    "  --help                    Show this message and exit."]
  | .validatePolicy => [
    "  Load and validate POLICY_FILE without checking any imports.",
    "",
    "Options:",
    "  --root DIRECTORY  Directory policy patterns are resolved against (default:",
    "                    cwd)",
    "  --help            Show this message and exit."]

/-- The help on a command. -/
def help (c : Command) : String :=
  String.join ((c.usage :: "" :: c.description).map (· ++ "\n"))

/-- What is said when a command line is refused. -/
def refusal (c : Command) (fault : UsageFault) : String :=
  let reminder := s!"{c.usage}\nTry '{c.path} --help' for help.\n\n"
  let error := s!"Error: {fault.message}\n"
  if fault.isBare then error else reminder ++ error

end Command

/-- The line that says which version this is. -/
def versionLine : String :=
  "zoneguard, version 0.3.0\n"

end ImportBoundary.CommandLine
