import ImportBoundary.CommandLine.Run
import Std.Time.Format

/-!
# The program

Reads the files that a command line is about, runs it on them, and writes what it has written. The
files of the project are those that standard input lists, one path a line, unless it is a keyboard;
files that the command line names need not be listed.
-/

namespace ImportBoundary

/-- The lines of standard input. -/
def listedPaths : IO (List String) := do
  let input ← IO.getStdin
  if ← input.isTty then return []
  let mut paths := []
  let mut line ← input.getLine
  while !line.isEmpty do
    let path := String.ofList (line.toList.filter fun c => c ≠ '\n' && c ≠ '\r')
    if !path.isEmpty then paths := path :: paths
    line ← input.getLine
  return paths.reverse

/-- The names on the way to a path. -/
def routeOf (path : String) : Route :=
  (path.splitOn "/").filter fun name => name ≠ ""

/-- The file system with a file that can be read, as it is on the machine. -/
def withFile (fs : FileSystem) (path : String) : IO FileSystem := do
  try
    let bytes ← IO.FS.readBinFile path
    return fs.set (routeOf (fs.absolute path)) (.file bytes.toList)
  catch _ => return fs

/-- The paths that the words of a command line may name. -/
def namedPaths (words : List String) : List String :=
  words.flatMap fun word =>
    match word.splitOn "=" with
    | _ :: rest => [word, "=".intercalate rest]
    | [] => [word]

/-- The time of day. -/
def timeText : IO String := do
  return (← Std.Time.PlainDateTime.now).format "uuuu-MM-dd HH:mm:ss"

/-- Writes the files that are not as they were. -/
def saveChanges (before after : FileSystem) : IO Unit := do
  for (route, entry) in after.entries do
    if before.entries.lookup route ≠ some entry then
      let path := "/" ++ "/".intercalate route
      match entry with
      | .directory => IO.FS.createDirAll path
      | .file bytes => IO.FS.writeBinFile path ⟨bytes.toArray⟩

/-- Runs a command line. -/
def runProgram (words : List String) : IO UInt32 := do
  let current := routeOf (← IO.currentDir).toString
  let mut files : FileSystem := { entries := [], current }
  for path in (← listedPaths) ++ namedPaths words do
    files ← withFile files path
  let outcome := CommandLine.run words { files, now := ← timeText }
  saveChanges files outcome.terminal.files
  IO.print outcome.terminal.output
  IO.eprint outcome.terminal.errors
  if let some failure := outcome.failure then IO.eprintln failure.message
  return outcome.exitCode.toUInt32

end ImportBoundary

/-- Runs the command line. -/
def main (words : List String) : IO UInt32 :=
  ImportBoundary.runProgram words
