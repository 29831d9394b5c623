import ImportBoundary.Path.Basic
import ImportBoundary.Text.Quoted
import ImportBoundary.Text.Utf8

/-!
# Files

A file system is a list of files and directories, each under its names from the root down, and a
current directory. A path is followed step by step from the root or the current directory, so that
every directory on the way has to exist (`follow`); `..` goes back to the directory above.

A system takes no path of more than 4095 bytes and looks up no name of more than 255. Whether something
is there, or what, is asked with `probe`, which fails when the system refuses the path for its length
(`tooLong`); those who swallow that failure ask with `seen?`.
-/

namespace ImportBoundary

open Text

/-- The names from the root down to a file or directory. -/
abbrev Route := List String

/-- What stands at a route. -/
inductive Entry
  | file (bytes : List UInt8)
  | directory
  deriving DecidableEq

/-- Why a path cannot be used. -/
inductive Obstacle
  | missing
  | alreadyThere
  | throughFile
  | isDirectory
  | tooLong
  deriving DecidableEq, Repr

/-- The number and the words by which a system reports an obstacle. -/
def Obstacle.describe : Obstacle → String
  | .missing => "[Errno 2] No such file or directory"
  | .alreadyThere => "[Errno 17] File exists"
  | .throughFile => "[Errno 20] Not a directory"
  | .isDirectory => "[Errno 21] Is a directory"
  | .tooLong => "[Errno 36] File name too long"

/-- An obstacle and the path that it was met with. -/
structure FileFault where
  obstacle : Obstacle
  path : String
  deriving DecidableEq, Repr

def FileFault.message (f : FileFault) : String :=
  s!"{f.obstacle.describe}: {quoted f.path}"

/-- Files and directories. The directories above an entry need no entry of their own. -/
structure FileSystem where
  entries : List (Route × Entry)
  current : Route

namespace FileSystem

/-- What stands at a route. -/
def entry? (fs : FileSystem) (route : Route) : Option Entry :=
  match fs.entries.lookup route with
  | some e => some e
  | none =>
    if route.isPrefixOf fs.current || fs.entries.any fun e => route.isPrefixOf e.1 then
      some .directory
    else none

/-- Goes from a directory to what a piece of a path names. -/
def step (fs : FileSystem) (route : Route) (piece : List Char) : Except Obstacle Route :=
  match fs.entry? route with
  | none => .error .missing
  | some (.file _) => .error .throughFile
  | some .directory =>
    if piece = [] ∨ piece = ['.'] then .ok route
    else if piece = ['.', '.'] then .ok route.dropLast
    else .ok (route ++ [String.ofList piece])

/-- Where a path starts. -/
def startOf (fs : FileSystem) (path : List Char) : Route :=
  if PathChars.isRooted path then [] else fs.current

/-- The route of an existing file or directory. -/
def follow (fs : FileSystem) (path : String) : Except Obstacle Route := do
  let chars := path.toList
  if chars.isEmpty then throw .missing
  let route ← (splitAtChar '/' chars).foldlM fs.step (fs.startOf chars)
  if (fs.entry? route).isNone then throw .missing
  return route

/-- What a path leads to. -/
def at? (fs : FileSystem) (path : String) : Option Entry :=
  match fs.follow path with
  | .ok route => fs.entry? route
  | .error _ => none

/-- The bytes of the longest name that is looked up. -/
def longestName : Nat := 255

/-- The bytes of the longest path that is followed. -/
def longestPath : Nat := 4095

/-- The bytes of a text. -/
def byteLength : List Char → Nat
  | [] => 0
  | c :: rest => c.utf8Size + byteLength rest

/-- Looks a piece of a path up in a directory, as long as it is short enough. -/
def lookUp (fs : FileSystem) (route : Route) (piece : List Char) : Except Obstacle Route :=
  if fs.entry? route = some .directory ∧ longestName < byteLength piece then .error .tooLong
  else fs.step route piece

/-- The path is refused for its length, or for that of a name in a directory that it leads to. -/
def tooLong (fs : FileSystem) (path : String) : Bool :=
  decide (longestPath < byteLength path.toList) ||
    ((splitAtChar '/' path.toList).foldlM fs.lookUp (fs.startOf path.toList)) matches
      .error .tooLong

/-- What a path leads to, unless it is too long. -/
def seen? (fs : FileSystem) (path : String) : Option Entry :=
  if fs.tooLong path then none else fs.at? path

/-- What a path leads to; it is a failure to ask with one that is too long. -/
def probe (fs : FileSystem) (path : String) : Except FileFault (Option Entry) :=
  if fs.tooLong path then .error ⟨.tooLong, path⟩ else .ok (fs.at? path)

/-- A path leads to a file or directory. -/
def contains (fs : FileSystem) (path : String) : Bool :=
  (fs.seen? path).isSome

def isDirectory (fs : FileSystem) (path : String) : Bool :=
  fs.seen? path matches some .directory

def isFile (fs : FileSystem) (path : String) : Bool :=
  fs.seen? path matches some (.file _)

/-- The bytes of a file. -/
def read (fs : FileSystem) (path : String) : Except FileFault (List UInt8) :=
  match fs.follow path with
  | .error obstacle => .error ⟨obstacle, path⟩
  | .ok route =>
    match fs.entry? route with
    | some (.file bytes) => .ok bytes
    | some .directory => .error ⟨.isDirectory, path⟩
    | none => .error ⟨.missing, path⟩

/-- The current directory as a path. -/
def currentPath (fs : FileSystem) : String :=
  "/" ++ "/".intercalate fs.current

/-- A path from the root that names the same place, simplified as text. -/
def absolute (fs : FileSystem) (path : String) : String :=
  String.ofList (PathChars.simplify (PathChars.join fs.currentPath.toList path.toList))

/-- Why a text file cannot be read: the file, or its bytes. -/
inductive ReadFault
  | file (cause : FileFault)
  | bytes (cause : Utf8.Fault)
  deriving Repr

/-- The text of a file, with every line end a newline. -/
def readText (fs : FileSystem) (path : String) : Except ReadFault (List Char) :=
  match fs.read path with
  | .error cause => .error (.file cause)
  | .ok bytes =>
    match Utf8.decode bytes with
    | .error cause => .error (.bytes cause)
    | .ok text => .ok (unifyNewlines text)

/-- The text of a file, with U+FFFD for what cannot be read and every line end a newline. -/
def readTextLossy (fs : FileSystem) (path : String) : Except FileFault (List Char) :=
  (fs.read path).map fun bytes => unifyNewlines (Utf8.decodeLossy bytes)

end FileSystem

namespace Path

/-- A path as a list of names without `.` and empty pieces, after its leading slashes: one, or
exactly two. -/
def tidyChars (p : List Char) : List Char :=
  let lead := PathChars.leadingSlashes p
  let pieces := (splitAtChar '/' p).filter fun piece => piece ≠ [] ∧ piece ≠ ['.']
  let text := List.replicate lead '/' ++ joinWith ['/'] pieces
  if text.isEmpty then ['.'] else text

/-- A path without `.` and empty pieces; `..` stays. -/
def tidy (p : String) : String :=
  String.ofList (tidyChars p.toList)

/-- The path of a name below a tidy path. -/
def child (p name : String) : String :=
  if p = "." then name
  else if p.toList.all (· = '/') then p ++ name
  else p ++ "/" ++ name

/-- The name after the last slash. -/
def lastName (p : String) : String :=
  String.ofList (PathChars.afterLastSlash p.toList)

end Path

end ImportBoundary
