import ImportBoundary.Files.Basic

/-!
# Creating files and directories

A file is created in a directory that exists; directories are created together with those above
them. What is there already is kept: a file that is created anew loses its bytes, a directory nothing.
-/

namespace ImportBoundary

open Text

namespace FileSystem

/-- The file system with an entry at a route. -/
def set (fs : FileSystem) (route : Route) (e : Entry) : FileSystem :=
  if (fs.entries.lookup route).isSome then
    { fs with entries := fs.entries.map fun x => if x.1 = route then (route, e) else x }
  else { fs with entries := fs.entries ++ [(route, e)] }

/-- The route of a path whose last name need not exist. -/
def followParent (fs : FileSystem) (path : List Char) : Except Obstacle Route := do
  if path.isEmpty then throw .missing
  let pieces := splitAtChar '/' (PathChars.dropTrailingSlashes path)
  let parent ← pieces.dropLast.foldlM fs.step (fs.startOf path)
  fs.step parent (pieces.getLast?.getD [])

/-- Creates an empty file, or empties the one that is there. -/
def createFile (fs : FileSystem) (path : String) : Except FileFault FileSystem :=
  if fs.tooLong path then .error ⟨.tooLong, path⟩
  else
    match fs.followParent path.toList with
    | .error obstacle => .error ⟨obstacle, path⟩
    | .ok route =>
      match fs.entry? route with
      | some .directory => .error ⟨.isDirectory, path⟩
      | _ => .ok (fs.set route (.file []))

/-- Creates a directory, if it is not there yet. -/
def createDirectory (fs : FileSystem) (path : List Char) : Except FileFault FileSystem :=
  let fail (obstacle : Obstacle) := .error ⟨obstacle, String.ofList path⟩
  if fs.tooLong (String.ofList path) then fail .tooLong
  else
    match fs.followParent path with
    | .error obstacle => fail obstacle
    | .ok route =>
      match fs.entry? route with
      | some .directory => .ok fs
      | some (.file _) => fail .alreadyThere
      | none => .ok (fs.set route .directory)

/-- What stands before the last name of a path, and the last name. -/
def splitLast (path : List Char) : List Char × List Char :=
  let head := PathChars.throughLastSlash path
  (if head.all (· = '/') then head else PathChars.dropTrailingSlashes head,
    PathChars.afterLastSlash path)

/-- Creates a directory after those above it. -/
def createDirectoriesFrom (fs : FileSystem) (path : List Char) :
    Nat → Except FileFault FileSystem
  | 0 => .ok fs
  | fuel + 1 => do
    let (head, tail) := splitLast path
    let (head, tail) := if tail.isEmpty then splitLast head else (head, tail)
    if !head.isEmpty && !tail.isEmpty && !fs.contains (String.ofList head) then
      let fs ← createDirectoriesFrom fs head fuel
      if tail = ['.'] then return fs
      fs.createDirectory path
    else fs.createDirectory path

/-- Creates a directory after those above it, as far as they are not there yet. -/
def createDirectories (fs : FileSystem) (path : List Char) : Except FileFault FileSystem :=
  fs.createDirectoriesFrom path (path.length + 1)

end FileSystem

end ImportBoundary
