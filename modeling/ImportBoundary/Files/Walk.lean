import ImportBoundary.Files.Basic

/-!
# Finding the sources of a project

The Python files that a list of paths names: a path of a file names that file, a path of a directory
everything below it whose name ends in `.py`, in the order of the names on the way (`isBefore`), but
for what lies in an excluded directory.
-/

namespace ImportBoundary

namespace FileSystem

/-- The directories that are not searched when nothing else is asked for. -/
def defaultExcludes : List String :=
  [".git", ".venv", "venv", "__pycache__", "node_modules", "dist", "build", ".mypy_cache",
    ".pytest_cache"]

/-- The end of a source's name. -/
def sourceSuffix : List Char :=
  ".py".toList

/-- The name ends in the suffix. -/
def hasSourceSuffix (name : String) : Bool :=
  sourceSuffix.isSuffixOf name.toList

/-- The name is more than the suffix, and ends in it. -/
def isSourceName (name : String) : Bool :=
  hasSourceSuffix name && sourceSuffix.length < name.toList.length

/-- The order of routes, name by name. -/
def isBefore : Route → Route → Bool
  | [], _ => true
  | _ :: _, [] => false
  | a :: as, b :: bs => if a = b then isBefore as bs else decide (a < b)

/-- What follows a route in a longer one. -/
def below? (base route : Route) : Option Route :=
  if base.isPrefixOf route && base.length < route.length then some (route.drop base.length)
  else none

/-- Everything on the way to a route, the route itself last. -/
def waysTo (route : Route) : List Route :=
  (List.range route.length).map fun n => route.take (n + 1)

/-- The routes below a directory, each relative to it and once, in order. -/
def routesBelow (fs : FileSystem) (base : Route) : List Route :=
  let ways := ((fs.current :: fs.entries.map (·.1)).filterMap (below? base)).flatMap waysTo
  ways.eraseDups.mergeSort isBefore

/-- The directories below a directory that a tidy path names. -/
def directoriesBelow (fs : FileSystem) (root : String) : List String :=
  match fs.follow root with
  | .error _ => []
  | .ok route =>
    let found := (fs.routesBelow route).filter fun r => fs.entry? (route ++ r) = some .directory
    found.map fun r => Path.child root ("/".intercalate r)

/-- The sources that a tidy path names. -/
def sourcesAt (fs : FileSystem) (excluded : List String) (root : String) : List String :=
  match fs.follow root with
  | .error _ => []
  | .ok route =>
    match fs.entry? route with
    | some (.file _) => if isSourceName (Path.lastName root) then [root] else []
    | _ =>
      let found := (fs.routesBelow route).filter fun r =>
        (r.getLast?.map hasSourceSuffix).getD false && !r.any excluded.contains
      found.map fun r => Path.child root ("/".intercalate r)

/-- The sources that a tidy path names, as far as they can be searched for: neither the path nor that of a
directory below it may be too long. -/
def search (fs : FileSystem) (excluded : List String) (root : String) :
    Except FileFault (List String) := do
  let _ ← fs.probe root
  match (fs.directoriesBelow root).find? fun path => longestPath < byteLength path.toList with
  | some path => throw ⟨.tooLong, path⟩
  | none => return fs.sourcesAt excluded root

/-- The sources that a list of tidy paths names, path by path. -/
def sources (fs : FileSystem) (excluded : List String) (roots : List String) : List String :=
  roots.flatMap (fs.sourcesAt excluded)

end FileSystem

end ImportBoundary
