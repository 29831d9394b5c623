import ImportBoundary.Failure
import ImportBoundary.Source.Import

/-!
# The edges of a source

An import statement gives one edge for each module that it names. A module given by dots is a path
from the source's directory; any other is a path from the directory of packages, and counts only if
its package stands there.
-/

namespace ImportBoundary

open Text Source

namespace Source

/-- The path that a dotted name stands for. -/
def modulePath (module : String) : String :=
  module.map fun c => if c = '.' then '/' else c

/-- The way from a source's directory to the one `level` steps up. -/
def levelPath : Nat → String
  | 1 => "./"
  | level => String.join (List.replicate (level - 1) "../")

/-- The outermost package of a dotted name. -/
def packageOf (module : String) : String :=
  String.ofList (module.toList.takeWhile (· ≠ '.'))

/-- A package is at a path: a directory, or a file behind whose name `.py` is put. -/
def hasPackage (fs : FileSystem) (path : String) : Except FileFault Bool := do
  if (← fs.probe path) = some .directory then return true
  return (← fs.probe (path ++ ".py")) matches some (.file _)

/-- Where the outermost package of a module is looked for. -/
def packagePath (packages module : String) : String :=
  Path.child (Path.tidy (if packages.isEmpty then "/" else packages)) (packageOf module)

/-- The module's package stands in the directory of packages. -/
def isLocal (fs : FileSystem) (packages module : String) : Except FileFault Bool :=
  if packageOf module = "" ∨ packageOf module = "__future__" then .ok false
  else hasPackage fs (packagePath packages module)

/-- The modules whose packages stand in the directory of packages. -/
def localModules (fs : FileSystem) (packages : String) : List String → Except FileFault (List String)
  | [] => .ok []
  | module :: modules => do
    let here ← isLocal fs packages module
    let others ← localModules fs packages modules
    return if here then module :: others else others

/-- The modules that a statement names in full. -/
def absoluteModules : Imported → List String
  | .modules names => names
  | .names 0 module _ => [module.getD ""]
  | .names _ _ _ => []

/-- The specifiers of the modules that a statement names from its directory. -/
def relativeSpecifiers : Imported → List String
  | .modules _ => []
  | .names 0 _ _ => []
  | .names level (some module) _ => [levelPath level ++ modulePath module]
  | .names level none names => names.map (levelPath level ++ ·)

/-- The specifiers of a statement, of whose modules those in `here` stand in the directory of packages. -/
def specifiers (packages : String) (imported : Imported) (here : List String) : List String :=
  relativeSpecifiers imported ++ here.map fun module => packages ++ "/" ++ modulePath module

/-- The modules of a statement that lie outside the project. -/
def outsiders (imported : Imported) (here : List String) : List String :=
  (absoluteModules imported).filter fun module => !here.contains module

/-- The directory of packages: the one that is given, or else the source's. -/
def packagesOf (sourceFile : String) (given : Option String) : String :=
  let directory :=
    match given with
    | some d => if d.isEmpty then Path.parent sourceFile else Path.unifySlashes d
    | none => Path.parent sourceFile
  Path.dropTrailingSlashes directory

end Source

/-- The edges of a source, and for each of its statements the modules outside the project. -/
structure Extraction where
  edges : List Edge
  packages : String
  skipped : List (List String)

/-- The edges of one statement of a source, and its modules outside the project. -/
def Edge.ofImport (fs : FileSystem) (packages sourceFile : String) (i : Import) :
    Except Failure (List Edge × List String) := do
  let here ← (localModules fs packages (absoluteModules i.imported)).mapError .file
  let edges ← (specifiers packages i.imported here).mapM fun specifier =>
    (Edge.create sourceFile specifier (some ⟨i.line, i.column⟩)).mapError .relativeSource
  return (edges, outsiders i.imported here)

/-- The edges of the statements of a source, which stands in the file `path`. -/
def Extraction.ofImports (fs : FileSystem) (path : String) (imports : List Import)
    (packages : Option String) : Except Failure Extraction := do
  let sourceFile := Path.unifySlashes path
  let packages := packagesOf sourceFile packages
  let found ← imports.mapM (Edge.ofImport fs packages sourceFile)
  return { edges := (found.map (·.1)).flatten, packages, skipped := found.map (·.2) }

section

variable [Host]

/-- The edges of a source's text, which stands in the file `path`. -/
def Extraction.ofText (fs : FileSystem) (path : String) (text : List Char)
    (packages : Option String) : Except Failure Extraction := do
  let imports ← (Host.imports text).mapError (.ofParseFailure (Path.unifySlashes path))
  Extraction.ofImports fs path imports packages

/-- The edges of the source in the file `path`. -/
def Extraction.ofFile (fs : FileSystem) (path : String) (packages : Option String) :
    Except Failure Extraction := do
  let _ ← (fs.probe path).mapError .file
  Extraction.ofText fs path (← (fs.readTextLossy path).mapError .file) packages

end

end ImportBoundary
