import ImportBoundary.Path.Basic
import ImportBoundary.Text.Quoted

/-!
# Import edges

An edge is one file importing one path. Its paths are normalized: the specifier is resolved against
the directory of the file that imports it.
-/

namespace ImportBoundary

open Text

/-- Where in a file an import stands: the line, from 1 on, and the column, from 0 on. -/
structure Location where
  line : Int
  column : Int := 0
  deriving DecidableEq, Repr

/-- One file importing one path. -/
structure Edge where
  sourceFile : String
  specifier : String
  target : String
  location : Option Location := none
  deriving DecidableEq, Repr

/-- The file that imports is not given by an absolute path. -/
structure RelativeSource where
  sourceFile : String
  deriving DecidableEq, Repr

def RelativeSource.message (r : RelativeSource) : String :=
  s!"source_file must be absolute, got {quoted r.sourceFile}"

/-- The edge of a file importing what a specifier names. -/
def Edge.create (sourceFile specifier : String) (location : Option Location) :
    Except RelativeSource Edge :=
  if Path.isAbsolute sourceFile then
    let source := Path.normalize "/" sourceFile
    .ok { sourceFile := source
          specifier
          target := Path.normalize (Path.parent source) specifier
          location }
  else .error ⟨sourceFile⟩

end ImportBoundary
