import ImportBoundary.Path.Basic
import ImportBoundary.Regex.Matching

/-!
# Policies

What a project allows its files to import. Every path of a policy is one absolute, normalized
spelling, so that "lies under" can be read off the text.
-/

namespace ImportBoundary

/-- A named group of directories, and the directories its files may import from. -/
structure Zone where
  name : String
  paths : List String
  uses : List String := []

namespace Zone

/-- The roots that the zone's files may import from: a zone may always import from itself. -/
def reach (z : Zone) : List String :=
  z.uses ++ z.paths

/-- The file lies in the zone. -/
def holds (z : Zone) (file : String) : Bool :=
  Path.anyCovers z.paths file

/-- The zone's files may import the target. -/
def allows (z : Zone) (target : String) : Bool :=
  Path.anyCovers z.reach target

end Zone

/-- A directory that only files under one of the listed roots may import from. -/
structure RestrictedPath where
  root : String
  whitelist : List String := []

/-- Files with certain names under `sources`, which only files under `sources` may import. -/
structure PrivateScope where
  name : String
  sources : List String
  fileNames : List Regex.Pattern := []

/-- The scope's patterns match the file name. -/
def PrivateScope.coversName (s : PrivateScope) (fileName : String) : Bool :=
  s.fileNames.any (·.isFoundIn fileName)

/-- The rules of a project. A file whose name matches one of `privateFiles` is private to its
directory. -/
structure Policy where
  root : String
  zones : List Zone := []
  restrictedPaths : List RestrictedPath := []
  privateFiles : List Regex.Pattern := []
  privateScopes : List PrivateScope := []

namespace Policy

/-- The zones that the file lies in, in the order of the policy. -/
def zonesOf (p : Policy) (file : String) : List Zone :=
  p.zones.filter (·.holds file)

/-- The first pattern by which a file name is private to its directory. -/
def privatePattern? (p : Policy) (fileName : String) : Option Regex.Pattern :=
  p.privateFiles.find? (·.isFoundIn fileName)

end Policy

end ImportBoundary
