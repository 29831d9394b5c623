import ImportBoundary.Failure

/-!
# Loading the documents of a project

A policy and a list of edges, each from the file that holds it. Paths of files are tidy, as they are
shown in messages.
-/

namespace ImportBoundary

variable [Host]

/-- The document in the file of a policy. -/
def Policy.loadDocument (fs : FileSystem) (path : String) : Except Failure Json := do
  if (← (fs.probe path).mapError .file).isNone then throw (.configuration (.policyMissing path))
  let text ← (fs.readText path).mapError .ofReadFault
  match Host.document text with
  | .error (.malformed cause) => throw (.configuration (.policyUnreadable path cause))
  | .error (.longInteger digits) => throw (.longInteger digits)
  | .error .exhausted => throw .exhausted
  | .ok (.obj fields) => return .obj fields
  | .ok value => throw (.configuration (.policyNoObject path value))

/-- The policy that a document describes, for the directory `root`. -/
def Policy.build (root : String) (document : Json) : Except Failure Policy :=
  (Policy.ofDocument root document).mapError (.ofRefusal document)

/-- The policy in a file, for the directory `root`. -/
def Policy.load (fs : FileSystem) (path root : String) : Except Failure Policy := do
  Policy.build root (← Policy.loadDocument fs path)

/-- The edges in a file; relative sources are taken from the directory `root`. -/
def Edge.load (fs : FileSystem) (path root : String) : Except Failure (List Edge) := do
  if (← (fs.probe path).mapError .file).isNone then throw (.configuration (.edgesMissing path))
  let text ← (fs.readText path).mapError .ofReadFault
  (Edge.listOfText root text).mapError (.ofListFault path)

end ImportBoundary
