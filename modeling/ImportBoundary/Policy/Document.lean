import ImportBoundary.Host
import ImportBoundary.Policy.Basic
import ImportBoundary.Policy.Schema

/-!
# Policy documents

A policy is built from a JSON document and the directory that its paths start from. The directory
is checked first, then the document's shape, then its patterns in order; the first thing that is
wrong is the only one reported, and nothing is built.
-/

namespace ImportBoundary

open Text

namespace Policy

/-- A place in a policy document where patterns stand. -/
inductive PatternList
  | privateFiles
  | scope (index : Nat)
  deriving DecidableEq, Repr

def PatternList.label : PatternList → String
  | .privateFiles => "private_files.regexes"
  | .scope index => s!"zone_private[{index}].filename_regexps"

/-- Why no policy is built. -/
inductive Refusal
  | relativeRoot (root : String)
  | misshapen (fault : Schema.Fault)
  | badPattern (list : PatternList) (index : Nat) (source : String) (cause : Regex.Refusal)

/-- The items of a list; other values have none. -/
def listItems : Json → List Json
  | .arr items => items
  | _ => []

/-- The text of a string; other values have none. -/
def textOf : Json → String
  | .str s => s
  | _ => ""

/-- The items of a list that is the value of a name, if it is there. -/
def itemsAt (v : Json) (name : String) : List Json :=
  listItems ((v.get? name).getD .null)

/-- The text that is the value of a name. -/
def textAt (v : Json) (name : String) : String :=
  textOf ((v.get? name).getD .null)

/-- The texts of a list that is the value of a name. -/
def textsAt (v : Json) (name : String) : List String :=
  (itemsAt v name).map textOf

/-- The paths of a list, each once, in the order in which they first come. -/
def resolveAll (root : String) (paths : List String) : List String :=
  (paths.map (Path.normalize root)).eraseDups

/-- A zone of a document. -/
def zoneOf (root : String) (v : Json) : Zone :=
  { name := textAt v "name"
    paths := resolveAll root (textsAt v "paths")
    uses := resolveAll root (textsAt v "uses") }

/-- A restricted path of a document. -/
def restrictedOf (root : String) (v : Json) : RestrictedPath :=
  { root := Path.normalize root (textAt v "restricted_root")
    whitelist := resolveAll root (textsAt v "whitelist") }

/-! ## Policies -/

section

variable [Host]

/-- The patterns of a list, from position `start` on, or the first that is none. -/
def readPatterns (list : PatternList) (start : Nat) :
    List String → Except Refusal (List Regex.Pattern)
  | [] => .ok []
  | source :: rest =>
    match Host.pattern source with
    | .error cause => .error (.badPattern list start source cause)
    | .ok pattern => (readPatterns list (start + 1) rest).map (pattern :: ·)

/-- The private scopes of a document, from position `start` on. -/
def scopesOf (root : String) (start : Nat) : List Json → Except Refusal (List PrivateScope)
  | [] => .ok []
  | v :: rest =>
    match readPatterns (.scope start) 0 (textsAt v "filename_regexps") with
    | .error refusal => .error refusal
    | .ok fileNames =>
      let scope : PrivateScope :=
        { name := textAt v "name"
          sources := resolveAll root (textsAt v "src")
          fileNames }
      (scopesOf root (start + 1) rest).map (scope :: ·)

/-- The patterns of the section on private files. -/
def privateFilesOf (v : Json) : Except Refusal (List Regex.Pattern) :=
  readPatterns .privateFiles 0 (textsAt ((v.get? "private_files").getD .null) "regexes")

/-- The policy of a document of the right shape; `root` is normalized. -/
def ofShaped (root : String) (v : Json) : Except Refusal Policy :=
  match privateFilesOf v with
  | .error refusal => .error refusal
  | .ok privateFiles =>
    (scopesOf root 0 (itemsAt v "zone_private")).map fun privateScopes =>
      { root
        zones := (itemsAt v "zones").map (zoneOf root)
        restrictedPaths := (itemsAt v "restricted_paths").map (restrictedOf root)
        privateFiles
        privateScopes }

/-- The policy that a document describes for the directory `root`. -/
def ofDocument (root : String) (v : Json) : Except Refusal Policy :=
  if !Path.isAbsolute root then .error (.relativeRoot root)
  else
    match Schema.fault? v with
    | some fault => .error (.misshapen fault)
    | none => ofShaped (Path.normalize "/" root) v

end

end Policy

end ImportBoundary
