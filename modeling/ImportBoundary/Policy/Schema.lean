import ImportBoundary.Json.Display

/-!
# The shape of a policy document

A shape says what a JSON value has to look like. `Shape.faults` lists everything in a value that
is not so, from the outside in; `worst?` picks the one to report: one at the shortest path, and of
those at the path that compares greatest. `document` is the policy's shape as a JSON Schema.
-/

namespace ImportBoundary.Schema

open Text

/-- What a value has to look like. `named` is a shape that the schema defines under a name. -/
inductive Shape
  | text
  | list (item : Shape)
  | record (required : List String) (fields : List (String × Shape))
  | named (name : String) (shape : Shape)

/-- A step from a value into a part of it. -/
inductive Step
  | field (name : String)
  | index (position : Nat)
  deriving DecidableEq, Repr

/-- How a value differs from its shape. -/
inductive Complaint
  | wrongType (value : Json) (wanted : String)
  | unexpected (names : List String)
  | missing (name : String)
  | emptyText

def Complaint.message : Complaint → String
  | .wrongType value wanted => s!"{value.display} is not of type '{wanted}'"
  | .unexpected names =>
    let listed := ", ".intercalate (names.map quoted)
    let verb := if names.length = 1 then "was" else "were"
    s!"Additional properties are not allowed ({listed} {verb} unexpected)"
  | .missing name => s!"{quoted name} is a required property"
  | .emptyText => "'' should be non-empty"

/-- A difference and where in the document it is. -/
structure Fault where
  path : List Step
  complaint : Complaint

namespace Fault

/-- The same difference, seen from one step further out. -/
def under (step : Step) (f : Fault) : Fault :=
  { f with path := step :: f.path }

end Fault

/-- Names in the order of their code points. -/
def sortNames (names : List String) : List String :=
  names.mergeSort fun a b => decide (a ≤ b)

/-- The differences of each item of a list, from position `start` on. -/
def itemFaults (check : Json → List Fault) (start : Nat) : List Json → List Fault
  | [] => []
  | item :: rest =>
    (check item).map (Fault.under (.index start)) ++ itemFaults check (start + 1) rest

/-- The names of a record that its shape does not know, and those that it lacks. -/
def nameFaults (required known : List String) (fields : List (String × Json)) : List Fault :=
  let extra := (fields.map (·.1)).filter fun name => !known.contains name
  let lacking := required.filter fun name => (fields.lookup name).isNone
  (if extra.isEmpty then [] else [⟨[], .unexpected (sortNames extra)⟩]) ++
    lacking.map fun name => ⟨[], .missing name⟩

mutual

/-- All differences between a value and a shape, those of the value itself before those of its
parts. Nothing is said about the parts of a value of the wrong type. -/
def Shape.faults : Shape → Json → List Fault
  | .named _ shape, v => shape.faults v
  | .text, .str s => if s.isEmpty then [⟨[], .emptyText⟩] else []
  | .text, v => [⟨[], .wrongType v "string"⟩]
  | .list item, .arr items => itemFaults item.faults 0 items
  | .list _, v => [⟨[], .wrongType v "array"⟩]
  | .record required known, .obj fields =>
    nameFaults required (known.map (·.1)) fields ++ fieldFaults known fields
  | .record _ _, v => [⟨[], .wrongType v "object"⟩]

/-- The differences of the fields that a record has. -/
def fieldFaults : List (String × Shape) → List (String × Json) → List Fault
  | [], _ => []
  | (name, shape) :: rest, fields =>
    (match fields.lookup name with
      | some v => (shape.faults v).map (Fault.under (.field name))
      | none => []) ++ fieldFaults rest fields

end

/-- The order of steps: positions by number, names by code point, positions before names. -/
def Step.isBelow : Step → Step → Bool
  | .index a, .index b => a < b
  | .field a, .field b => a < b
  | .index _, .field _ => true
  | .field _, .index _ => false

/-- The order of paths, step by step. -/
def isPathBelow : List Step → List Step → Bool
  | [], [] => false
  | [], _ :: _ => true
  | _ :: _, [] => false
  | a :: as, b :: bs => if a = b then isPathBelow as bs else a.isBelow b

/-- The second fault is the one to report of the two: its path is shorter, or as long and greater. -/
def Fault.yieldsTo (a b : Fault) : Bool :=
  b.path.length < a.path.length ||
    (b.path.length == a.path.length && isPathBelow a.path b.path)

/-- The fault to report; the first of those that are equally fit. -/
def worst? : List Fault → Option Fault
  | [] => none
  | f :: rest => some (rest.foldl (fun best g => if best.yieldsTo g then g else best) f)

/-- A list of paths. -/
def pathList : Shape :=
  .named "pathList" (.list .text)

/-- A list of regular expressions. -/
def regexList : Shape :=
  .named "regexList" (.list .text)

/-- The shape of a zone. -/
def zoneShape : Shape :=
  .record ["name", "paths"] [("name", .text), ("paths", pathList), ("uses", pathList)]

/-- The shape of a restricted path. -/
def restrictedShape : Shape :=
  .record ["restricted_root"] [("restricted_root", .text), ("whitelist", pathList)]

/-- The shape of the section on private files. -/
def privateFilesShape : Shape :=
  .record ["regexes"] [("regexes", regexList)]

/-- The shape of a private scope. -/
def scopeShape : Shape :=
  .record ["name", "src", "filename_regexps"]
    [("name", .text), ("src", pathList), ("filename_regexps", regexList)]

/-- The shape of a policy document. -/
def policyShape : Shape :=
  .record [] [("zones", .list zoneShape), ("restricted_paths", .list restrictedShape),
    ("private_files", privateFilesShape), ("zone_private", .list scopeShape)]

/-- The fault of a policy document to report, if it has any. -/
def fault? (v : Json) : Option Fault :=
  worst? (policyShape.faults v)

mutual

/-- A shape as the fields of a JSON Schema. Named shapes stand for themselves. -/
def Shape.toFields : Shape → List (String × Json)
  | .text => [("type", .str "string"), ("minLength", .int 1)]
  | .list item => [("type", .str "array"), ("items", .obj item.toFields)]
  | .record required fields =>
    [("type", .str "object"), ("additionalProperties", .bool false)] ++
      (if required.isEmpty then [] else [("required", .arr (required.map .str))]) ++
      [("properties", .obj (propertyFields fields))]
  | .named name _ => [("$ref", .str ("#/$defs/" ++ name))]

def propertyFields : List (String × Shape) → List (String × Json)
  | [] => []
  | (name, shape) :: rest => (name, .obj shape.toFields) :: propertyFields rest

end

/-- What the schema defines under a name. -/
def definition : Shape → List (String × Json)
  | .named name shape => [(name, .obj shape.toFields)]
  | _ => []

/-- The shape of a policy document as a JSON Schema. -/
def document : Json :=
  .obj ([("$schema", .str "https://json-schema.org/draft/2020-12/schema"),
    ("title", .str "zoneguard policy"),
    ("description",
      .str "Import boundary policy: zones, restricted paths and private-file rules.")] ++
    policyShape.toFields ++
    [("$defs", .obj (definition pathList ++ definition regexList))])

end ImportBoundary.Schema
