import ImportBoundary.Edge.Basic
import ImportBoundary.Json.Basic

/-!
# Violations

A violation is one breach of one rule by one edge: the edge, the rule, the name of the zone or entry
that is breached, and what to tell the reader.
-/

namespace ImportBoundary

/-- The four rules. -/
inductive Rule
  | crossZone
  | restrictedPath
  | directoryPrivate
  | zonePrivate
  deriving DecidableEq, Repr

namespace Rule

/-- The rules in the order in which they are applied. -/
def all : List Rule :=
  [.crossZone, .restrictedPath, .directoryPrivate, .zonePrivate]

/-- The name of a rule in reports. -/
def id : Rule → String
  | .crossZone => "restrict-crosszone-import"
  | .restrictedPath => "restricted-import"
  | .directoryPrivate => "restricted-by-current-dir"
  | .zonePrivate => "restricted-zone-private-import"

/-- The rule of a name. -/
def ofId? (text : String) : Option Rule :=
  all.find? fun r => r.id == text

theorem mem_all (r : Rule) : r ∈ all := by
  cases r <;> decide

theorem ofId?_id (r : Rule) : ofId? r.id = some r := by
  cases r <;> decide

end Rule

/-- One breach of one rule by one edge. -/
structure Violation where
  rule : Rule
  sourceFile : String
  specifier : String
  target : String
  subject : String
  message : String
  location : Option Location := none
  deriving DecidableEq, Repr

namespace Violation

/-- The breach of a rule by an edge; `subject` names the zone or entry that is breached. -/
def ofEdge (rule : Rule) (e : Edge) (subject message : String) : Violation :=
  { rule
    sourceFile := e.sourceFile
    specifier := e.specifier
    target := e.target
    subject
    message
    location := e.location }

/-- The line of a location, null when there is none. -/
def lineJson (location : Option Location) : Json :=
  match location with
  | some l => .int l.line
  | none => .null

/-- The column of a location, null when there is none. -/
def columnJson (location : Option Location) : Json :=
  match location with
  | some l => .int l.column
  | none => .null

/-- A violation as a JSON object. -/
def toJson (v : Violation) : Json :=
  .obj [("rule_id", .str v.rule.id), ("source_file", .str v.sourceFile),
    ("import_specifier", .str v.specifier), ("resolved_import_path", .str v.target),
    ("zone_or_rule_name", .str v.subject), ("message", .str v.message),
    ("line", lineJson v.location), ("column", columnJson v.location)]

end Violation

end ImportBoundary
