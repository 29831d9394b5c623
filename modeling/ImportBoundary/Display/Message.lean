import ImportBoundary.Check.Report
import ImportBoundary.Display.Drawing
import ImportBoundary.Policy.Basic

/-!
# Messages

What a reader at a terminal is told: errors, the violations that were found, the verdict on a run and
the outline of a policy. The texts of tables are markup, those of panels are not.
-/

namespace ImportBoundary.Display

open Text

/-- An error, and what to do about it. -/
def errorPanel (message : String) (hint : Option String) : String :=
  let advice :=
    match hint with
    | some h => if h.isEmpty then "" else s!"\n\nHint: {h}"
    | none => ""
  panel "Error" s!"ERROR: {message}{advice}".toList

/-- Where a violation stands, as seen from a directory. -/
def placeText (root : String) (v : Violation) : String :=
  let file := Path.shownFrom root v.sourceFile
  match v.location with
  | some l => s!"{file}:{l.line}:{l.column}"
  | none => file

/-- One row per violation, below the names of the columns. -/
def violationDrawing (root : String) (vs : List Violation) : Drawing :=
  .table [
    "Location" :: vs.map (placeText root),
    "Rule" :: vs.map (·.rule.id),
    "Zone / rule" :: vs.map (·.subject),
    "Message" :: vs.map (·.message)] (vs.length + 1)

def violationTable (root : String) (vs : List Violation) : Except Markup.Fault String :=
  (violationDrawing root vs).shown

/-- The verdict on a number of imports, from how many violations there are of each rule. -/
def summaryPanel (counts : List (Rule × Int)) (edgeCount : Int) : String :=
  let total := (counts.map (·.2)).foldl (· + ·) 0
  if total = 0 then
    panel "Success" s!"{edgeCount} import(s) checked, no boundary violations".toList
  else
    let broken := counts.filter fun c => c.2 ≠ 0
    let lines := broken.map fun c => s!"\n{c.1.id}: {c.2}"
    panel "Failed" s!"{total} violation(s) in {edgeCount} import(s){String.join lines}".toList

/-- The outline of a policy. -/
def policyDrawing (p : Policy) : Drawing :=
  .table [
    ["Root", "Zones", "Restricted paths", "Private file regexes", "Zone-private rules"],
    [p.root, toString p.zones.length, toString p.restrictedPaths.length,
      toString p.privateFiles.length, toString p.privateScopes.length]] 5

/-- The line that says that the policy in a file is valid. -/
def validDrawing (path : String) : Drawing :=
  .line s!"[green]Policy is valid:[/green] {path}"

end ImportBoundary.Display
