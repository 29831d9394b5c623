import ImportBoundary.Check.Evaluation
import ImportBoundary.Json.Writer

/-!
# Reports

A report collects violations in the order in which they are found; nothing is ever taken out of it.
It can be counted by rule and written as one JSON object per line.
-/

namespace ImportBoundary

/-- Violations in the order in which they were found. -/
structure Report where
  violations : List Violation := []

namespace Report

/-- The report with one more violation. -/
def add (r : Report) (v : Violation) : Report :=
  ⟨r.violations ++ [v]⟩

/-- The report with more violations. -/
def extend (r : Report) (vs : List Violation) : Report :=
  ⟨r.violations ++ vs⟩

def length (r : Report) : Nat :=
  r.violations.length

def isEmpty (r : Report) : Bool :=
  r.violations.isEmpty

/-- How many violations there are of a rule. -/
def count (r : Report) (rule : Rule) : Nat :=
  r.violations.countP fun v => v.rule = rule

/-- How many violations there are of each rule. -/
def counts (r : Report) : List (Rule × Nat) :=
  Rule.all.map fun rule => (rule, r.count rule)

/-- The violations as JSON objects. -/
def toJson (r : Report) : List Json :=
  r.violations.map Violation.toJson

/-- One line per violation. -/
def lines (r : Report) : List (List Char) :=
  r.toJson.map Json.line

/-- The lines with a newline between them. -/
def text (r : Report) : String :=
  String.ofList (Text.joinWith ['\n'] r.lines)

/-- The report with the violations of some edges, in the order of the edges. -/
def addEdges (r : Report) (p : Policy) (rules : List Rule) (edges : List Edge) : Report :=
  edges.foldl (fun r e => r.extend (p.evaluateRules rules e)) r

theorem addEdges_violations (r : Report) (p : Policy) (rules : List Rule) (edges : List Edge) :
    (r.addEdges p rules edges).violations =
      r.violations ++ edges.flatMap (p.evaluateRules rules) := by
  induction edges generalizing r with
  | nil => simp [addEdges]
  | cons e edges ih => simpa [addEdges, extend] using ih (r.extend (p.evaluateRules rules e))

end Report

end ImportBoundary
