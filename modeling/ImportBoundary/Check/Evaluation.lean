import ImportBoundary.Check.Violation
import ImportBoundary.Policy.Basic

/-!
# Evaluation

The violations of one edge under a policy, rule by rule. A rule looks at nothing but the edge and
the policy, so the edges of a list can be evaluated in any order; `addEdges` gives their
violations in the order of the edges.
-/

namespace ImportBoundary

namespace Policy

/-- One violation for each zone of the file that does not allow the target. Files outside every zone
are not checked. -/
def crossZone (p : Policy) (e : Edge) : List Violation :=
  ((p.zonesOf e.sourceFile).filter fun z => !z.allows e.target).map fun z =>
    .ofEdge .crossZone e z.name
      s!"In zone '{z.name}', importing from '{Path.shownFrom p.root e.target}' is prohibited."

/-- The message on a restricted path, which is given as it is shown. -/
def restrictedMessage (shown : String) : String :=
  s!"Importing from '{shown}' is prohibited here, " ++
    "since the current directory is not in its whitelist."

/-- One violation for each restricted path that holds the target and does not let the file in. -/
def restrictedPath (p : Policy) (e : Edge) : List Violation :=
  (p.restrictedPaths.filter fun r =>
    Path.covers r.root e.target && !Path.anyCovers r.whitelist e.sourceFile).map fun r =>
    let shown := Path.shownFrom p.root r.root
    .ofEdge .restrictedPath e shown (restrictedMessage shown)

/-- A violation if the target's name is private and the file lies outside the target's directory. -/
def directoryPrivate (p : Policy) (e : Edge) : List Violation :=
  match p.privatePattern? (Path.lastSegment e.target) with
  | none => []
  | some pattern =>
    if Path.covers (Path.parent e.target) (Path.parent e.sourceFile) then []
    else
      [.ofEdge .directoryPrivate e pattern.source
        s!"'{e.specifier}' is private to its directory and cannot be imported from here."]

/-- The violations of one private scope: one for each of its roots that holds the target. -/
def scopeViolations (e : Edge) (s : PrivateScope) : List Violation :=
  if s.coversName (Path.lastSegment e.target) && !Path.anyCovers s.sources e.sourceFile then
    (s.sources.filter (Path.covers · e.target)).map fun _ =>
      .ofEdge .zonePrivate e s.name
        s!"Import '{e.target}' goes beyond the directories of private scope '{s.name}'."
  else []

/-- The violations of all private scopes. -/
def zonePrivate (p : Policy) (e : Edge) : List Violation :=
  p.privateScopes.flatMap (scopeViolations e)

/-- The violations of one rule. -/
def evaluateRule (p : Policy) (e : Edge) : Rule → List Violation
  | .crossZone => p.crossZone e
  | .restrictedPath => p.restrictedPath e
  | .directoryPrivate => p.directoryPrivate e
  | .zonePrivate => p.zonePrivate e

/-- The violations of some rules, in their order. -/
def evaluateRules (p : Policy) (rules : List Rule) (e : Edge) : List Violation :=
  rules.flatMap (p.evaluateRule e)

/-- The violations of an edge. -/
def evaluate (p : Policy) (e : Edge) : List Violation :=
  p.evaluateRules Rule.all e

end Policy

end ImportBoundary
