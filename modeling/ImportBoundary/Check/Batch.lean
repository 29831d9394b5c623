import ImportBoundary.Check.Report

/-!
# Batches of edges

An engine evaluates the edges of a batch one after the other, or has workers do it. The workers take
the edges up in their order, a limited number of them at a time, and finish them in any order; what
they find is collected in the order of the edges. A pool is such a batch on its way: `moves` lists
what may happen to it next, and a schedule picks among that until nothing is left to do.
-/

namespace ImportBoundary

/-- A policy and the rules to apply, in their order. -/
structure Engine where
  policy : Policy
  rules : List Rule := Rule.all

/-- The violations of an edge. -/
def Engine.evaluate (g : Engine) (e : Edge) : List Violation :=
  g.policy.evaluateRules g.rules e

namespace Pool

/-- How far the workers have come with an edge. -/
inductive Task
  | waiting (e : Edge)
  | running (e : Edge)
  | finished (found : List Violation)

def Task.isRunning : Task → Bool
  | .running _ => true
  | _ => false

/-- How many moves it takes until the edge is collected. -/
def Task.movesLeft : Task → Nat
  | .waiting _ => 3
  | .running _ => 2
  | .finished _ => 1

end Pool

/-- What has been collected, and the tasks that are still to be, in the order of their edges. -/
structure Pool where
  tasks : List Pool.Task
  report : Report

namespace Pool

/-- All edges wait. -/
def start (r : Report) (edges : List Edge) : Pool :=
  ⟨edges.map .waiting, r⟩

/-- The first edge that waits is taken up. -/
def takeUp : List Task → List (List Task)
  | [] => []
  | .waiting e :: rest => [.running e :: rest]
  | task :: rest => (takeUp rest).map (task :: ·)

/-- One of the edges that have been taken up is finished. -/
def finish (g : Engine) : List Task → List (List Task)
  | [] => []
  | .running e :: rest =>
    (.finished (g.evaluate e) :: rest) :: (finish g rest).map (.running e :: ·)
  | task :: rest => (finish g rest).map (task :: ·)

/-- The next edge in order is collected. -/
def collect (s : Pool) : List Pool :=
  match s.tasks with
  | .finished found :: rest => [⟨rest, s.report.extend found⟩]
  | _ => []

/-- What may happen next, with a number of workers. -/
def moves (g : Engine) (workers : Nat) (s : Pool) : List Pool :=
  let begun := if s.tasks.countP Task.isRunning < workers then takeUp s.tasks else []
  (begun ++ finish g s.tasks).map (fun tasks => { s with tasks }) ++ s.collect

/-- How many moves it takes until the edges of some tasks are collected. -/
def movesOf : List Task → Nat
  | [] => 0
  | task :: rest => task.movesLeft + movesOf rest

/-- How many moves it takes until all edges are collected. -/
def movesLeft (s : Pool) : Nat :=
  movesOf s.tasks

/-- Picks what happens next from what may happen, by how many moves are left. -/
abbrev Schedule := Nat → Nat

/-- The pool after at most `n` moves. -/
def runFor (g : Engine) (workers : Nat) (schedule : Schedule) : Nat → Pool → Pool
  | 0, s => s
  | n + 1, s =>
    let next := s.moves g workers
    match next[schedule n % next.length]? with
    | some t => runFor g workers schedule n t
    | none => s

/-- The pool when nothing is left to do. -/
def run (g : Engine) (workers : Nat) (schedule : Schedule) (s : Pool) : Pool :=
  runFor g workers schedule s.movesLeft s

end Pool

/-- The report with the violations of a batch. Workers are asked for if there are to be more than one
and there is more than one edge. -/
def Engine.evaluateAll (g : Engine) (workers : Option Int) (schedule : Pool.Schedule)
    (edges : List Edge) (r : Report) : Report :=
  match workers with
  | some n =>
    if 1 < n ∧ 1 < edges.length then ((Pool.start r edges).run g n.toNat schedule).report
    else r.addEdges g.policy g.rules edges
  | none => r.addEdges g.policy g.rules edges

end ImportBoundary
