import ImportBoundary.Check.Batch
import ImportBoundary.Failure

/-!
# Sessions

The reports of a session are shared: each is known by its number, and whoever has the number can add
to it, also what it holds itself. Nothing is taken out of a report. Snapshots are what a report held
when they were taken.
-/

namespace ImportBoundary

/-- Edges that are produced one after the other, until a failure ends it if one does. -/
inductive Production
  | done
  | next (e : Edge) (rest : Production)
  | failed (failure : Failure)

namespace Production

/-- All edges of a production, or the failure that ends it. -/
def toList : Production → Except Failure (List Edge)
  | .done => .ok []
  | .next e rest => rest.toList.map (e :: ·)
  | .failed failure => .error failure

/-- The production of some edges. -/
def ofList : List Edge → Production
  | [] => .done
  | e :: rest => .next e (ofList rest)

theorem toList_ofList (edges : List Edge) : (ofList edges).toList = .ok edges := by
  induction edges with
  | nil => rfl
  | cons e rest ih => rw [ofList, toList, ih]; rfl

end Production

namespace Session

/-- What is done to the reports of a session. Reports are given by their numbers. -/
inductive Command
  | create (violations : List Violation)
  | add (report : Nat) (v : Violation)
  | extend (report : Nat) (vs : List Violation)
  | extendFrom (report other : Nat)
  | snapshot (report : Nat)
  | evaluateAll (g : Engine) (edges : Production) (workers : Option Int)
    (schedule : Pool.Schedule) (report : Option Nat)

/-- What a command answers. -/
inductive Answer
  | nothing
  | report (number : Nat)
  | failed (failure : Failure)

end Session

/-- The reports of a session and the snapshots that have been taken of them. -/
structure Session where
  reports : List Report := []
  snapshots : List (List Violation) := []

namespace Session

/-- The violations in a report. -/
def content (s : Session) (report : Nat) : List Violation :=
  (s.reports[report]?.getD {}).violations

/-- Changes one report. -/
def change (s : Session) (report : Nat) (f : Report → Report) : Session :=
  { s with reports := s.reports.modify report f }

/-- Carries out a command. A report is read before it is added to, so that it can be added to itself;
a batch is evaluated when all its edges are there. -/
def perform (s : Session) : Command → Session × Answer
  | .create violations =>
    ({ s with reports := s.reports ++ [⟨violations⟩] }, .report s.reports.length)
  | .add report v => (s.change report (·.add v), .nothing)
  | .extend report vs => (s.change report (·.extend vs), .nothing)
  | .extendFrom report other =>
    let added := s.content other
    (s.change report (·.extend added), .nothing)
  | .snapshot report => ({ s with snapshots := s.snapshots ++ [s.content report] }, .nothing)
  | .evaluateAll g edges workers schedule report =>
    match edges.toList with
    | .error failure => (s, .failed failure)
    | .ok edges =>
      match report with
      | some number => (s.change number (g.evaluateAll workers schedule edges), .report number)
      | none =>
        let filled := g.evaluateAll workers schedule edges {}
        ({ s with reports := s.reports ++ [filled] }, .report s.reports.length)

/-- The session after some commands. -/
def run (s : Session) (commands : List Command) : Session :=
  commands.foldl (fun s command => (s.perform command).1) s

end Session

end ImportBoundary
