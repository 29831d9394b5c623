import ImportBoundary.Check.Batch

/-!
# What a batch comes to

However many workers there are and whatever their schedule, a batch adds the violations of its edges
in the order of the edges (`evaluateAll_violations`). What is collected and what is still to come
stays the same with every move (`pending_of_mem_moves`), every move brings the end one move nearer
(`movesLeft_of_mem_moves`), and there always is a move until all is collected (`moves_ne_nil`).
-/

namespace ImportBoundary

namespace Pool

variable {g : Engine} {workers : Nat}

/-- What a task comes to. -/
def Task.outcome (g : Engine) : Task → List Violation
  | .waiting e => g.evaluate e
  | .running e => g.evaluate e
  | .finished found => found

/-- What is collected, and what the tasks come to. -/
def pending (g : Engine) (s : Pool) : List Violation :=
  s.report.violations ++ s.tasks.flatMap (Task.outcome g)

/-! ## One move -/

/-- A move of some tasks: they come to the same, by one move less. -/
def Advances (g : Engine) (before after : List Task) : Prop :=
  after.flatMap (Task.outcome g) = before.flatMap (Task.outcome g) ∧
    movesOf after + 1 = movesOf before

theorem Advances.cons {task : Task} {before after : List Task} (h : Advances g before after) :
    Advances g (task :: before) (task :: after) := by
  obtain ⟨outcome, moves⟩ := h
  constructor
  · rw [List.flatMap_cons, List.flatMap_cons, outcome]
  · simp only [movesOf] at moves ⊢
    omega

theorem advances_of_mem_takeUp {before after : List Task} (h : after ∈ takeUp before) :
    Advances g before after := by
  induction before generalizing after with
  | nil => simp [takeUp] at h
  | cons task rest ih =>
    cases task with
    | waiting e =>
      rw [takeUp, List.mem_singleton] at h
      subst h
      exact ⟨rfl, by simp only [movesOf, Task.movesLeft]; omega⟩
    | _ =>
      obtain ⟨tail, ht, rfl⟩ := List.mem_map.mp h
      exact (ih ht).cons

theorem advances_of_mem_finish {before after : List Task} (h : after ∈ finish g before) :
    Advances g before after := by
  induction before generalizing after with
  | nil => simp [finish] at h
  | cons task rest ih =>
    cases task with
    | running e =>
      rcases List.mem_cons.mp h with rfl | h
      · exact ⟨rfl, by simp only [movesOf, Task.movesLeft]; omega⟩
      · obtain ⟨tail, ht, rfl⟩ := List.mem_map.mp h
        exact (ih ht).cons
    | _ =>
      obtain ⟨tail, ht, rfl⟩ := List.mem_map.mp h
      exact (ih ht).cons

/-- What may happen next: tasks move on, or the first of them is collected. -/
theorem mem_moves {s t : Pool} (h : t ∈ s.moves g workers) :
    (t.report = s.report ∧ Advances g s.tasks t.tasks) ∨
      ∃ found, s.tasks = .finished found :: t.tasks ∧ t.report = s.report.extend found := by
  rcases List.mem_append.mp h with h | h
  · obtain ⟨tasks, moved, rfl⟩ := List.mem_map.mp h
    refine .inl ⟨rfl, ?_⟩
    rcases List.mem_append.mp moved with moved | moved
    · split at moved
      · exact advances_of_mem_takeUp moved
      · cases moved
    · exact advances_of_mem_finish moved
  · unfold collect at h
    split at h
    · next found rest first =>
      rw [List.mem_singleton.mp h]
      exact .inr ⟨found, first, rfl⟩
    · cases h

theorem pending_of_mem_moves {s t : Pool} (h : t ∈ s.moves g workers) :
    t.pending g = s.pending g := by
  rcases mem_moves h with ⟨report, outcome, -⟩ | ⟨found, tasks, report⟩
  · rw [pending, report, outcome, pending]
  · rw [pending, pending, report, tasks, Report.extend, List.flatMap_cons, List.append_assoc,
      Task.outcome]

theorem movesLeft_of_mem_moves {s t : Pool} (h : t ∈ s.moves g workers) :
    t.movesLeft + 1 = s.movesLeft := by
  rcases mem_moves h with ⟨-, -, moves⟩ | ⟨found, tasks, -⟩
  · exact moves
  · simp only [movesLeft, tasks, movesOf, Task.movesLeft]
    omega

/-! ## There is always a move -/

theorem takeUp_ne_nil {tasks : List Task} {e : Edge} (h : .waiting e ∈ tasks) :
    takeUp tasks ≠ [] := by
  induction tasks with
  | nil => cases h
  | cons task rest ih =>
    cases task with
    | waiting _ => exact List.cons_ne_nil _ _
    | _ => simpa [takeUp] using ih (by simpa using h)

theorem finish_ne_nil {tasks : List Task} {e : Edge} (h : .running e ∈ tasks) :
    finish g tasks ≠ [] := by
  induction tasks with
  | nil => cases h
  | cons task rest ih =>
    cases task with
    | running _ => exact List.cons_ne_nil _ _
    | _ => simpa [finish] using ih (by simpa using h)

/-- The first task that is not collected is taken up, finished or collected. If it waits, another one
may keep the workers busy, and that one can be finished. -/
theorem moves_ne_nil {s : Pool} (staffed : 0 < workers) (h : s.tasks ≠ []) :
    s.moves g workers ≠ [] := by
  obtain ⟨task, rest, tasks⟩ := List.exists_cons_of_ne_nil h
  have first : task ∈ s.tasks := tasks ▸ List.mem_cons_self ..
  by_cases busy : s.tasks.countP Task.isRunning < workers
  · cases task with
    | waiting e => simp [moves, busy, takeUp_ne_nil first]
    | running e => simp [moves, finish_ne_nil (g := g) first]
    | finished found => simp [moves, collect, tasks]
  · obtain ⟨other, mem, running⟩ := List.countP_pos_iff.mp
      (Nat.lt_of_lt_of_le staffed (Nat.le_of_not_lt busy))
    cases other with
    | running e => simp [moves, finish_ne_nil (g := g) mem]
    | _ => cases running

/-! ## All moves -/

theorem tasks_eq_nil_of_movesLeft {s : Pool} (h : s.movesLeft = 0) : s.tasks = [] := by
  cases tasks : s.tasks with
  | nil => rfl
  | cons task rest =>
    rw [movesLeft, tasks, movesOf] at h
    cases task <;> simp [Task.movesLeft] at h

/-- When nothing is left to do, everything that was to come is collected. -/
theorem runFor_report (staffed : 0 < workers) (schedule : Schedule) {n : Nat} {s : Pool}
    (h : s.movesLeft = n) : (runFor g workers schedule n s).report.violations = s.pending g := by
  induction n generalizing s with
  | zero => rw [runFor, pending, tasks_eq_nil_of_movesLeft h, List.flatMap_nil, List.append_nil]
  | succ n ih =>
    have tasks : s.tasks ≠ [] := by
      intro none
      rw [movesLeft, none] at h
      cases h
    have choice : schedule n % (s.moves g workers).length < (s.moves g workers).length :=
      Nat.mod_lt _ (List.length_pos_iff.mpr (moves_ne_nil staffed tasks))
    have next : (s.moves g workers)[schedule n % (s.moves g workers).length] ∈
        s.moves g workers := List.getElem_mem choice
    rw [runFor, List.getElem?_eq_getElem choice]
    have fewer := movesLeft_of_mem_moves next
    rw [ih (by omega), pending_of_mem_moves next]

theorem pending_start (r : Report) (edges : List Edge) :
    (start r edges).pending g = r.violations ++ edges.flatMap g.evaluate := by
  simp [pending, start, List.flatMap_map, Task.outcome]

end Pool

/-- A batch adds the violations of its edges in their order, with any number of workers and under any
schedule. -/
theorem Engine.evaluateAll_violations (g : Engine) (workers : Option Int)
    (schedule : Pool.Schedule) (edges : List Edge) (r : Report) :
    (g.evaluateAll workers schedule edges r).violations =
      r.violations ++ edges.flatMap g.evaluate := by
  have alone := Report.addEdges_violations r g.policy g.rules edges
  unfold evaluateAll
  cases workers with
  | none => exact alone
  | some n =>
    simp only
    by_cases many : 1 < n ∧ 1 < edges.length
    · rw [if_pos many, Pool.run, Pool.runFor_report (by omega) schedule rfl, Pool.pending_start]
    · rw [if_neg many]
      exact alone

end ImportBoundary
