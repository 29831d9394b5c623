import ImportBoundary.Proofs.Log.Calls
import Mathlib.Data.List.Nodup

/-!
# Only the last call counts

Loggers may be set up again and again, in any order. What counts in the end is the last call for each of
them (`lastCalls`): its logger has the handlers of that call, and the screen shows what it shows when no
other call has been made (`callAll_last`). A record is shown once for each logger at or above its own
that shows records of that weight (`shown`).
-/

namespace ImportBoundary.Log

/-! ## Definition -/

/-- The last call for a logger. -/
def lastCall? (cs : List Call) (name : String) : Option Call :=
  cs.reverse.find? fun c => c.logger == name

/-- The calls that are not followed by one for the same logger. -/
def lastCalls : List Call → List Call
  | [] => []
  | c :: cs => if cs.any fun d => d.logger == c.logger then lastCalls cs else c :: lastCalls cs

/-- What the screen shows of a record after some calls: the record, once for each call that is the last
for a logger at or above the record's own, if that call lets it through. Without such a logger the screen
shows the bare message, if it is a warning at least. -/
def shown (cs : List Call) (r : Record) : String :=
  let above := (lastCalls cs).filter fun c => IsAtOrAbove c.logger r.logger
  if above = [] then
    if Level.warning.rank ≤ r.level.rank then r.message ++ "\n" else ""
  else String.join ((above.filter fun c => c.admits r.level).map fun _ => r.line)

/-! ## Last calls -/

section

variable {cs : List Call} {c : Call} {name : String}

theorem lastCall_cons (c : Call) (cs : List Call) (name : String) :
    lastCall? (c :: cs) name = (lastCall? cs name).or (if c.logger = name then some c else none) := by
  rw [lastCall?, List.reverse_cons, List.find?_append, List.find?_singleton]
  by_cases same : c.logger = name <;> simp [lastCall?, same]

theorem lastCall_concat (cs : List Call) (c : Call) (name : String) :
    lastCall? (cs ++ [c]) name = if c.logger = name then some c else lastCall? cs name := by
  rw [lastCall?, List.reverse_concat, List.find?_cons]
  by_cases same : c.logger = name
  · simp [same]
  · rw [beq_eq_false_iff_ne.mpr same, if_neg same]
    rfl

theorem mem_of_lastCall (h : lastCall? cs name = some c) : c ∈ cs ∧ c.logger = name := by
  refine ⟨List.mem_reverse.mp (List.mem_of_find?_eq_some h), ?_⟩
  have found : (c.logger == name) = true := List.find?_some (p := fun d : Call => d.logger == name) h
  exact eq_of_beq found

theorem lastCall_isSome_iff : (lastCall? cs name).isSome = true ↔
    (cs.any fun d => d.logger == name) = true := by
  rw [lastCall?, List.find?_isSome, List.any_eq_true]
  simp

/-- There is a last call for a logger that is named. -/
theorem exists_lastCall (mem : name ∈ cs.map (·.logger)) : ∃ c, lastCall? cs name = some c := by
  obtain ⟨d, inside, rfl⟩ := List.mem_map.mp mem
  apply Option.isSome_iff_exists.mp
  apply lastCall_isSome_iff.mpr
  exact List.any_eq_true.mpr ⟨d, inside, beq_self_eq_true _⟩

theorem lastCall_lastCalls (cs : List Call) (name : String) :
    lastCall? (lastCalls cs) name = lastCall? cs name := by
  induction cs with
  | nil => rfl
  | cons c cs ih =>
    rw [lastCalls, lastCall_cons]
    split
    · next later =>
      rw [ih]
      by_cases same : c.logger = name
      · obtain ⟨d, found⟩ := Option.isSome_iff_exists.mp (lastCall_isSome_iff.mpr (same ▸ later))
        rw [found, Option.some_or]
      · rw [if_neg same, Option.or_none]
    · rw [lastCall_cons, ih]

theorem lastCalls_sublist (cs : List Call) : (lastCalls cs).Sublist cs := by
  induction cs with
  | nil => exact .slnil
  | cons c cs ih =>
    rw [lastCalls]
    split
    · exact ih.cons c
    · exact ih.cons_cons c

theorem nodup_lastCalls (cs : List Call) : ((lastCalls cs).map (·.logger)).Nodup := by
  induction cs with
  | nil => exact List.nodup_nil
  | cons c cs ih =>
    rw [lastCalls]
    split
    · exact ih
    · next last =>
      refine List.nodup_cons.mpr ⟨fun mem => last ?_, ih⟩
      obtain ⟨d, inside, same⟩ := List.mem_map.mp mem
      exact List.any_eq_true.mpr ⟨d, (lastCalls_sublist cs).subset inside, beq_iff_eq.mpr same⟩

/-- The calls that are left are the last ones for their loggers. -/
theorem mem_lastCalls_iff : c ∈ lastCalls cs ↔ lastCall? cs c.logger = some c := by
  rw [← lastCall_lastCalls]
  constructor
  · intro mem
    have once := nodup_lastCalls cs
    generalize lastCalls cs = left at mem once ⊢
    obtain ⟨d, found⟩ := exists_lastCall (List.mem_map_of_mem mem)
    obtain ⟨inside, same⟩ := mem_of_lastCall found
    rw [found, List.inj_on_of_nodup_map once inside mem same]
  · exact fun last => (mem_of_lastCall last).1

end

/-! ## What the calls come to -/

/-- The terminal after some calls: the loggers that are set up are those of the calls, each by the last
call for it. -/
structure Installed (cs : List Call) (t : Terminal) : Prop where
  isSetUp : ∀ name, t.isSetUp name = (lastCall? cs name).isSome
  serves : ∀ name c, lastCall? cs name = some c → c.Serves t.files (t.handlersOf name)

namespace Installed

open Terminal

variable {cs : List Call} {t u : Terminal} {c : Call}

theorem of_fresh (fresh : t.loggers = []) : Installed [] t where
  isSetUp name := by
    rw [Terminal.isSetUp, fresh]
    rfl
  serves name c last := by cases last

theorem loggerName_of_ne {name : String} (notRoot : loggerName name ≠ rootName) :
    loggerName name = name := by
  unfold loggerName at notRoot ⊢
  split
  · next empty =>
    rw [if_pos empty] at notRoot
    exact absurd rfl notRoot
  · rfl

/-- One more call puts its handlers in the place of those of its logger. -/
theorem call (installed : Installed cs t) (notRoot : loggerName c.logger ≠ rootName)
    (called : t.call c = .ok u) : Installed (cs ++ [c]) u := by
  obtain ⟨files, handlers, within, serves, rfl⟩ := exists_of_call called
  rw [loggerName_of_ne notRoot]
  constructor
  · intro name
    rw [isSetUp_withHandlers, lastCall_concat]
    by_cases same : c.logger = name
    · rw [if_pos same, decide_eq_true same.symm]
      rfl
    · rw [if_neg same, decide_eq_false (Ne.symm same), Bool.false_or]
      exact installed.isSetUp name
  · intro name d last
    rw [lastCall_concat] at last
    rw [handlersOf_withHandlers]
    by_cases same : c.logger = name
    · rw [if_pos same] at last
      cases last
      rw [if_pos same.symm]
      exact serves
    · rw [if_neg same] at last
      rw [if_neg (Ne.symm same)]
      exact (installed.serves name d last).within within

theorem callAll {more : List Call} (installed : Installed cs t)
    (notRoot : ∀ c ∈ more, loggerName c.logger ≠ rootName) (called : t.callAll more = .ok u) :
    Installed (cs ++ more) u := by
  induction more generalizing cs t with
  | nil =>
    cases called
    rwa [List.append_nil]
  | cons c more ih =>
    obtain ⟨first, others⟩ := List.forall_mem_cons.mp notRoot
    unfold Terminal.callAll at called
    rw [List.foldlM_cons] at called
    obtain ⟨middle, now, later⟩ := FileSystem.exists_of_bind called
    rw [List.append_cons]
    exact ih (installed.call first now) others later

/-! ## What is logged -/

/-- A logger hands a record to its handlers, which stay those of the last call. -/
theorem handleAt (installed : Installed cs t) (r : Record) (name : String) :
    Installed cs (t.handleAt r name) ∧ (t.handleAt r name).errors =
      t.errors ++ if (lastCall? cs name).any (·.admits r.level) then r.line else "" := by
  rw [Terminal.handleAt, installed.isSetUp]
  cases last : lastCall? cs name with
  | none =>
    rw [if_neg (by simp)]
    exact ⟨installed, by simp⟩
  | some c =>
    obtain ⟨handed, serves⟩ := (installed.serves name c last).handleAll r
    simp only [Option.isSome_some, if_true, Option.any_some]
    generalize t.handleAll r (t.handlersOf name) = result at handed serves
    obtain ⟨after, handlers⟩ := result
    have setUp (other : String) : after.isSetUp other = t.isSetUp other := by
      rw [Terminal.isSetUp, handed.loggers]
      rfl
    have kept (other : String) : after.handlersOf other = t.handlersOf other := by
      rw [handlersOf, handed.loggers]
      rfl
    refine ⟨⟨fun other => ?_, fun other d last' => ?_⟩, handed.errors⟩
    · rw [isSetUp_withHandlers, setUp, installed.isSetUp]
      by_cases same : other = name
      · rw [same, last]
        simp
      · rw [decide_eq_false same, Bool.false_or]
    · rw [handlersOf_withHandlers, kept]
      by_cases same : other = name
      · subst same
        rw [last] at last'
        cases last'
        rw [if_pos rfl]
        exact serves
      · rw [if_neg same]
        exact (installed.serves other d last').within handed.files

/-- Some loggers in turn hand a record to their handlers. -/
theorem handleEach (installed : Installed cs t) (r : Record) (names : List String) :
    Installed cs (names.foldl (fun t name => t.handleAt r name) t) ∧
      (names.foldl (fun t name => t.handleAt r name) t).errors = t.errors ++ String.join
        ((names.filter fun name => (lastCall? cs name).any (·.admits r.level)).map fun _ => r.line) := by
  induction names generalizing t with
  | nil => exact ⟨installed, by simp⟩
  | cons name names ih =>
    obtain ⟨first, errors⟩ := installed.handleAt r name
    obtain ⟨others, errors'⟩ := ih first
    refine ⟨others, ?_⟩
    rw [List.foldl_cons, errors', errors, List.filter_cons, String.append_assoc]
    split
    · rw [List.map_cons, String.join_cons]
    · rw [String.empty_append]

/-- A logger that is named in a call has a name of its own. -/
theorem ne_of_lastCall (notRoot : ∀ c ∈ cs, loggerName c.logger ≠ rootName) {name : String}
    (last : lastCall? cs name = some c) : name ≠ "" ∧ name ≠ rootName := by
  obtain ⟨inside, rfl⟩ := mem_of_lastCall last
  refine ⟨fun empty => notRoot c inside ?_, fun root => notRoot c inside ?_⟩
  · rw [empty]
    rfl
  · rw [root]
    rfl

/-- The loggers on the way of a record that let it through are those of the last calls that do, for a
logger at or above its own. -/
theorem admitting_perm (notRoot : ∀ c ∈ cs, loggerName c.logger ≠ rootName) (r : Record) :
    ((lineage (loggerName r.logger)).filter fun name =>
        (lastCall? cs name).any (·.admits r.level)).Perm
      ((((lastCalls cs).filter fun c => IsAtOrAbove c.logger r.logger).filter
        fun c => c.admits r.level).map (·.logger)) := by
  have once : ((lineage (loggerName r.logger)).filter fun name =>
      (lastCall? cs name).any (·.admits r.level)).Nodup := (nodup_lineage _).filter _
  have once' : ((((lastCalls cs).filter fun c => IsAtOrAbove c.logger r.logger).filter
      fun c => c.admits r.level).map (·.logger)).Nodup :=
    (nodup_lastCalls cs).sublist ((List.filter_sublist.trans List.filter_sublist).map _)
  refine (List.perm_ext_iff_of_nodup once once').mpr fun name => ?_
  simp only [List.mem_filter, List.mem_map, Option.any_eq_true, decide_eq_true_iff, mem_lastCalls_iff]
  constructor
  · rintro ⟨onWay, c, last, admits⟩
    obtain ⟨some_char, noRoot⟩ := ne_of_lastCall notRoot last
    obtain ⟨-, rfl⟩ := mem_of_lastCall last
    exact ⟨c, ⟨⟨last, (mem_lineage_iff some_char noRoot).mp onWay⟩, admits⟩, rfl⟩
  · rintro ⟨c, ⟨⟨last, above⟩, admits⟩, rfl⟩
    obtain ⟨some_char, noRoot⟩ := ne_of_lastCall notRoot last
    exact ⟨(mem_lineage_iff some_char noRoot).mpr above, c, last, admits⟩

theorem ne_empty_of_isAtOrAbove {upper name : String} (some_char : upper ≠ "")
    (above : IsAtOrAbove upper name) : name ≠ "" := by
  rintro rfl
  rcases above with same | pre
  · exact some_char same
  · simp at pre

/-- What is logged leaves the handlers in place, and the screen shows it as often as it should. -/
theorem log (installed : Installed cs t) (notRoot : ∀ c ∈ cs, loggerName c.logger ≠ rootName)
    (r : Record) : Installed cs (t.log r) ∧ (t.log r).errors = t.errors ++ shown cs r := by
  have setUp_iff (name : String) : t.isSetUp name = true ↔ ∃ c, lastCall? cs name = some c := by
    rw [installed.isSetUp, Option.isSome_iff_exists]
  unfold Terminal.log leastRank shown
  dsimp only
  by_cases reached : (lineage (loggerName r.logger)).any t.isSetUp = true
  · obtain ⟨name, onWay, setUp⟩ := List.any_eq_true.mp reached
    obtain ⟨c, last⟩ := (setUp_iff name).mp setUp
    obtain ⟨some_char, noRoot⟩ := ne_of_lastCall notRoot last
    have above := (mem_lineage_iff some_char noRoot).mp onWay
    obtain ⟨-, rfl⟩ := mem_of_lastCall last
    have some_call : ((lastCalls cs).filter fun c => IsAtOrAbove c.logger r.logger) ≠ [] :=
      List.ne_nil_of_mem (List.mem_filter.mpr ⟨mem_lastCalls_iff.mpr last, decide_eq_true above⟩)
    have named : loggerName r.logger = r.logger :=
      if_neg (mt String.isEmpty_iff.mp (ne_empty_of_isAtOrAbove some_char above))
    have heavy : ¬ r.level.rank < Level.debug.rank := by
      cases r.level <;> decide
    have count := (admitting_perm notRoot r).length_eq
    rw [List.length_map] at count
    rw [if_pos reached, if_neg heavy, if_pos reached, if_neg some_call]
    rw [named] at count ⊢
    obtain ⟨same, errors⟩ := installed.handleEach r (lineage r.logger)
    refine ⟨same, errors.trans ?_⟩
    rw [List.map_const', List.map_const', count]
  · have none : ((lastCalls cs).filter fun c => IsAtOrAbove c.logger r.logger) = [] := by
      rw [List.filter_eq_nil_iff]
      intro c mem above
      have last := mem_lastCalls_iff.mp mem
      obtain ⟨some_char, noRoot⟩ := ne_of_lastCall notRoot last
      refine reached (List.any_eq_true.mpr ⟨c.logger, ?_, (setUp_iff c.logger).mpr ⟨c, last⟩⟩)
      exact (mem_lineage_iff some_char noRoot).mpr (of_decide_eq_true above)
    rw [if_neg reached, if_neg reached, if_pos none]
    by_cases light : r.level.rank < Level.warning.rank
    · rw [if_pos light, if_neg (Nat.not_le.mpr light), String.append_empty]
      exact ⟨installed, rfl⟩
    · rw [if_neg light, if_pos (Nat.not_lt.mp light)]
      exact ⟨⟨installed.isSetUp, installed.serves⟩, rfl⟩

theorem logAll (installed : Installed cs t) (notRoot : ∀ c ∈ cs, loggerName c.logger ≠ rootName)
    (rs : List Record) : Installed cs (t.logAll rs) ∧
      (t.logAll rs).errors = t.errors ++ String.join (rs.map (shown cs)) := by
  induction rs generalizing t with
  | nil => exact ⟨installed, by simp [Terminal.logAll]⟩
  | cons r rs ih =>
    obtain ⟨first, errors⟩ := installed.log notRoot r
    obtain ⟨others, errors'⟩ := ih first
    refine ⟨others, ?_⟩
    rw [List.map_cons, String.join_cons, ← String.append_assoc, ← errors]
    exact errors'

/-- What the last calls come to is what all calls come to. -/
theorem of_lastCalls (installed : Installed (lastCalls cs) t) : Installed cs t where
  isSetUp name := by rw [installed.isSetUp, lastCall_lastCalls]
  serves name c last := installed.serves name c (by rw [lastCall_lastCalls, last])

end Installed

/-! ## Calls that are left out -/

namespace Terminal

open FileSystem

variable {t u ready : Terminal} {cs : List Call}

theorem callAll_errors (called : t.callAll cs = .ok u) : u.errors = t.errors := by
  induction cs generalizing t with
  | nil =>
    cases called
    rfl
  | cons c cs ih =>
    unfold callAll at called
    rw [List.foldlM_cons] at called
    obtain ⟨middle, now, later⟩ := exists_of_bind called
    obtain ⟨files, handlers, -, -, rfl⟩ := exists_of_call now
    exact (ih later).trans rfl

/-- When some calls succeed, the last ones for each logger do without the others. -/
theorem exists_callAll_lastCalls (within : u.files.Within t.files)
    (named : ∀ name ∈ u.files.current, IsName name) (called : t.callAll cs = .ok ready) :
    ∃ alone, u.callAll (lastCalls cs) = .ok alone ∧ alone.files.Within ready.files := by
  induction cs generalizing t u with
  | nil =>
    cases called
    exact ⟨u, rfl, within⟩
  | cons c cs ih =>
    unfold callAll at called
    rw [List.foldlM_cons] at called
    obtain ⟨middle, now, later⟩ := exists_of_bind called
    rw [lastCalls]
    split
    · obtain ⟨files, handlers, grown, -, rfl⟩ := exists_of_call now
      exact ih (within.trans grown) named later
    · obtain ⟨first, done, within'⟩ := call_within within named now
      obtain ⟨files, handlers, grown, -, rfl⟩ := exists_of_call done
      have named' : ∀ name ∈ files.current, IsName name := by
        rw [grown.current]
        exact named
      obtain ⟨alone, others, within''⟩ := ih within' named' later
      refine ⟨alone, ?_, within''⟩
      rw [callAll, List.foldlM_cons, done]
      exact others

/-- Some calls that set loggers up, the root aside, and then some records. Each logger that is named has
the handlers of the last call for it, and a call leaves those of all other loggers alone. What the screen
shows is what it shows when only the last calls are made, and these succeed as well: each record, once for
each logger at or above its own that shows records of that weight. -/
theorem callAll_last (fresh : t.loggers = []) (named : ∀ name ∈ t.files.current, IsName name)
    (notRoot : ∀ c ∈ cs, loggerName c.logger ≠ rootName) (called : t.callAll cs = .ok ready) :
    (∀ rs, ∀ name ∈ cs.map (·.logger), ∃ c, lastCall? cs name = some c ∧
      c.Serves (ready.logAll rs).files ((ready.logAll rs).handlersOf name)) ∧
    (∀ (before after : Terminal) (c : Call), before.call c = .ok after →
      ∀ name, name ≠ loggerName c.logger → after.handlersOf name = before.handlersOf name) ∧
    ∃ alone, t.callAll (lastCalls cs) = .ok alone ∧ ∀ rs,
      (ready.logAll rs).errors = (alone.logAll rs).errors ∧
      (ready.logAll rs).errors = t.errors ++ String.join (rs.map (shown cs)) := by
  have installed : Installed cs ready := (Installed.of_fresh fresh).callAll notRoot called
  obtain ⟨alone, done, -⟩ := exists_callAll_lastCalls (.refl _) named called
  have notRoot' : ∀ c ∈ lastCalls cs, loggerName c.logger ≠ rootName := fun c mem =>
    notRoot c ((lastCalls_sublist cs).subset mem)
  have installed' : Installed cs alone :=
    ((Installed.of_fresh fresh).callAll notRoot' done).of_lastCalls
  refine ⟨fun rs name mem => ?_, fun _ _ _ called name other => handlersOf_of_call called other,
    alone, done, fun rs => ?_⟩
  · obtain ⟨c, last⟩ := exists_lastCall mem
    exact ⟨c, last, (installed.logAll notRoot rs).1.serves _ c last⟩
  · obtain ⟨-, shown⟩ := installed.logAll notRoot rs
    obtain ⟨-, shown'⟩ := installed'.logAll notRoot rs
    rw [callAll_errors called] at shown
    rw [callAll_errors done] at shown'
    exact ⟨shown.trans shown'.symm, shown⟩

/-- A logger that is set up twice, another one below it in between, and a record that goes to both. -/
theorem callAll_last_between :
    let t : Terminal := { files := { entries := [], current := ["w"] }, now := "" }
    let cs : List Call :=
      [⟨"a", true, some ""⟩, ⟨"a.b", true, none⟩, ⟨"a", false, some "logs/a.log"⟩]
    ∃ ready, t.loggers = [] ∧ (∀ name ∈ t.files.current, IsName name) ∧
      (∀ c ∈ cs, loggerName c.logger ≠ rootName) ∧ t.callAll cs = .ok ready ∧
      (∀ rs, ∀ name ∈ cs.map (·.logger), ∃ c, lastCall? cs name = some c ∧
        c.Serves (ready.logAll rs).files ((ready.logAll rs).handlersOf name)) ∧
      (∀ (before after : Terminal) (c : Call), before.call c = .ok after →
        ∀ name, name ≠ loggerName c.logger → after.handlersOf name = before.handlersOf name) ∧
      ∃ alone, t.callAll (lastCalls cs) = .ok alone ∧ ∀ rs,
        (ready.logAll rs).errors = (alone.logAll rs).errors ∧
        (ready.logAll rs).errors = t.errors ++ String.join (rs.map (shown cs)) := by
  intro t cs
  have fresh : t.loggers = [] := rfl
  have named : ∀ name ∈ t.files.current, IsName name := by decide
  have notRoot : ∀ c ∈ cs, loggerName c.logger ≠ rootName := by decide
  have succeeds : (t.callAll cs).isOk = true := by decide
  obtain ⟨ready, called⟩ : ∃ ready, t.callAll cs = .ok ready := by
    cases made : t.callAll cs with
    | error fault =>
      rw [made] at succeeds
      cases succeeds
    | ok ready => exact ⟨ready, rfl⟩
  exact ⟨ready, fresh, named, notRoot, called, callAll_last fresh named notRoot called⟩

end Terminal

end ImportBoundary.Log
