import ImportBoundary.Source.Import

/-!
# What derivations look like

Whatever a run reads has the shape of its form, whether the run explains or not: `Shaped` builds up the
parts that a form can have read, and says nothing about the tokens that are only looked at. It is kept
by every step of a run, since what is remembered of a phrase has its shape too (`Finds`). So the
derivation of a text has the shape of a file (`shaped_of_derivationOf`), and every phrase in it, however
deep it lies, has the shape of its form (`shaped_of_mem_nodesOfAll`).
-/

namespace ImportBoundary.Source

/-- A form, or the rest of a sequence or of a repetition. -/
inductive Shape
  | form (form : Form)
  | sequence (forms : List Form)
  | repetition (form : Form)

/-- Parts that can have been read from one token up to another, in the order of the text. -/
inductive Shaped (ts : Tokens) : Shape → Nat → List Tree → Nat → Prop
  | token {form token i} (present : ts.tokens[i]? = some token)
      (admitted : form.admits token.lexeme = true) :
      Shaped ts (.form form) i [.leaf token] (i + 1)
  | forced {what token i} (present : ts.tokens[i]? = some token)
      (admitted : (Form.word what).admits token.lexeme = true) :
      Shaped ts (.form (.force what)) i [.leaf token] (i + 1)
  | phrase {s i parts j} (inner : Shaped ts (.form (Phrase.form s)) i parts j) :
      Shaped ts (.form (.phrase s)) i [.node s parts] j
  | all {forms i parts j} (inner : Shaped ts (.sequence forms) i parts j) :
      Shaped ts (.form (.all forms)) i parts j
  | any {forms form i parts j} (mem : form ∈ forms) (inner : Shaped ts (.form form) i parts j) :
      Shaped ts (.form (.any forms)) i parts j
  | left {form i} : Shaped ts (.form (.opt form)) i [] i
  | opt {form i parts j} (inner : Shaped ts (.form form) i parts j) :
      Shaped ts (.form (.opt form)) i parts j
  | many {form i parts j} (inner : Shaped ts (.repetition form) i parts j) :
      Shaped ts (.form (.many form)) i parts j
  | ahead {form i} : Shaped ts (.form (.ahead form)) i [] i
  | never {form i} : Shaped ts (.form (.never form)) i [] i
  | explain {form i parts j} (inner : Shaped ts (.form form) i parts j) :
      Shaped ts (.form (.explain form)) i parts j
  | done {i} : Shaped ts (.sequence []) i [] i
  | next {form forms i parts j more k} (first : Shaped ts (.form form) i parts j)
      (rest : Shaped ts (.sequence forms) j more k) :
      Shaped ts (.sequence (form :: forms)) i (parts ++ more) k
  | ended {form i} : Shaped ts (.repetition form) i [] i
  | again {form i parts j more k} (first : Shaped ts (.form form) i parts j)
      (rest : Shaped ts (.repetition form) j more k) :
      Shaped ts (.repetition form) i (parts ++ more) k

/-! ## What a shape is made of -/

section

variable {ts : Tokens} {form : Form} {forms : List Form} {i j : Nat} {parts : List Tree}

theorem shaped_all_iff : Shaped ts (.form (.all forms)) i parts j ↔
    Shaped ts (.sequence forms) i parts j := by
  constructor
  · intro shaped
    cases shaped with
    | token _ admitted => cases admitted
    | all inner => exact inner
  · exact .all

theorem shaped_nil_iff : Shaped ts (.sequence []) i parts j ↔ parts = [] ∧ i = j := by
  constructor
  · rintro ⟨⟩
    exact ⟨rfl, rfl⟩
  · rintro ⟨rfl, rfl⟩
    exact .done

theorem shaped_cons_iff : Shaped ts (.sequence (form :: forms)) i parts j ↔
    ∃ first k more, Shaped ts (.form form) i first k ∧ Shaped ts (.sequence forms) k more j ∧
      parts = first ++ more := by
  constructor
  · intro shaped
    cases shaped with
    | next first rest => exact ⟨_, _, _, first, rest, rfl⟩
  · rintro ⟨first, k, more, here, rest, rfl⟩
    exact .next here rest

theorem shaped_any_iff : Shaped ts (.form (.any forms)) i parts j ↔
    ∃ form ∈ forms, Shaped ts (.form form) i parts j := by
  constructor
  · intro shaped
    cases shaped with
    | token _ admitted => cases admitted
    | any mem inner => exact ⟨_, mem, inner⟩
  · rintro ⟨form, mem, inner⟩
    exact .any mem inner

theorem shaped_opt_iff : Shaped ts (.form (.opt form)) i parts j ↔
    parts = [] ∧ i = j ∨ Shaped ts (.form form) i parts j := by
  constructor
  · intro shaped
    cases shaped with
    | token _ admitted => cases admitted
    | left => exact .inl ⟨rfl, rfl⟩
    | opt inner => exact .inr inner
  · rintro (⟨rfl, rfl⟩ | inner)
    · exact .left
    · exact .opt inner

theorem shaped_many_iff : Shaped ts (.form (.many form)) i parts j ↔
    Shaped ts (.repetition form) i parts j := by
  constructor
  · intro shaped
    cases shaped with
    | token _ admitted => cases admitted
    | many inner => exact inner
  · exact .many

theorem shaped_phrase_iff {s : Phrase} : Shaped ts (.form (.phrase s)) i parts j ↔
    ∃ inner, Shaped ts (.form s.form) i inner j ∧ parts = [.node s inner] := by
  constructor
  · intro shaped
    cases shaped with
    | token _ admitted => cases admitted
    | phrase inner => exact ⟨_, inner, rfl⟩
  · rintro ⟨inner, shaped, rfl⟩
    exact .phrase shaped

theorem shaped_never_iff : Shaped ts (.form (.never form)) i parts j ↔ parts = [] ∧ i = j := by
  constructor
  · intro shaped
    cases shaped with
    | token _ admitted => cases admitted
    | never => exact ⟨rfl, rfl⟩
  · rintro ⟨rfl, rfl⟩
    exact .never

theorem shaped_explain_iff : Shaped ts (.form (.explain form)) i parts j ↔
    Shaped ts (.form form) i parts j := by
  constructor
  · intro shaped
    cases shaped with
    | token _ admitted => cases admitted
    | explain inner => exact inner
  · exact .explain

theorem not_shaped_refuse {reason : Refusal} : ¬ Shaped ts (.form (.refuse reason)) i parts j := by
  intro shaped
  cases shaped with
  | token _ admitted => cases admitted

end

/-! ## Runs -/

/-- The parts of a reading from the token `i`, which has the last of them first, have the shape. -/
def HasShape (ts : Tokens) (form : Form) (i : Nat) (reading : Reading) : Prop :=
  ∀ parts j, reading = some (parts, j) → Shaped ts (.form form) i parts.reverse j

/-- What is remembered of a phrase has its shape. -/
def Recalls (ts : Tokens) (p : Progress) : Prop :=
  ∀ (s : Phrase) (i : Nat) (reading : Reading), p.readings[(s, i)]? = some reading →
    HasShape ts (.phrase s) i reading

/-- If the run comes to anything, then to something with the property, and what is remembered still
has its shape. -/
def Finds (ts : Tokens) {α : Type} (run : Run α) (P : α → Prop) : Prop :=
  ∀ p, Recalls ts p → ∀ a q, run.run p = .ok a q → P a ∧ Recalls ts q

theorem hasShape_none (ts : Tokens) (form : Form) (i : Nat) : HasShape ts form i none := by
  intro parts j reading
  cases reading

namespace Finds

variable {ts : Tokens} {α β : Type} {P : α → Prop} {Q : β → Prop}

theorem pure {a : α} (h : P a) : Finds ts (Pure.pure a) P := by
  intro p recalls a' q ran
  cases ran
  exact ⟨h, recalls⟩

theorem throw (stop : Stop) : Finds ts (MonadExcept.throw stop : Run α) P := by
  intro p recalls a q ran
  cases ran

theorem bind {run : Run α} {next : α → Run β} (first : Finds ts run P)
    (second : ∀ a, P a → Finds ts (next a) Q) : Finds ts (run >>= next) Q := by
  intro p recalls b r ran
  rw [EStateM.run_bind] at ran
  cases came : run.run p with
  | ok a q =>
    rw [came] at ran
    obtain ⟨found, kept⟩ := first p recalls a q came
    exact second a found q kept b r ran
  | error stop q =>
    rw [came] at ran
    cases ran

theorem mono {run : Run α} {P' : α → Prop} (h : Finds ts run P) (le : ∀ a, P a → P' a) :
    Finds ts run P' := by
  intro p recalls a q ran
  obtain ⟨found, kept⟩ := h p recalls a q ran
  exact ⟨le a found, kept⟩

theorem map {run : Run α} {f : α → β} (first : Finds ts run P) (le : ∀ a, P a → Q (f a)) :
    Finds ts (do return f (← run)) Q :=
  first.bind fun a found => .pure (le a found)

theorem get : Finds ts (MonadState.get : Run Progress) (Recalls ts) := by
  intro p recalls a q ran
  cases ran
  exact ⟨recalls, recalls⟩

/-- Which token was looked at last does not matter for what is remembered. -/
theorem look (i : Nat) :
    Finds ts (Run.look ts i) fun found => ts.tokens[i]? = found := by
  intro p recalls found q ran
  simp only [Run.look] at ran
  split at ran
  · cases ran
  · cases ran
    exact ⟨rfl, recalls⟩

theorem take {form what : Form} (i : Nat)
    (shaped : ∀ token, ts.tokens[i]? = some token → form.admits token.lexeme = true →
      Shaped ts (.form what) i [.leaf token] (i + 1)) :
    Finds ts (Run.take ts form i) (HasShape ts what i) := by
  refine (look i).bind ?_
  intro found present
  cases found with
  | none => exact .pure (hasShape_none ts what i)
  | some token =>
    refine .pure ?_
    intro parts j reading
    split at reading
    · next admitted =>
      cases reading
      exact shaped token present admitted
    · cases reading

variable {read : Form → Nat → Run Reading}

theorem choice {forms : List Form} {i : Nat} {what : Form}
    (reads : ∀ form ∈ forms, Finds ts (read form i) (HasShape ts what i)) :
    Finds ts (Run.choice read i forms) (HasShape ts what i) := by
  induction forms with
  | nil => exact .pure (hasShape_none ts what i)
  | cons form forms ih =>
    obtain ⟨first, others⟩ := List.forall_mem_cons.mp reads
    refine first.bind ?_
    intro reading shaped
    cases reading with
    | none => exact ih others
    | some reading => exact .pure shaped

/-- What has been taken and what the forms that are left read make up the whole. -/
theorem sequence {forms : List Form} {taken : List Tree} {start i : Nat} {what : Form}
    (reads : ∀ form ∈ forms, ∀ i, Finds ts (read form i) (HasShape ts form i))
    (whole : ∀ more j, Shaped ts (.sequence forms) i more j →
      Shaped ts (.form what) start (taken.reverse ++ more) j) :
    Finds ts (Run.sequence read taken i forms) (HasShape ts what start) := by
  induction forms generalizing taken i with
  | nil =>
    refine .pure ?_
    intro parts j reading
    cases reading
    have all := whole [] i .done
    rwa [List.append_nil] at all
  | cons form forms ih =>
    obtain ⟨first, others⟩ := List.forall_mem_cons.mp reads
    refine (first i).bind ?_
    intro reading shaped
    cases reading with
    | none => exact .pure (hasShape_none ts what start)
    | some reading =>
      obtain ⟨parts, j⟩ := reading
      refine ih others ?_
      intro more k rest
      rw [List.reverse_append, List.append_assoc]
      exact whole _ k (.next (shaped parts j rfl) rest)

theorem repetition {form : Form} {taken : List Tree} {start i count : Nat} {what : Form}
    {read : Nat → Run Reading} (reads : ∀ i, Finds ts (read i) (HasShape ts form i))
    (whole : ∀ more j, Shaped ts (.repetition form) i more j →
      Shaped ts (.form what) start (taken.reverse ++ more) j) :
    Finds ts (Run.repetition read taken i count) (HasShape ts what start) := by
  have stops (taken : List Tree) (i : Nat)
      (whole : ∀ more j, Shaped ts (.repetition form) i more j →
        Shaped ts (.form what) start (taken.reverse ++ more) j) :
      HasShape ts what start (some (taken, i)) := by
    intro parts j reading
    cases reading
    have ended := whole [] i .ended
    rwa [List.append_nil] at ended
  induction count generalizing taken i with
  | zero => exact .pure (stops taken i whole)
  | succ count ih =>
    refine (reads i).bind ?_
    intro reading shaped
    cases reading with
    | none => exact .pure (stops taken i whole)
    | some reading =>
      obtain ⟨parts, j⟩ := reading
      simp only
      split
      · exact .pure (stops taken i whole)
      · refine ih ?_
        intro more k rest
        rw [List.reverse_append, List.append_assoc]
        exact whole _ k (.again (shaped parts j rfl) rest)

/-- A phrase that is read anew is remembered with its shape; one that is recalled has it. -/
theorem remembered {s : Phrase} {i : Nat} {run : Run Reading}
    (reads : Finds ts run (HasShape ts s.form i)) :
    Finds ts (Run.remembered s i run) (HasShape ts (.phrase s) i) := by
  refine get.bind ?_
  intro p recalls
  cases recalled : p.readings[(s, i)]? with
  | some reading => exact .pure (recalls s i reading recalled)
  | none =>
    refine reads.bind ?_
    intro reading shaped
    have wrapped : HasShape ts (.phrase s) i
        (reading.map fun found => ([Tree.node s found.1.reverse], found.2)) := by
      intro parts j same
      obtain ⟨⟨inner, k⟩, rfl, made⟩ := Option.map_eq_some_iff.mp same
      obtain ⟨rfl, rfl⟩ := Prod.mk.inj made
      exact .phrase (shaped inner k rfl)
    intro p recalls found q ran
    cases ran
    refine ⟨wrapped, ?_⟩
    intro s' i' reading' known
    simp only [Std.HashMap.getElem?_insert] at known
    split at known
    · next same =>
      cases eq_of_beq same
      cases known
      exact wrapped
    · exact recalls s' i' reading' known

end Finds

/-- A run of a form finds nothing but what has its shape. -/
theorem finds_run (ts : Tokens) (explaining : Bool) (depth start : Nat) (form : Form) (i : Nat) :
    Finds ts (Form.run ts explaining depth start form i) (HasShape ts form i) := by
  induction depth generalizing start form i with
  | zero => exact .pure (hasShape_none ts form i)
  | succ depth ih =>
    cases form with
    | word | name | number | text | newline | indent | dedent | endMarker =>
      exact .take i fun token present admitted => .token present admitted
    | phrase s => exact .remembered (ih i s.form i)
    | all forms => exact .sequence (fun form _ i => ih start form i) fun more j rest => .all rest
    | any forms =>
      refine .choice fun form mem => (ih start form i).mono ?_
      intro reading shaped parts j same
      exact .any mem (shaped parts j same)
    | opt form =>
      refine (ih start form i).map ?_
      intro reading shaped parts j same
      cases reading with
      | none =>
        cases same
        exact .left
      | some reading =>
        cases same
        exact .opt (shaped parts j rfl)
    | many form => exact .repetition (ih start form) fun more j rest => .many rest
    | ahead form =>
      refine (ih start form i).map ?_
      intro reading _ parts j same
      obtain ⟨-, -, made⟩ := Option.map_eq_some_iff.mp same
      cases made
      exact .ahead
    | never form =>
      refine (ih start form i).map ?_
      intro reading _ parts j same
      split at same
      · cases same
        exact .never
      · cases same
    | force what =>
      refine (Finds.take i fun token present admitted => .forced present admitted).bind ?_
      intro reading shaped
      cases reading with
      | none => exact .throw _
      | some reading => exact .pure shaped
    | explain form =>
      cases explaining with
      | false => exact .pure (hasShape_none ts _ i)
      | true =>
        refine (ih start form i).mono ?_
        intro reading shaped parts j same
        exact .explain (shaped parts j same)
    | refuse reason => exact Finds.get.bind fun _ _ => .throw _

/-- The derivation of a file has the shape of a file, from the first token on. -/
theorem shaped_of_derivationOf {ts : Tokens} {tree : Tree} (derived : derivationOf ts = .ok tree) :
    ∃ stop, Shaped ts (.form (.phrase .file)) 0 [tree] stop := by
  have nothing : Recalls ts {} := by
    intro s i reading known
    simp at known
  simp only [derivationOf] at derived
  split at derived
  · next trees j q ran =>
    cases derived
    obtain ⟨shaped, -⟩ := finds_run ts false _ 0 (.phrase .file) 0 {} nothing _ q ran
    have whole := shaped (tree :: trees) j rfl
    generalize parts : (tree :: trees).reverse = read at whole
    cases whole with
    | token _ admitted => cases admitted
    | @phrase _ _ inner _ whole =>
      have single : tree :: trees = [.node .file inner] := by
        rw [← List.reverse_reverse (tree :: trees), parts]
        rfl
      cases single
      exact ⟨j, .phrase whole⟩
  · cases derived
  · split at derived <;> cases derived

/-! ## Phrases within phrases -/

theorem Tree.nodesOfAll_append (phrases : List Phrase) (trees more : List Tree) :
    Tree.nodesOfAll phrases (trees ++ more) =
      Tree.nodesOfAll phrases trees ++ Tree.nodesOfAll phrases more := by
  induction trees with
  | nil => rfl
  | cons tree trees ih => simp only [List.cons_append, Tree.nodesOfAll, ih, List.append_assoc]

theorem Tree.tokensOfAll_append (trees more : List Tree) :
    Tree.tokensOfAll (trees ++ more) = Tree.tokensOfAll trees ++ Tree.tokensOfAll more := by
  induction trees with
  | nil => rfl
  | cons tree trees ih => simp only [List.cons_append, Tree.tokensOfAll, ih, List.append_assoc]

/-- Wherever a phrase lies, it has the shape of its form. -/
theorem shaped_of_mem_nodesOfAll {ts : Tokens} {shape : Shape} {i j : Nat} {parts : List Tree}
    (shaped : Shaped ts shape i parts j) {phrases : List Phrase} {tree : Tree}
    (mem : tree ∈ Tree.nodesOfAll phrases parts) :
    ∃ s ∈ phrases, ∃ i inner j, tree = .node s inner ∧
      Shaped ts (.form (Phrase.form s)) i inner j := by
  induction shaped with
  | token | forced | left | ahead | never | done | ended => cases mem
  | @phrase s i inner j shaped ih =>
    simp only [Tree.nodesOfAll, Tree.nodes, List.append_nil] at mem
    by_cases one : phrases.contains s = true
    · rw [if_pos one] at mem
      exact ⟨s, List.contains_iff_mem.mp one, i, inner, j, List.mem_singleton.mp mem, shaped⟩
    · rw [if_neg one] at mem
      exact ih mem
  | all _ ih | any _ _ ih | opt _ ih | many _ ih | explain _ ih => exact ih mem
  | next _ _ first rest | again _ _ first rest =>
    rw [Tree.nodesOfAll_append] at mem
    exact (List.mem_append.mp mem).elim first rest

end ImportBoundary.Source
