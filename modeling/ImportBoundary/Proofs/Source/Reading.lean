import ImportBoundary.Source.Derivation

/-!
# What forms read

`Reads` says what a form reads at a token, part by part and with nothing remembered. A reading is
the only one of its form at its token, however deep the derivation goes (`Reads.unique`), so what a
run remembers can stand for what it would read again: a run gives what the form reads
(`Reads.gives`). This is about runs that explain nothing.

Most forms are tried where they cannot start. `glance` looks at one token and says of a form that it
fails there, or that it reads nothing (`reads_of_glance`).
-/

namespace ImportBoundary.Source

/-- A form of a single token. -/
def Form.isToken : Form → Bool
  | .word _ | .name | .number | .text | .newline | .indent | .dedent | .endMarker => true
  | _ => false

/-- What is left to be read: a form, or the rest of a sequence, of a choice or of a repetition. -/
inductive Job
  | form (form : Form)
  | sequence (taken : List Tree) (forms : List Form)
  | choice (forms : List Form)
  | repetition (taken : List Tree) (form : Form) (count : Nat)

/-- A phrase makes one tree of what its form has read. -/
def Phrase.wrap (s : Phrase) : List Tree × Nat → List Tree × Nat :=
  fun (parts, j) => ([.node s parts.reverse], j)

/-- What is read at a token, within a depth. -/
inductive Reads (ts : Tokens) : Nat → Job → Nat → Reading → Prop
  | token {d form i token} (single : form.isToken = true) (here : ts.tokens[i]? = some token) :
      Reads ts (d + 1) (.form form) i
        (if form.admits token.lexeme then some ([.leaf token], i + 1) else none)
  | phrase {d s i reading} (inner : Reads ts d (.form (Phrase.form s)) i reading) :
      Reads ts (d + 1) (.form (.phrase s)) i (reading.map s.wrap)
  | all {d forms i reading} (inner : Reads ts d (.sequence [] forms) i reading) :
      Reads ts (d + 1) (.form (.all forms)) i reading
  | any {d forms i reading} (inner : Reads ts d (.choice forms) i reading) :
      Reads ts (d + 1) (.form (.any forms)) i reading
  | opt {d form i reading} (inner : Reads ts d (.form form) i reading) :
      Reads ts (d + 1) (.form (.opt form)) i (some (reading.getD ([], i)))
  | many {d form i reading}
      (inner : Reads ts d (.repetition [] form (ts.tokens.size + 1)) i reading) :
      Reads ts (d + 1) (.form (.many form)) i reading
  | ahead {d form i reading} (inner : Reads ts d (.form form) i reading) :
      Reads ts (d + 1) (.form (.ahead form)) i (reading.map fun _ => ([], i))
  | never {d form i reading} (inner : Reads ts d (.form form) i reading) :
      Reads ts (d + 1) (.form (.never form)) i (if reading.isNone then some ([], i) else none)
  | explain {d form i} : Reads ts (d + 1) (.form (.explain form)) i none
  | done {d taken i} : Reads ts d (.sequence taken []) i (some (taken, i))
  | stuck {d taken form forms i} (first : Reads ts d (.form form) i none) :
      Reads ts d (.sequence taken (form :: forms)) i none
  | next {d taken form forms i parts j reading} (first : Reads ts d (.form form) i (some (parts, j)))
      (rest : Reads ts d (.sequence (parts ++ taken) forms) j reading) :
      Reads ts d (.sequence taken (form :: forms)) i reading
  | exhausted {d i} : Reads ts d (.choice []) i none
  | chosen {d form forms i found} (first : Reads ts d (.form form) i (some found)) :
      Reads ts d (.choice (form :: forms)) i (some found)
  | other {d form forms i reading} (first : Reads ts d (.form form) i none)
      (rest : Reads ts d (.choice forms) i reading) : Reads ts d (.choice (form :: forms)) i reading
  | limit {d taken form i} : Reads ts d (.repetition taken form 0) i (some (taken, i))
  | ended {d taken form count i} (first : Reads ts d (.form form) i none) :
      Reads ts d (.repetition taken form (count + 1)) i (some (taken, i))
  | idle {d taken form count i parts j} (first : Reads ts d (.form form) i (some (parts, j)))
      (back : j ≤ i) : Reads ts d (.repetition taken form (count + 1)) i (some (taken, i))
  | again {d taken form count i parts j reading}
      (first : Reads ts d (.form form) i (some (parts, j))) (on : i < j)
      (rest : Reads ts d (.repetition (parts ++ taken) form count) j reading) :
      Reads ts d (.repetition taken form (count + 1)) i reading

namespace Reads

variable {ts : Tokens} {d d' i : Nat} {job : Job} {reading reading' : Reading}

theorem deeper (h : Reads ts d job i reading) : Reads ts (d + 1) job i reading := by
  induction h with
  | token single here => exact .token single here
  | phrase _ ih => exact .phrase ih
  | all _ ih => exact .all ih
  | any _ ih => exact .any ih
  | opt _ ih => exact .opt ih
  | many _ ih => exact .many ih
  | ahead _ ih => exact .ahead ih
  | never _ ih => exact .never ih
  | explain => exact .explain
  | done => exact .done
  | stuck _ ih => exact .stuck ih
  | next _ _ first rest => exact .next first rest
  | exhausted => exact .exhausted
  | chosen _ ih => exact .chosen ih
  | other _ _ first rest => exact .other first rest
  | limit => exact .limit
  | ended _ ih => exact .ended ih
  | idle _ back ih => exact .idle ih back
  | again _ on _ first rest => exact .again first on rest

theorem mono (h : Reads ts d job i reading) (le : d ≤ d') : Reads ts d' job i reading := by
  induction le with
  | refl => exact h
  | step _ ih => exact ih.deeper

/-- No form has two readings at one token. -/
theorem unique (h : Reads ts d job i reading) (h' : Reads ts d' job i reading') :
    reading = reading' := by
  induction h generalizing d' reading' with
  | token single here =>
    cases h' with
    | token _ here' =>
      cases here.symm.trans here'
      rfl
    | _ => cases single
  | phrase _ ih =>
    cases h' with
    | token single => cases single
    | phrase inner => rw [ih inner]
  | all _ ih =>
    cases h' with
    | token single => cases single
    | all inner => exact ih inner
  | any _ ih =>
    cases h' with
    | token single => cases single
    | any inner => exact ih inner
  | opt _ ih =>
    cases h' with
    | token single => cases single
    | opt inner => rw [ih inner]
  | many _ ih =>
    cases h' with
    | token single => cases single
    | many inner => exact ih inner
  | ahead _ ih =>
    cases h' with
    | token single => cases single
    | ahead inner => rw [ih inner]
  | never _ ih =>
    cases h' with
    | token single => cases single
    | never inner => rw [ih inner]
  | explain =>
    cases h' with
    | token single => cases single
    | explain => rfl
  | done | exhausted | limit => cases h'; rfl
  | stuck _ ih =>
    cases h' with
    | stuck => rfl
    | next first => cases ih first
  | next _ _ ihFirst ihRest =>
    cases h' with
    | stuck first => cases ihFirst first
    | next first rest =>
      cases ihFirst first
      exact ihRest rest
  | chosen _ ih =>
    cases h' with
    | chosen first => exact ih first
    | other first => cases ih first
  | other _ _ ihFirst ihRest =>
    cases h' with
    | chosen first => cases ihFirst first
    | other _ rest => exact ihRest rest
  | ended _ ih =>
    cases h' with
    | ended => rfl
    | idle first | again first => cases ih first
  | idle _ back ih =>
    cases h' with
    | ended => rfl
    | idle => rfl
    | again first on =>
      cases ih first
      exact absurd on (Nat.not_lt.mpr back)
  | again _ on _ ihFirst ihRest =>
    cases h' with
    | ended first => cases ihFirst first
    | idle first back =>
      cases ihFirst first
      exact absurd on (Nat.not_lt.mpr back)
    | again first _ rest =>
      cases ihFirst first
      exact ihRest rest

end Reads

/-! ## Runs -/

/-- What is remembered of a phrase is what it reads. -/
def Remembers (ts : Tokens) (p : Progress) : Prop :=
  ∀ (s : Phrase) (i : Nat) (reading : Reading), p.readings[(s, i)]? = some reading →
    ∃ d, Reads ts d (.form (.phrase s)) i reading

/-- The run comes to `a`, and what it remembers stays right. -/
def Gives (ts : Tokens) {α : Type} (run : Run α) (a : α) : Prop :=
  ∀ p, Remembers ts p → ∃ q, run.run p = .ok a q ∧ Remembers ts q

namespace Gives

variable {ts : Tokens} {α β : Type}

theorem pure (a : α) : Gives ts (Pure.pure a) a :=
  fun p remembers => ⟨p, rfl, remembers⟩

theorem bind {run : Run α} {next : α → Run β} {a : α} {b : β} (first : Gives ts run a)
    (second : Gives ts (next a) b) : Gives ts (run >>= next) b := by
  intro p remembers
  obtain ⟨q, ran, kept⟩ := first p remembers
  obtain ⟨r, ranOn, keptOn⟩ := second q kept
  refine ⟨r, ?_, keptOn⟩
  rw [EStateM.run_bind, ran]
  exact ranOn

/-- Which token was looked at last does not matter for what is remembered. -/
theorem look {i : Nat} {token : Token} (here : ts.tokens[i]? = some token) :
    Gives ts (Run.look ts i) (some token) := by
  intro p remembers
  refine ⟨{ p with furthest := max p.furthest i }, ?_, remembers⟩
  simp only [Run.look, here]
  rfl

theorem take {form : Form} {i : Nat} {token : Token} (here : ts.tokens[i]? = some token) :
    Gives ts (Run.take ts form i)
      (if form.admits token.lexeme then some ([.leaf token], i + 1) else none) :=
  (look here).bind (pure _)

/-- A phrase that is read anew is remembered; one that is recalled was read before. -/
theorem remembered {s : Phrase} {i d : Nat} {run : Run Reading} {reading : Reading}
    (reads : Reads ts d (.form s.form) i reading) (gives : Gives ts run reading) :
    Gives ts (Run.remembered s i run) (reading.map s.wrap) := by
  intro p remembers
  have whole : Reads ts (d + 1) (.form (.phrase s)) i (reading.map s.wrap) := .phrase reads
  cases recalled : p.readings[(s, i)]? with
  | some before =>
    obtain ⟨d', earlier⟩ := remembers s i before recalled
    refine ⟨p, ?_, remembers⟩
    rw [whole.unique earlier]
    simp only [Run.remembered, EStateM.run_bind, EStateM.run_get, recalled]
    rfl
  | none =>
    obtain ⟨q, ran, kept⟩ := gives p remembers
    refine ⟨{ q with readings := q.readings.insert (s, i) (reading.map s.wrap) }, ?_, ?_⟩
    · simp only [Run.remembered, EStateM.run_bind, EStateM.run_get, recalled, ran]
      rfl
    · intro s' i' reading' known
      simp only [Std.HashMap.getElem?_insert] at known
      split at known
      · next same =>
        cases eq_of_beq same
        cases known
        exact ⟨d + 1, whole⟩
      · exact kept s' i' reading' known

end Gives

/-- A run for a job, whose forms run within a depth. -/
def Job.run (ts : Tokens) (d start : Nat) : Job → Nat → Run Reading
  | .form f, i => Form.run ts false d start f i
  | .sequence taken forms, i => Run.sequence (Form.run ts false d start) taken i forms
  | .choice forms, i => Run.choice (Form.run ts false d start) i forms
  | .repetition taken f count, i => Run.repetition (Form.run ts false d start f) taken i count

theorem run_token {ts : Tokens} {form : Form} (single : form.isToken = true) (d start i : Nat) :
    Form.run ts false (d + 1) start form i = Run.take ts form i := by
  cases form with
  | word | name | number | text | newline | indent | dedent | endMarker => rfl
  | _ => cases single

/-- A run gives what is read, whatever it remembers. -/
theorem Reads.gives {ts : Tokens} {d i : Nat} {job : Job} {reading : Reading}
    (h : Reads ts d job i reading) (start : Nat) : Gives ts (job.run ts d start i) reading := by
  induction h generalizing start with
  | token single here =>
    rw [Job.run, run_token single]
    exact .take here
  | phrase reads ih => exact Gives.remembered reads (ih _)
  | all _ ih => exact ih start
  | any _ ih => exact ih start
  | opt _ ih => exact (ih start).bind (.pure _)
  | many _ ih => exact ih start
  | ahead _ ih => exact (ih start).bind (.pure _)
  | never _ ih => exact (ih start).bind (.pure _)
  | explain => exact .pure _
  | done => exact .pure _
  | stuck _ ih => exact (ih start).bind (.pure _)
  | next _ _ first rest => exact (first start).bind (rest start)
  | exhausted => exact .pure _
  | chosen _ ih => exact (ih start).bind (.pure _)
  | other _ _ first rest => exact (first start).bind (rest start)
  | limit => exact .pure _
  | ended _ ih => exact (ih start).bind (.pure _)
  | idle _ back ih =>
    refine (ih start).bind ?_
    simp only [if_pos back]
    exact .pure _
  | again _ on _ first rest =>
    refine (first start).bind ?_
    simp only [if_neg (Nat.not_le.mpr on)]
    exact rest start

/-- A file that can be read within the depth of a run is derived. -/
theorem derivationOf_of_reads {ts : Tokens} {d j : Nat} {tree : Tree} {trees : List Tree}
    (le : d ≤ formsPerToken * (ts.tokens.size + 2))
    (reads : Reads ts d (.form (.phrase .file)) 0 (some (tree :: trees, j))) :
    derivationOf ts = .ok tree := by
  have nothing : Remembers ts {} := by
    intro s i reading known
    simp at known
  obtain ⟨q, ran, -⟩ := (reads.mono le).gives 0 {} nothing
  have ran : (runFile ts false).run {} = .ok (some (tree :: trees, j)) q := ran
  rw [derivationOf, ran]

/-! ## One token ahead -/

/-- Whether forms one after the other fail at a token, or read nothing. -/
def glanceAll (glance : Form → Option Bool) : List Form → Option Bool
  | [] => some true
  | form :: forms =>
    match glance form with
    | some true => glanceAll glance forms
    | answer => answer

/-- Whether a choice fails at a token, or reads nothing. -/
def glanceAny (glance : Form → Option Bool) : List Form → Option Bool
  | [] => some false
  | form :: forms =>
    match glance form with
    | some false => glanceAny glance forms
    | answer => answer

/-- What one token shows of a form: that it fails there (`false`), or that it reads nothing
(`true`). -/
def glance (l : Lexeme) : Nat → Form → Option Bool
  | 0, _ => none
  | depth + 1, form =>
    match form with
    | .phrase s =>
      match glance l depth s.form with
      | some false => some false
      | _ => none
    | .all forms => glanceAll (glance l depth) forms
    | .any forms => glanceAny (glance l depth) forms
    | .opt form => (glance l depth form).map fun _ => true
    | .many form => (glance l depth form).map fun _ => true
    | .ahead form => glance l depth form
    | .never form => (glance l depth form).map not
    | .explain _ => some false
    | .force _ => none
    | .refuse _ => none
    | leaf => if leaf.admits l then none else some false

/-- The reading that a glance foretells. -/
def foretold (i : Nat) (empty : Bool) : Reading :=
  if empty then some ([], i) else none

variable {ts : Tokens} {i : Nat} {token : Token}

theorem glance_token {form : Form} (single : form.isToken = true) (l : Lexeme) (d : Nat) :
    glance l (d + 1) form = if form.admits l then none else some false := by
  cases form with
  | word | name | number | text | newline | indent | dedent | endMarker => rfl
  | _ => cases single

theorem reads_of_glanceAll {d : Nat} {look : Form → Option Bool}
    (sound : ∀ form b, look form = some b → Reads ts d (.form form) i (foretold i b)) :
    ∀ {forms : List Form} {b : Bool}, glanceAll look forms = some b →
      Reads ts d (.sequence [] forms) i (foretold i b)
  | [], _, h => by
    cases h
    exact .done
  | form :: forms, b, h => by
    cases first : look form with
    | none => simp [glanceAll, first] at h
    | some empty =>
      cases empty with
      | true =>
        simp only [glanceAll, first] at h
        exact .next (sound form true first) (reads_of_glanceAll sound h)
      | false =>
        simp only [glanceAll, first] at h
        cases h
        exact .stuck (sound form false first)

theorem reads_of_glanceAny {d : Nat} {look : Form → Option Bool}
    (sound : ∀ form b, look form = some b → Reads ts d (.form form) i (foretold i b)) :
    ∀ {forms : List Form} {b : Bool}, glanceAny look forms = some b →
      Reads ts d (.choice forms) i (foretold i b)
  | [], _, h => by
    cases h
    exact .exhausted
  | form :: forms, b, h => by
    cases first : look form with
    | none => simp [glanceAny, first] at h
    | some empty =>
      cases empty with
      | true =>
        simp only [glanceAny, first] at h
        cases h
        exact .chosen (sound form true first)
      | false =>
        simp only [glanceAny, first] at h
        exact .other (sound form false first) (reads_of_glanceAny sound h)

/-- A glance at the token that is there foretells the reading. -/
theorem reads_of_glance (here : ts.tokens[i]? = some token) {d : Nat} {form : Form} {b : Bool}
    (h : glance token.lexeme d form = some b) : Reads ts d (.form form) i (foretold i b) := by
  induction d generalizing form b with
  | zero => cases h
  | succ d ih =>
    by_cases single : form.isToken = true
    · rw [glance_token single] at h
      split at h
      · cases h
      · next other =>
        cases h
        have miss := Reads.token (d := d) single here
        rwa [if_neg other] at miss
    · cases form with
      | word | name | number | text | newline | indent | dedent | endMarker => exact absurd rfl single
      | force | refuse => cases h
      | explain =>
        cases h
        exact .explain
      | phrase s =>
        simp only [glance] at h
        split at h
        · next inner =>
          cases h
          exact .phrase (ih inner)
        · cases h
      | all forms => exact .all (reads_of_glanceAll (fun _ _ => ih) h)
      | any forms => exact .any (reads_of_glanceAny (fun _ _ => ih) h)
      | opt form =>
        obtain ⟨empty, inner, rfl⟩ := Option.map_eq_some_iff.mp h
        have reads := Reads.opt (ih inner)
        cases empty <;> exact reads
      | many form =>
        obtain ⟨empty, inner, rfl⟩ := Option.map_eq_some_iff.mp h
        cases empty with
        | true => exact .many (.idle (ih inner) (Nat.le_refl i))
        | false => exact .many (.ended (ih inner))
      | ahead form =>
        have reads := Reads.ahead (ih h)
        cases b <;> exact reads
      | never form =>
        obtain ⟨empty, inner, rfl⟩ := Option.map_eq_some_iff.mp h
        have reads := Reads.never (ih inner)
        cases empty <;> exact reads

end ImportBoundary.Source
