import ImportBoundary.Proofs.Source.Reading

/-!
# Tokens in a row

What forms read where some tokens stand in a row: single tokens, phrases of them, and a form that is
read again and again, each time over a group of tokens of its own (`Reads.many_groups`).
-/

namespace ImportBoundary.Source

/-- The tokens stand in a row from the token `i` on. -/
def Stand (ts : Tokens) : Nat → List Token → Prop
  | _, [] => True
  | i, token :: tokens => ts.tokens[i]? = some token ∧ Stand ts (i + 1) tokens

theorem stand_append {ts : Tokens} {i : Nat} {first second : List Token} :
    Stand ts i (first ++ second) ↔ Stand ts i first ∧ Stand ts (i + first.length) second := by
  induction first generalizing i with
  | nil => simp [Stand]
  | cons token first ih =>
    simp only [List.cons_append, Stand, ih, List.length_cons, and_assoc]
    rw [Nat.add_right_comm, Nat.add_assoc]

theorem stand_self (tokens : List Token) (broken : Option Break) :
    Stand ⟨tokens.toArray, broken⟩ 0 tokens := by
  suffices ∀ before after : List Token,
      Stand ⟨(before ++ after).toArray, broken⟩ before.length after from this [] tokens
  intro before after
  induction after generalizing before with
  | nil => trivial
  | cons token after ih =>
    refine ⟨by simp, ?_⟩
    have rest := ih (before ++ [token])
    rwa [List.append_assoc, List.length_append] at rest

theorem Stand.length_le {ts : Tokens} {i : Nat} {tokens : List Token} (h : Stand ts i tokens)
    (le : i ≤ ts.tokens.size) : i + tokens.length ≤ ts.tokens.size := by
  induction tokens generalizing i with
  | nil => exact le
  | cons token tokens ih =>
    obtain ⟨inside, -⟩ := Array.getElem?_eq_some_iff.mp h.1
    have := ih h.2 inside
    rw [List.length_cons]
    omega

namespace Reads

variable {ts : Tokens} {i d : Nat} {token : Token} {form : Form}

theorem taken (here : ts.tokens[i]? = some token) (single : form.isToken = true)
    (admits : form.admits token.lexeme = true) :
    Reads ts (d + 1) (.form form) i (some ([.leaf token], i + 1)) := by
  have reads := Reads.token (d := d) single here
  rwa [if_pos admits] at reads

theorem missed (here : ts.tokens[i]? = some token) (single : form.isToken = true)
    (misses : form.admits token.lexeme = false) : Reads ts (d + 1) (.form form) i none := by
  have reads := Reads.token (d := d) single here
  rwa [if_neg (Bool.eq_false_iff.mp misses)] at reads

/-- A form that fails at a glance. -/
theorem fails (here : ts.tokens[i]? = some token) {l : Lexeme} (is : token.lexeme = l)
    (glanced : glance l d form = some false) : Reads ts d (.form form) i none :=
  reads_of_glance here (is ▸ glanced)

theorem node {s : Phrase} {parts trees : List Tree} {j : Nat}
    (inner : Reads ts d (.form s.form) i (some (parts, j))) (same : parts.reverse = trees) :
    Reads ts (d + 1) (.form (.phrase s)) i (some ([.node s trees], j)) :=
  same ▸ .phrase inner

theorem skipped (inner : Reads ts d (.form form) i none) :
    Reads ts (d + 1) (.form (.opt form)) i (some ([], i)) :=
  .opt inner

theorem present {found : List Tree × Nat} (inner : Reads ts d (.form form) i (some found)) :
    Reads ts (d + 1) (.form (.ahead form)) i (some ([], i)) :=
  .ahead inner

theorem found {found : List Tree × Nat} (inner : Reads ts d (.form form) i (some found)) :
    Reads ts (d + 1) (.form (.opt form)) i (some found) :=
  .opt inner

theorem absent (inner : Reads ts d (.form form) i none) :
    Reads ts (d + 1) (.form (.never form)) i (some ([], i)) :=
  .never inner

/-- A form that is read again and again, each time over some tokens of its own. -/
theorem repeated {groups : List (List Token)} (taken : List Tree) {count : Nat}
    (each : ∀ group ∈ groups, group ≠ [] ∧ ∀ i, Stand ts i group →
      Reads ts d (.form form) i (some ((group.map Tree.leaf).reverse, i + group.length)))
    (stand : Stand ts i groups.flatten) (fits : groups.length < count)
    (stop : Reads ts d (.form form) (i + groups.flatten.length) none) :
    Reads ts d (.repetition taken form count) i
      (some ((groups.flatten.map Tree.leaf).reverse ++ taken, i + groups.flatten.length)) := by
  induction groups generalizing i taken count with
  | nil =>
    obtain ⟨count, rfl⟩ := Nat.exists_eq_add_of_le' fits
    exact .ended stop
  | cons group groups ih =>
    obtain ⟨count, rfl⟩ := Nat.exists_eq_add_of_le' (Nat.le_trans (Nat.le_add_left 1 _) fits)
    obtain ⟨some_token, reads⟩ := each group (List.mem_cons_self ..)
    rw [List.flatten_cons, stand_append] at stand
    rw [List.flatten_cons, List.length_append, ← Nat.add_assoc] at stop
    have on : i < i + group.length := Nat.lt_add_of_pos_right (List.length_pos_iff.mpr some_token)
    have rest := ih ((group.map Tree.leaf).reverse ++ taken)
      (fun g hg => each g (List.mem_cons_of_mem _ hg)) stand.2
      (Nat.lt_of_succ_lt_succ fits) stop
    have whole := Reads.again (reads i stand.1) on rest
    simpa [Nat.add_assoc] using whole

/-- The same, as often as it goes. -/
theorem many_groups {groups : List (List Token)}
    (each : ∀ group ∈ groups, group ≠ [] ∧ ∀ i, Stand ts i group →
      Reads ts d (.form form) i (some ((group.map Tree.leaf).reverse, i + group.length)))
    (stand : Stand ts i groups.flatten) (inside : i ≤ ts.tokens.size)
    (stop : Reads ts d (.form form) (i + groups.flatten.length) none) :
    Reads ts (d + 1) (.form (.many form)) i
      (some ((groups.flatten.map Tree.leaf).reverse, i + groups.flatten.length)) := by
  have fewer : groups.length ≤ groups.flatten.length := by
    clear stand stop
    induction groups with
    | nil => exact Nat.zero_le _
    | cons group groups ih =>
      have := List.length_pos_iff.mpr (each group (List.mem_cons_self ..)).1
      have := ih fun g hg => each g (List.mem_cons_of_mem _ hg)
      rw [List.flatten_cons, List.length_append, List.length_cons]
      omega
  have room := stand.length_le inside
  have fits : groups.length < ts.tokens.size + 1 := by omega
  have reads := repeated [] each stand fits stop
  rw [List.append_nil] at reads
  exact .many reads

end Reads

end ImportBoundary.Source
