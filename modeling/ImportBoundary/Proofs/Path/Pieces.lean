import ImportBoundary.Path.Basic
import ImportBoundary.Proofs.Text.Pieces

/-!
# Slashes and pieces

What unifying the slashes of a path leaves of it, and what stays when paths are joined: no two slashes
stand side by side, and a text without U+0000 and backslashes gets none (`Clean`).
-/

namespace ImportBoundary

namespace PathChars

open Text

/-- The pieces between the slashes of a path. -/
abbrev pieces (p : List Char) : List (List Char) :=
  splitAtChar '/' p

/-- No U+0000 is in the text. -/
def NulFree (p : List Char) : Prop :=
  '\x00' ∉ p

instance (p : List Char) : Decidable (NulFree p) :=
  inferInstanceAs (Decidable (_ ∉ _))

theorem isRooted_cons (c : Char) (p : List Char) : isRooted (c :: p) = decide (c = '/') := by
  unfold isRooted
  split
  · next eq => simp [(List.cons.inj eq).1]
  · next other =>
    have : c ≠ '/' := by
      rintro rfl
      exact other p rfl
    simp [this]

theorem collapse_cons_of_ne {c : Char} (h : c ≠ '/') (cs : List Char) :
    collapse (c :: cs) = c :: collapse cs := by
  rw [collapse]
  intro _ hc _
  exact absurd hc h

theorem mem_of_mem_collapse {p : List Char} {c : Char} (h : c ∈ collapse p) : c ∈ p := by
  fun_induction collapse p with
  | case1 cs ih => exact List.mem_cons_of_mem _ (ih h)
  | case2 d cs _ ih =>
    rcases List.mem_cons.mp h with rfl | h
    · exact List.mem_cons_self ..
    · exact List.mem_cons_of_mem _ (ih h)
  | case3 => exact h

theorem unifySeparator_ne_backslash (c : Char) : unifySeparator c ≠ '\\' := by
  unfold unifySeparator
  split
  · decide
  · assumption

theorem backslash_not_mem_unifySlashes (p : List Char) : '\\' ∉ unifySlashes p := by
  intro h
  obtain ⟨c, -, hc⟩ := List.mem_map.mp (mem_of_mem_collapse h)
  exact unifySeparator_ne_backslash c hc

theorem nulFree_unifySlashes {p : List Char} (h : NulFree p) : NulFree (unifySlashes p) := by
  intro hm
  obtain ⟨c, hc, e⟩ := List.mem_map.mp (mem_of_mem_collapse hm)
  unfold unifySeparator at e
  split at e
  · exact absurd e (by decide)
  · exact h (e ▸ hc)

/-! ## Runs of slashes -/

theorem isRooted_append {p : List Char} (h : p ≠ []) (q : List Char) :
    isRooted (p ++ q) = isRooted p := by
  cases p with
  | nil => exact absurd rfl h
  | cons c p => rw [List.cons_append, isRooted_cons, isRooted_cons]

theorem isRooted_collapse (p : List Char) : isRooted (collapse p) = isRooted p := by
  fun_induction collapse p with
  | case1 cs ih => exact ih
  | case2 c cs _ _ => rw [isRooted_cons, isRooted_cons]
  | case3 => rfl

/-- No slash follows a slash once runs of them are collapsed. -/
theorem single_slash {p before after : List Char} (h : collapse p = before ++ '/' :: after) :
    isRooted after = false := by
  fun_induction collapse p generalizing before with
  | case1 cs ih => exact ih h
  | case2 c cs apart ih =>
    cases before with
    | cons d before =>
      rw [List.cons_append] at h
      exact ih (List.cons.inj h).2
    | nil =>
      obtain ⟨rfl, rfl⟩ := List.cons.inj h
      rw [isRooted_collapse]
      cases cs with
      | nil => rfl
      | cons d cs =>
        have hd : d ≠ '/' := by
          rintro rfl
          exact apart cs rfl rfl
        simp [isRooted_cons, hd]
  | case3 => simp at h

theorem collapse_append {s : List Char} (h : '/' ∉ s) (t : List Char) :
    collapse (s ++ t) = s ++ collapse t := by
  induction s with
  | nil => rfl
  | cons c s ih =>
    obtain ⟨hc, hs⟩ := not_or.mp (mt List.mem_cons.mpr h)
    rw [List.cons_append, collapse_cons_of_ne (Ne.symm hc), ih hs, List.cons_append]

theorem collapse_slash_append {s : List Char} (hs : s ≠ []) (h : '/' ∉ s) (t : List Char) :
    collapse ('/' :: (s ++ t)) = '/' :: (s ++ collapse t) := by
  rw [← collapse_append h]
  cases s with
  | nil => exact absurd rfl hs
  | cons c s =>
    have hc : c ≠ '/' := by
      rintro rfl
      exact h (List.mem_cons_self ..)
    rw [List.cons_append, collapse]
    intro rest _ eq
    exact hc (List.cons.inj eq).1

theorem mem_join {base p : List Char} {c : Char} (h : c ∈ join base p) :
    c ∈ base ∨ c = '/' ∨ c ∈ p := by
  unfold join at h
  split at h
  · exact .inr (.inr h)
  · split at h
    · rcases List.mem_append.mp h with h | h
      · exact .inl h
      · exact .inr (.inr h)
    · rcases List.mem_append.mp h with h | h
      · exact .inl h
      · exact .inr (List.mem_cons.mp h)

/-! ## Clean texts -/

/-- The text has no U+0000 and no backslash, so that all its pieces but `.`, `..` and the empty one
are segments. -/
def Clean (p : List Char) : Prop :=
  NulFree p ∧ '\\' ∉ p

theorem clean_unifySlashes {p : List Char} (h : NulFree p) : Clean (unifySlashes p) :=
  ⟨nulFree_unifySlashes h, backslash_not_mem_unifySlashes p⟩

theorem Clean.append {p q : List Char} (hp : Clean p) (hq : Clean q) : Clean (p ++ q) := by
  constructor <;> intro h <;> rcases List.mem_append.mp h with h | h
  · exact hp.1 h
  · exact hq.1 h
  · exact hp.2 h
  · exact hq.2 h

theorem Clean.join {base p : List Char} (hb : Clean base) (hp : Clean p) : Clean (join base p) := by
  constructor <;> intro h <;> rcases mem_join h with h | h | h
  · exact hb.1 h
  · exact absurd h (by decide)
  · exact hp.1 h
  · exact hb.2 h
  · exact absurd h (by decide)
  · exact hp.2 h

end PathChars

end ImportBoundary
