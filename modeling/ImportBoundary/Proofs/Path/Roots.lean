import ImportBoundary.Proofs.Path.Order

/-!
# Lists of roots

A list of roots stands for what lies under one of them. Neither the order of the roots nor a root
under another one makes a difference to that (`SameReach.anyCovers_eq`), since what lies under a root
lies under all that is above the root (`covers_trans`), however the three are spelled.
-/

namespace ImportBoundary

namespace PathChars

theorem covers_iff {root target : List Char} :
    covers root target = true ↔ target = root ∨ dropTrailingSlashes root ++ ['/'] <+: target := by
  rw [covers, Bool.or_eq_true, beq_iff_eq, List.isPrefixOf_iff_prefix]

/-- A path keeps a prefix that does not end in a slash, when the slashes at its end are dropped. -/
theorem prefix_dropTrailingSlashes {stem : List Char} (bare : dropTrailingSlashes stem = stem)
    (rest : List Char) : stem ++ ['/'] <+: dropTrailingSlashes (stem ++ '/' :: rest) ++ ['/'] := by
  rw [Address.dropTrailingSlashes_eq] at bare ⊢
  induction rest using List.reverseRecOn with
  | nil =>
    refine ⟨[], ?_⟩
    rw [List.append_nil, List.rdropWhile_concat_pos _ _ _ (by simp), bare]
  | append_singleton rest c ih =>
    rw [← List.cons_append, ← List.append_assoc]
    by_cases slash : c = '/'
    · rw [List.rdropWhile_concat_pos _ _ _ (by simpa using slash)]
      exact ih
    · rw [List.rdropWhile_concat_neg _ _ _ (by simpa using slash)]
      exact ⟨rest ++ [c] ++ ['/'], by simp⟩

/-- What lies under a root lies under all that is above the root. -/
theorem covers_trans {a b c : List Char} (hab : covers a b = true) (hbc : covers b c = true) :
    covers a c = true := by
  rcases covers_iff.mp hab with rfl | below
  · exact hbc
  · rcases covers_iff.mp hbc with rfl | below'
    · exact hab
    · obtain ⟨rest, rfl⟩ := below
      have bare : dropTrailingSlashes (dropTrailingSlashes a) = dropTrailingSlashes a :=
        List.rdropWhile_idempotent _ _
      refine covers_iff.mpr (.inr (List.IsPrefix.trans ?_ below'))
      rw [List.append_assoc]
      exact prefix_dropTrailingSlashes bare rest

end PathChars

namespace Path

theorem covers_trans {a b c : String} (hab : covers a b = true) (hbc : covers b c = true) :
    covers a c = true :=
  PathChars.covers_trans hab hbc

/-- Two lists of roots that are made from each other by moving roots, and by adding and leaving out
roots that lie under another one of the list. -/
inductive SameReach : List String → List String → Prop
  | moved {roots roots' : List String} (h : roots.Perm roots') : SameReach roots roots'
  | added {roots : List String} {above root : String} (held : above ∈ roots)
    (under : covers above root = true) : SameReach roots (root :: roots)
  | symm {roots roots' : List String} : SameReach roots roots' → SameReach roots' roots
  | trans {roots roots' roots'' : List String} :
    SameReach roots roots' → SameReach roots' roots'' → SameReach roots roots''

/-- The same paths lie under the roots of both lists. -/
theorem SameReach.anyCovers_eq {roots roots' : List String} (h : SameReach roots roots')
    (target : String) : anyCovers roots target = anyCovers roots' target := by
  induction h with
  | moved h => exact h.any_eq
  | @added roots above root held under =>
    rw [anyCovers, anyCovers, List.any_cons, Bool.eq_iff_iff, Bool.or_eq_true]
    refine ⟨.inr, fun covered => covered.elim (fun here => ?_) id⟩
    exact List.any_eq_true.mpr ⟨above, held, covers_trans under here⟩
  | symm _ ih => exact ih.symm
  | trans _ _ first second => exact first.trans second

end Path

end ImportBoundary
