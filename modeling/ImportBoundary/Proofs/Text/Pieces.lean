import ImportBoundary.Text.Lines

/-!
# Pieces of a text

What splitting a text at a separator gives. No piece holds the separator, and pieces without the
separator are what splitting gives after they have been joined with it (`splitAtChar_joinWith`).
-/

namespace ImportBoundary.Text

theorem splitAtChar_append (sep : Char) (a b : List Char) :
    splitAtChar sep (a ++ sep :: b) = splitAtChar sep a ++ splitAtChar sep b := by
  induction a with
  | nil => simp [splitAtChar]
  | cons c a ih =>
    by_cases hc : c = sep
    · simp [splitAtChar, hc, ih]
    · simp only [List.cons_append, splitAtChar, hc, if_false, ih]
      cases hs : splitAtChar sep a with
      | nil => exact absurd hs (splitAtChar_ne_nil sep a)
      | cons piece pieces => rfl

theorem splitAtChar_of_not_mem {sep : Char} {cs : List Char} (h : sep ∉ cs) :
    splitAtChar sep cs = [cs] := by
  induction cs with
  | nil => rfl
  | cons c cs ih =>
    obtain ⟨hc, hcs⟩ := not_or.mp (mt List.mem_cons.mpr h)
    simp [splitAtChar, Ne.symm hc, ih hcs]

/-- A piece holds no separator, and nothing but characters of the text. -/
theorem mem_of_mem_piece {sep : Char} {cs piece : List Char} (h : piece ∈ splitAtChar sep cs) :
    sep ∉ piece ∧ ∀ c ∈ piece, c ∈ cs := by
  induction cs generalizing piece with
  | nil =>
    have : piece = [] := by simpa [splitAtChar] using h
    simp [this]
  | cons c cs ih =>
    by_cases hc : c = sep
    · rw [splitAtChar, if_pos hc] at h
      rcases List.mem_cons.mp h with rfl | h
      · simp
      · exact ⟨(ih h).1, fun x hx => List.mem_cons_of_mem _ ((ih h).2 x hx)⟩
    · rw [splitAtChar, if_neg hc] at h
      cases hs : splitAtChar sep cs with
      | nil => exact absurd hs (splitAtChar_ne_nil sep cs)
      | cons first rest =>
        rw [hs] at h ih
        rcases List.mem_cons.mp h with rfl | h
        · obtain ⟨no, sub⟩ := ih (List.mem_cons_self ..)
          refine ⟨?_, ?_⟩
          · simp [Ne.symm hc, no]
          · intro x hx
            rcases List.mem_cons.mp hx with rfl | hx
            · exact List.mem_cons_self ..
            · exact List.mem_cons_of_mem _ (sub x hx)
        · obtain ⟨no, sub⟩ := ih (List.mem_cons_of_mem _ h)
          exact ⟨no, fun x hx => List.mem_cons_of_mem _ (sub x hx)⟩

/-- Whatever is not a separator is in one of the pieces. -/
theorem exists_piece_of_mem {sep c : Char} {cs : List Char} (h : c ∈ cs) (other : c ≠ sep) :
    ∃ piece ∈ splitAtChar sep cs, c ∈ piece := by
  obtain ⟨before, after, rfl⟩ := List.append_of_mem h
  induction before with
  | nil =>
    rw [List.nil_append, splitAtChar, if_neg other]
    cases splitAtChar sep after <;> exact ⟨_, List.mem_cons_self, List.mem_cons_self⟩
  | cons d before ih =>
    obtain ⟨piece, mem, inside⟩ := ih (List.mem_append_right before List.mem_cons_self)
    rw [List.cons_append, splitAtChar]
    split
    · exact ⟨piece, List.mem_cons_of_mem _ mem, inside⟩
    · cases rest : splitAtChar sep (before ++ c :: after) with
      | nil => exact absurd rest (splitAtChar_ne_nil _ _)
      | cons first others =>
        rw [rest] at mem
        rcases List.mem_cons.mp mem with rfl | later
        · exact ⟨d :: piece, List.mem_cons_self, List.mem_cons_of_mem d inside⟩
        · exact ⟨piece, List.mem_cons_of_mem _ later, inside⟩

/-- Where there is a separator, there is a last one. -/
theorem eq_append_cons_of_mem_last {sep : Char} {cs : List Char} (h : sep ∈ cs) :
    ∃ before ending, sep ∉ ending ∧ cs = before ++ sep :: ending := by
  obtain ⟨after, before, eq, first⟩ := List.eq_append_cons_of_mem (List.mem_reverse.mpr h)
  refine ⟨before.reverse, after.reverse, by simpa using first, ?_⟩
  rw [← List.reverse_reverse cs, eq]
  simp

/-- Pieces that are joined with a separator that is in none of them are found again. -/
theorem splitAtChar_joinWith {sep : Char} {names : List (List Char)} (some_name : names ≠ [])
    (h : ∀ s ∈ names, sep ∉ s) : splitAtChar sep (joinWith [sep] names) = names := by
  induction names with
  | nil => exact absurd rfl some_name
  | cons s names ih =>
    have alone : splitAtChar sep s = [s] := splitAtChar_of_not_mem (h s (List.mem_cons_self ..))
    cases names with
    | nil => exact alone
    | cons t names =>
      have others := ih (List.cons_ne_nil _ _) fun s hs => h s (List.mem_cons_of_mem _ hs)
      calc splitAtChar sep (joinWith [sep] (s :: t :: names))
          = splitAtChar sep (s ++ sep :: joinWith [sep] (t :: names)) := by simp [joinWith]
        _ = splitAtChar sep s ++ splitAtChar sep (joinWith [sep] (t :: names)) :=
          splitAtChar_append ..
        _ = s :: t :: names := by rw [alone, others, List.singleton_append]

theorem joinWith_cons_flatMap (sep first : List Char) (rest : List (List Char)) :
    joinWith sep (first :: rest) = first ++ rest.flatMap fun piece => sep ++ piece := by
  induction rest generalizing first with
  | nil => simp [joinWith]
  | cons piece rest ih =>
    rw [joinWith, ih, List.flatMap_cons, List.append_assoc, List.append_assoc]
    exact List.cons_ne_nil _ _

theorem joinWith_concat (sep last : List Char) {names : List (List Char)} (some_name : names ≠ []) :
    joinWith sep (names ++ [last]) = joinWith sep names ++ sep ++ last := by
  cases names with
  | nil => exact absurd rfl some_name
  | cons first names =>
    rw [List.cons_append, joinWith_cons_flatMap, joinWith_cons_flatMap, List.flatMap_append]
    simp

end ImportBoundary.Text
