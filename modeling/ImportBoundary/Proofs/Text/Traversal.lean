import Mathlib.Data.List.Forall2

/-!
# Going through a list

An operation that may fail is done for the items of a list one after the other: either it gives something
for each of them (`mapM_eq_ok_iff`), or it fails with the first item for which it does
(`mapM_eq_error_iff`).
-/

namespace ImportBoundary

variable {α β ε : Type} {f : α → Except ε β} {items : List α}

theorem mapM_eq_ok_iff {results : List β} :
    items.mapM f = .ok results ↔ List.Forall₂ (fun a b => f a = .ok b) items results := by
  induction items generalizing results with
  | nil => cases results <;> simp [pure, Except.pure]
  | cons a rest ih =>
    rw [List.mapM_cons]
    cases first : f a with
    | error e =>
      refine iff_of_false nofun fun each => ?_
      cases each with
      | cons head _ => exact nomatch first.symm.trans head
    | ok b =>
      simp only [bind, Except.bind]
      cases others : rest.mapM f with
      | error e =>
        refine iff_of_false nofun fun each => ?_
        cases each with
        | cons _ tail => exact nomatch others.symm.trans (ih.mpr tail)
      | ok bs =>
        simp only [pure, Except.pure, Except.ok.injEq]
        constructor
        · rintro rfl
          exact .cons first (ih.mp others)
        · intro each
          cases each with
          | cons head tail =>
            cases first.symm.trans head
            cases others.symm.trans (ih.mpr tail)
            rfl

theorem mapM_eq_error_iff {e : ε} : items.mapM f = .error e ↔
    ∃ before a after, items = before ++ a :: after ∧ (∀ x ∈ before, ∃ b, f x = .ok b) ∧
      f a = .error e := by
  induction items with
  | nil => simp [pure, Except.pure]
  | cons a rest ih =>
    rw [List.mapM_cons]
    cases first : f a with
    | error e' =>
      simp only [bind, Except.bind, Except.error.injEq]
      constructor
      · rintro rfl
        exact ⟨[], a, rest, rfl, nofun, first⟩
      · rintro ⟨before, x, after, same, good, fails⟩
        cases before with
        | nil =>
          cases same
          exact Except.error.inj (first.symm.trans fails)
        | cons y before =>
          cases same
          obtain ⟨b, given⟩ := good _ List.mem_cons_self
          exact nomatch first.symm.trans given
    | ok b =>
      have passed : rest.mapM f = .error e ↔ (do let bs ← rest.mapM f; pure (b :: bs)) = .error e := by
        cases rest.mapM f <;> simp [bind, Except.bind, pure, Except.pure]
      simp only [bind, Except.bind] at passed ⊢
      rw [← passed, ih]
      constructor
      · rintro ⟨before, x, after, rfl, good, fails⟩
        exact ⟨a :: before, x, after, rfl, List.forall_mem_cons.mpr ⟨⟨b, first⟩, good⟩, fails⟩
      · rintro ⟨before, x, after, same, good, fails⟩
        cases before with
        | nil =>
          cases same
          exact nomatch first.symm.trans fails
        | cons y before =>
          cases same
          exact ⟨before, x, after, rfl, (List.forall_mem_cons.mp good).2, fails⟩

/-- What each of the items gives stands where the item does. -/
theorem forall₂_of_mapM {R : α → β → Prop} {results : List β} (all : items.mapM f = .ok results)
    (each : ∀ a ∈ items, ∀ b, f a = .ok b → R a b) : List.Forall₂ R items results := by
  have gives := mapM_eq_ok_iff.mp all
  clear all
  induction gives with
  | nil => exact .nil
  | cons first _ ih =>
    obtain ⟨related, others⟩ := List.forall_mem_cons.mp each
    exact .cons (related _ first) (ih others)

/-- It fails for none of the items, or for one of them. -/
theorem mapM_cases (f : α → Except ε β) (items : List α) :
    (∃ results, items.mapM f = .ok results) ∨ ∃ a ∈ items, ∃ e, items.mapM f = .error e ∧
      f a = .error e := by
  cases all : items.mapM f with
  | ok results => exact .inl ⟨results, rfl⟩
  | error e =>
    obtain ⟨before, a, after, rfl, -, fails⟩ := mapM_eq_error_iff.mp all
    exact .inr ⟨a, by simp, e, rfl, fails⟩

theorem mapM_isOk (f : α → Except ε β) (items : List α) :
    (∃ results, items.mapM f = .ok results) ↔ ∀ a ∈ items, ∃ b, f a = .ok b := by
  constructor
  · rintro ⟨results, all⟩
    have gives := mapM_eq_ok_iff.mp all
    clear all
    induction gives with
    | nil => exact nofun
    | cons first _ ih => exact List.forall_mem_cons.mpr ⟨⟨_, first⟩, ih⟩
  · intro each
    rcases mapM_cases f items with found | ⟨a, mem, e, -, fails⟩
    · exact found
    · obtain ⟨b, given⟩ := each a mem
      exact nomatch given.symm.trans fails

/-- It fails if it does for one of the items. -/
theorem mapM_of_mem {a : α} (mem : a ∈ items) {e : ε} (fails : f a = .error e) :
    ∃ b ∈ items, ∃ e', items.mapM f = .error e' ∧ f b = .error e' := by
  rcases mapM_cases f items with found | stopped
  · obtain ⟨b, given⟩ := (mapM_isOk f items).mp found a mem
    exact nomatch given.symm.trans fails
  · exact stopped

/-- An operation that agrees with a function gives what the function does. -/
theorem mapM_eq_map {g : α → β} (agree : ∀ a b, f a = .ok b → b = g a) {results : List β}
    (all : items.mapM f = .ok results) : results = items.map g := by
  have same : List.Forall₂ (· = ·) (items.map g) results :=
    List.forall₂_map_left_iff.mpr (forall₂_of_mapM all fun a _ b given => (agree a b given).symm)
  rw [List.forall₂_eq_eq_eq] at same
  exact same.symm

end ImportBoundary
