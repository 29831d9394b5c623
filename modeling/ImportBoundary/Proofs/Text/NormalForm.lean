import ImportBoundary.Proofs.Text.Utf8
import ImportBoundary.Source.Number
import ImportBoundary.Text.NormalForm
import Mathlib.Data.List.Perm.Basic

/-!
# Names in their normal form

A name in its normal form consists of characters of names again (`isNameChar_of_mem_normalForm`), and of
at least one (`normalForm_ne_empty`): that holds of all forms in the tables, of the letters of Hangul and of
its syllables. A name in ASCII is its own normal form (`normalForm_eq_self`).
-/

namespace ImportBoundary.Text

open Source

/-- The code point of a character that can be part of a name. -/
def IsNameCode (code : Nat) : Prop :=
  isNameChar (Char.ofNat code) = true

/-- The same, by the number alone where that is enough: the tables are long. -/
def isNameNumber (code : Nat) : Bool :=
  if code.ble 127 then isNameChar (Char.ofNat code)
  else code.ble 0xD7FF || (0xE000).ble code && code.ble 0x10FFFF

theorem isNameNumber_eq (code : Nat) : isNameNumber code = isNameChar (Char.ofNat code) := by
  unfold isNameNumber
  split
  · rfl
  · next high =>
    rw [Nat.ble_eq, Nat.not_le] at high
    by_cases valid : code.isValidChar
    · have wide : 128 ≤ (Char.ofNat code).toNat := by rwa [toNat_ofNat valid]
      have known : isNameChar (Char.ofNat code) = true := by
        rw [isNameChar, decide_eq_true wide, Bool.or_true]
      rw [known]
      rcases valid with low | ⟨low, high⟩
      · simp only [Nat.ble_eq.mpr (Nat.le_of_lt_succ low), Bool.true_or]
      · simp only [Nat.ble_eq.mpr (Nat.succ_le_of_lt low), Nat.ble_eq.mpr (Nat.le_of_lt_succ high),
          Bool.and_true, Bool.or_true]
    · have none : Char.ofNat code = '\x00' := dif_neg valid
      have unknown : isNameChar '\x00' = false := by decide
      have bounds : ¬ code ≤ 0xD7FF ∧ (0xE000 ≤ code → ¬ code ≤ 0x10FFFF) := by
        unfold Nat.isValidChar at valid
        omega
      rw [none, unknown, Bool.or_eq_false_iff, Bool.and_eq_false_imp, ← Bool.not_eq_true,
        ← Bool.not_eq_true, Nat.ble_eq, Nat.ble_eq, Nat.ble_eq]
      exact bounds

instance (code : Nat) : Decidable (IsNameCode code) :=
  decidable_of_iff (isNameNumber code = true) (by rw [isNameNumber_eq, IsNameCode])

theorem normalForm_eq_self {text : String} (ascii : ∀ c ∈ text.toList, c.toNat < 128) :
    normalForm text = text :=
  if_pos (List.all_eq_true.mpr fun c hc => decide_eq_true (ascii c hc))

/-! ## Hangul -/

theorem isNameCode_of_lt {code : Nat} (lower : 128 ≤ code) (upper : code < 0xD800) :
    IsNameCode code := by
  rw [IsNameCode, isNameChar, toNat_ofNat (.inl upper), decide_eq_true lower, Bool.or_true]

theorem isNameCode_lettersOf {syllable code : Nat} (isSyllable : isSyllable syllable = true)
    (mem : code ∈ lettersOf syllable) : IsNameCode code := by
  simp only [Text.isSyllable, Bool.and_eq_true, decide_eq_true_eq] at isSyllable
  simp only [lettersOf, List.mem_append, List.mem_cons, List.not_mem_nil, or_false] at mem
  rcases mem with (rfl | rfl) | mem
  · refine isNameCode_of_lt ?_ ?_ <;> omega
  · refine isNameCode_of_lt ?_ ?_ <;> omega
  · split at mem
    · cases mem
    · rw [List.mem_singleton.mp mem]
      refine isNameCode_of_lt ?_ ?_ <;> omega

theorem isNameCode_joinLetters {first second syllable : Nat}
    (joined : joinLetters? first second = some syllable) : IsNameCode syllable := by
  unfold joinLetters? at joined
  simp only [isSyllable, Bool.and_eq_true, decide_eq_true_eq] at joined
  split at joined
  · rw [← Option.some.inj joined]
    refine isNameCode_of_lt ?_ ?_ <;> omega
  · split at joined
    · rw [← Option.some.inj joined]
      refine isNameCode_of_lt ?_ ?_ <;> omega
    · cases joined

/-! ## The tables -/

/-- Whatever the tables give can be part of a name. -/
theorem isNameCode_tables :
    (∀ run ∈ formRuns, ∀ k ≤ run.last - run.first, IsNameCode (run.target + k)) ∧
      (∀ block ∈ formBlocks, ∀ form ∈ block.forms, IsNameCode form) ∧
      (∀ block ∈ sequenceBlocks, ∀ forms ∈ block.forms,
        forms ≠ [] ∧ ∀ form ∈ forms, IsNameCode form) ∧
      ∀ c ∈ composites, IsNameCode c.first ∧ IsNameCode c.mark ∧ IsNameCode c.whole := by
  decide +kernel

theorem FormBlock.mem_of_form {α : Type} {block : FormBlock α} {code : Nat} {form : α}
    (h : block.form? code = some form) : form ∈ block.forms := by
  unfold form? at h
  split at h
  · exact List.mem_of_getElem? h
  · cases h

/-! ## The steps -/

theorem partsOf_ne_nil (code : Nat) : partsOf code ≠ [] := by
  unfold partsOf
  split
  · simp [lettersOf]
  · split
    · simp
    · split
      · simp
      · split
        · next forms found =>
          obtain ⟨block, mem, is⟩ := List.exists_of_findSome?_eq_some found
          obtain ⟨-, -, sequences, -⟩ := isNameCode_tables
          exact (sequences block mem forms (FormBlock.mem_of_form is)).1
        · split <;> simp

theorem isNameCode_partsOf {code part : Nat} (h : IsNameCode code) (mem : part ∈ partsOf code) :
    IsNameCode part := by
  obtain ⟨runs, forms, sequences, wholes⟩ := isNameCode_tables
  unfold partsOf at mem
  split at mem
  · next syllable => exact isNameCode_lettersOf syllable mem
  · split at mem
    · next run found =>
      obtain rfl := List.mem_singleton.mp mem
      have covers := List.find?_some found
      simp only [FormRun.covers, Bool.and_eq_true, decide_eq_true_eq] at covers
      exact runs run (List.mem_of_find?_eq_some found) _ (by omega)
    · split at mem
      · next form found =>
        obtain rfl := List.mem_singleton.mp mem
        obtain ⟨block, among, is⟩ := List.exists_of_findSome?_eq_some found
        exact forms block among _ (FormBlock.mem_of_form is)
      · split at mem
        · next parts found =>
          obtain ⟨block, among, is⟩ := List.exists_of_findSome?_eq_some found
          exact (sequences block among parts (FormBlock.mem_of_form is)).2 part mem
        · split at mem
          · next c found =>
            obtain ⟨first, mark, -⟩ := wholes c (List.mem_of_find?_eq_some found)
            rcases List.mem_pair.mp mem with rfl | rfl
            · exact first
            · exact mark
          · exact List.mem_singleton.mp mem ▸ h

theorem isNameCode_flatMap_partsOf {codes : List Nat} (h : ∀ code ∈ codes, IsNameCode code) :
    ∀ code ∈ codes.flatMap partsOf, IsNameCode code := by
  intro part mem
  obtain ⟨code, among, inside⟩ := List.mem_flatMap.mp mem
  exact isNameCode_partsOf (h code among) inside

theorem flatMap_partsOf_ne_nil {codes : List Nat} (h : codes ≠ []) : codes.flatMap partsOf ≠ [] := by
  obtain ⟨code, codes, rfl⟩ := List.exists_cons_of_ne_nil h
  rw [List.flatMap_cons]
  exact List.append_ne_nil_of_left_ne_nil (partsOf_ne_nil code) _

theorem perm_insertMark (code : Nat) (codes : List Nat) : (insertMark code codes).Perm (code :: codes) := by
  induction codes with
  | nil => exact .refl _
  | cons next codes ih =>
    rw [insertMark]
    split
    · exact (ih.cons next).trans (.swap ..)
    · exact .refl _

theorem perm_sortMarks (codes : List Nat) : (sortMarks codes).Perm codes := by
  induction codes with
  | nil => exact .refl _
  | cons code codes ih => exact (perm_insertMark code (sortMarks codes)).trans (ih.cons code)

theorem isNameCode_join {first second whole : Nat} (joined : join? first second = some whole) :
    IsNameCode whole := by
  unfold join? at joined
  split at joined
  · next syllable letters =>
    cases joined
    exact isNameCode_joinLetters letters
  · obtain ⟨c, found, rfl⟩ := Option.map_eq_some_iff.mp joined
    obtain ⟨-, -, -, wholes⟩ := isNameCode_tables
    exact (wholes c (List.mem_of_find?_eq_some found)).2.2

theorem isNameCode_putTogetherWith {codes : List Nat} {front : Nat} {marks : List Nat}
    (hFront : IsNameCode front) (hMarks : ∀ mark ∈ marks, IsNameCode mark)
    (h : ∀ code ∈ codes, IsNameCode code) :
    ∀ code ∈ putTogetherWith front marks codes, IsNameCode code := by
  induction codes generalizing front marks with
  | nil => exact List.forall_mem_cons.mpr ⟨hFront, hMarks⟩
  | cons code codes ih =>
    obtain ⟨first, rest⟩ := List.forall_mem_cons.mp h
    simp only [putTogetherWith]
    split
    · next whole joined =>
      have wholeName : IsNameCode whole := by
        split at joined
        · exact isNameCode_join joined
        · cases joined
      exact ih wholeName hMarks rest
    · split
      · exact List.forall_mem_append.mpr
          ⟨List.forall_mem_cons.mpr ⟨hFront, hMarks⟩, ih first nofun rest⟩
      · exact ih hFront (List.forall_mem_append.mpr ⟨hMarks, List.forall_mem_singleton.mpr first⟩) rest

theorem isNameCode_putTogether {codes : List Nat} (h : ∀ code ∈ codes, IsNameCode code) :
    ∀ code ∈ putTogether codes, IsNameCode code := by
  induction codes with
  | nil => exact nofun
  | cons code codes ih =>
    obtain ⟨first, rest⟩ := List.forall_mem_cons.mp h
    rw [putTogether]
    split
    · exact isNameCode_putTogetherWith first nofun rest
    · exact List.forall_mem_cons.mpr ⟨first, ih rest⟩

theorem putTogetherWith_ne_nil (front : Nat) (marks codes : List Nat) :
    putTogetherWith front marks codes ≠ [] := by
  induction codes generalizing front marks with
  | nil => simp [putTogetherWith]
  | cons code codes ih =>
    simp only [putTogetherWith]
    split
    · exact ih _ _
    · split
      · simp
      · exact ih _ _

theorem putTogether_ne_nil {codes : List Nat} (h : codes ≠ []) : putTogether codes ≠ [] := by
  obtain ⟨code, codes, rfl⟩ := List.exists_cons_of_ne_nil h
  rw [putTogether]
  split
  · exact putTogetherWith_ne_nil code [] codes
  · simp

/-! ## The normal form -/

theorem isNameChar_of_mem_normalForm {text : String} (h : ∀ c ∈ text.toList, isNameChar c = true) :
    ∀ c ∈ (normalForm text).toList, isNameChar c = true := by
  unfold normalForm
  split
  · exact h
  · have codes : ∀ code ∈ text.toList.map Char.toNat, IsNameCode code := by
      intro code mem
      obtain ⟨c, hc, rfl⟩ := List.mem_map.mp mem
      rw [IsNameCode, Char.ofNat_toNat]
      exact h c hc
    have apart := isNameCode_flatMap_partsOf (isNameCode_flatMap_partsOf
      (isNameCode_flatMap_partsOf codes))
    rw [String.toList_ofList]
    intro c mem
    obtain ⟨code, inside, rfl⟩ := List.mem_map.mp mem
    exact isNameCode_putTogether (fun code sorted => apart code ((perm_sortMarks _).subset sorted))
      code inside

theorem normalForm_ne_empty {text : String} (h : text ≠ "") : normalForm text ≠ "" := by
  unfold normalForm
  split
  · exact h
  · have codes : text.toList.map Char.toNat ≠ [] := by simpa using h
    have apart := flatMap_partsOf_ne_nil (flatMap_partsOf_ne_nil (flatMap_partsOf_ne_nil codes))
    have sorted : sortMarks (takeApart (text.toList.map Char.toNat)) ≠ [] := fun nothing =>
      apart (List.nil_perm.mp (nothing ▸ perm_sortMarks (takeApart (text.toList.map Char.toNat))))
    have together := putTogether_ne_nil sorted
    simpa using together

end ImportBoundary.Text
