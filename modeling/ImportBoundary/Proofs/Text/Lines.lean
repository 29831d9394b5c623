import ImportBoundary.Text.Lines

/-!
# Lines of a text

A line without a line end in it is split off as it is (`splitLines_append`); of any other text the
part before its first line end is (`exists_splitLines`).
-/

namespace ImportBoundary.Text

/-- There is no line end in the text. -/
def Unbroken (cs : List Char) : Prop :=
  ∀ c ∈ cs, isLineEnd c = false

/-- The text up to its first line end. -/
def firstLine (cs : List Char) : List Char :=
  cs.takeWhile fun c => !isLineEnd c

theorem unbroken_nil : Unbroken [] :=
  fun _ hc => absurd hc List.not_mem_nil

theorem unbroken_append {xs ys : List Char} : Unbroken (xs ++ ys) ↔ Unbroken xs ∧ Unbroken ys := by
  simp only [Unbroken, List.mem_append]
  exact ⟨fun h => ⟨fun c hc => h c (.inl hc), fun c hc => h c (.inr hc)⟩,
    fun h c hc => hc.elim (h.1 c) (h.2 c)⟩

theorem unbroken_cons {c : Char} {cs : List Char} :
    Unbroken (c :: cs) ↔ isLineEnd c = false ∧ Unbroken cs := by
  simp [Unbroken]

theorem firstLine_append_of_unbroken {xs : List Char} (h : Unbroken xs) (ys : List Char) :
    firstLine (xs ++ ys) = xs ++ firstLine ys :=
  List.takeWhile_append_of_pos fun c hc => by simp [h c hc]

theorem firstLine_append_of_not_unbroken {xs : List Char} (h : ¬ Unbroken xs) (ys : List Char) :
    firstLine (xs ++ ys) = firstLine xs := by
  induction xs with
  | nil => exact absurd nofun h
  | cons c xs ih =>
    rw [List.cons_append, firstLine, firstLine, List.takeWhile_cons, List.takeWhile_cons]
    split
    · next inside =>
      rw [Bool.not_eq_true'] at inside
      exact congrArg (c :: ·) (ih fun unbroken => h (unbroken_cons.mpr ⟨inside, unbroken⟩))
    · rfl

theorem firstLine_cons {c : Char} (h : isLineEnd c = false) (cs : List Char) :
    firstLine (c :: cs) = c :: firstLine cs :=
  List.takeWhile_cons_of_pos (by simp [h])

/-- A line end between two characters that are none. -/
theorem firstLine_enclosed {first last : Char} (begins : isLineEnd first = false)
    (closes : isLineEnd last = false) {inner : List Char}
    (h : ¬ Unbroken (first :: inner ++ [last])) :
    ¬ Unbroken inner ∧ firstLine (first :: inner ++ [last]) = first :: firstLine inner := by
  have broken : ¬ Unbroken inner := fun unbroken =>
    h (unbroken_cons.mpr
      ⟨begins, unbroken_append.mpr ⟨unbroken, unbroken_cons.mpr ⟨closes, nofun⟩⟩⟩)
  rw [List.cons_append, firstLine_cons begins, firstLine_append_of_not_unbroken broken]
  exact ⟨broken, rfl⟩

/-! ## Newlines -/

theorem unifyNewlines_eq_self {cs : List Char} (h : '\r' ∉ cs) : unifyNewlines cs = cs := by
  induction cs with
  | nil => rfl
  | cons c cs ih =>
    rw [List.mem_cons, not_or] at h
    have other : c ≠ '\r' := Ne.symm h.1
    rw [unifyNewlines, ih h.2] <;> simp [other]

/-! ## Splitting -/

theorem splitLinesFrom_append (line : List Char) {t : List Char} (unbroken : Unbroken t) {c : Char}
    (ends : isLineEnd c = true) (single : c ≠ '\r') (rest : List Char) :
    splitLinesFrom line (t ++ c :: rest) = (line.reverse ++ t) :: splitLines rest := by
  induction t generalizing line with
  | nil =>
    rw [List.nil_append, splitLinesFrom, if_pos ends, List.append_nil]
    · rfl
    · simp [single]
  | cons d t ih =>
    rw [unbroken_cons] at unbroken
    have inside : d ≠ '\r' := by
      rintro rfl
      exact absurd unbroken.1 (by decide)
    rw [List.cons_append, splitLinesFrom, unbroken.1, if_neg Bool.false_ne_true,
      ih (d :: line) unbroken.2]
    · simp
    · simp [inside]

theorem splitLines_append {t : List Char} (unbroken : Unbroken t) {c : Char}
    (ends : isLineEnd c = true) (single : c ≠ '\r') (rest : List Char) :
    splitLines (t ++ c :: rest) = t :: splitLines rest :=
  splitLinesFrom_append [] unbroken ends single rest

theorem exists_splitLinesFrom (line : List Char) {cs : List Char} (h : ¬ Unbroken cs) :
    ∃ more, splitLinesFrom line cs = (line.reverse ++ firstLine cs) :: more := by
  induction cs generalizing line with
  | nil => exact absurd nofun h
  | cons c cs ih =>
    cases ends : isLineEnd c with
    | true =>
      have none : firstLine (c :: cs) = [] := List.takeWhile_cons_of_neg (by simp [ends])
      rw [none, List.append_nil]
      -- a carriage return takes the newline after it with it
      unfold splitLinesFrom
      split
      · next same => cases same
      · exact ⟨_, rfl⟩
      · next same =>
        obtain ⟨rfl, rfl⟩ := List.cons.inj same
        exact ⟨_, if_pos ends⟩
    | false =>
      have single : c ≠ '\r' := by
        rintro rfl
        cases ends
      obtain ⟨more, same⟩ := ih (c :: line) fun unbroken => h (unbroken_cons.mpr ⟨ends, unbroken⟩)
      refine ⟨more, ?_⟩
      rw [splitLinesFrom, ends, if_neg Bool.false_ne_true, same, firstLine_cons ends]
      · simp
      · simp [single]

theorem exists_splitLines {cs : List Char} (h : ¬ Unbroken cs) :
    ∃ more, splitLines cs = firstLine cs :: more :=
  exists_splitLinesFrom [] h

end ImportBoundary.Text
