import ImportBoundary.Json.Reader

/-!
# The depth of the reader's recursion

Whatever is read takes at least one character (`shortens_readValue`), so the depth that a document is
read with covers it: no deeper recursion reads anything else (`readValue_eq_of_deep`).
-/

namespace ImportBoundary.Json

open Text

variable {α β : Type} {cs rest : List Char} {n m : Nat}

/-- If something is read, less than `n` characters are left. -/
def Shortens (r : Except Stop (α × List Char)) (n : Nat) : Prop :=
  ∀ x rest, r = .ok (x, rest) → rest.length < n

theorem shortens_error (e : Stop) (n : Nat) : Shortens (.error e : Except Stop (α × List Char)) n :=
  nofun

theorem shortens_ok {x : α} (h : rest.length < n) : Shortens (.ok (x, rest)) n := by
  rintro y left ⟨⟩
  exact h

theorem Shortens.map {r : Except Stop (α × List Char)} (h : Shortens r n)
    {f : α × List Char → β × List Char} (left : ∀ x, (f x).2 = x.2) (less : n ≤ m) :
    Shortens (r.map f) m := by
  cases r with
  | error e => exact shortens_error e m
  | ok x =>
    rintro y rest same
    have kept : x.2 = rest := (left x).symm.trans (congrArg Prod.snd (Except.ok.inj same))
    exact kept ▸ Nat.lt_of_lt_of_le (h x.1 x.2 rfl) less

theorem length_skipGap_le (cs : List Char) : (skipGap cs).length ≤ cs.length :=
  (List.dropWhile_suffix isGap).length_le

/-! ## Strings and scalars -/

theorem shortens_readString (opening cs : List Char) :
    Shortens (readString opening cs) cs.length := by
  fun_induction readString opening cs
  all_goals first
    | exact shortens_error _ _
    | exact shortens_ok (by simp)
    | exact Shortens.map ‹_› (fun _ => rfl) (by simp only [List.length_cons]; omega)

theorem length_dropDigits_le (cs : List Char) : (cs.dropWhile isAsciiDigit).length ≤ cs.length :=
  (List.dropWhile_suffix isAsciiDigit).length_le

theorem length_lt_of_wholeDigits {ds : List Char} (h : wholeDigits cs = some (ds, rest)) :
    rest.length < cs.length := by
  unfold wholeDigits at h
  split at h
  · cases h
    simp
  · split at h <;> cases h
    exact Nat.lt_succ_of_le (length_dropDigits_le _)
  · cases h

theorem length_le_of_fractionDigits {ds : List Char} (h : fractionDigits cs = some (ds, rest)) :
    rest.length ≤ cs.length := by
  unfold fractionDigits at h
  split at h
  · split at h <;> cases h
    have := length_dropDigits_le ‹_›
    simp only [List.length_cons]
    omega
  · cases h

theorem length_lt_of_exponentDigits {negative : Bool} {e : Int}
    (h : exponentDigits negative cs = some (e, rest)) : rest.length < cs.length := by
  unfold exponentDigits at h
  split at h
  · split at h <;> cases h
    exact Nat.lt_succ_of_le (length_dropDigits_le _)
  · cases h

theorem length_le_of_exponentPart {e : Int} (h : exponentPart cs = some (e, rest)) :
    rest.length ≤ cs.length := by
  unfold exponentPart at h
  split at h
  · split at h
    · split at h <;> have := length_lt_of_exponentDigits h <;>
        simp only [List.length_cons] at * <;> omega
    · cases h
  · cases h

theorem shortens_readNumber (cs : List Char) : Shortens (readNumber cs) cs.length := by
  unfold readNumber
  split
  next negative body signed =>
  have signed_le : body.length ≤ cs.length := by
    split at signed <;> cases signed
    · simp
    · exact Nat.le_refl _
  split
  · exact shortens_error _ _
  · next whole afterWhole read =>
    have whole_lt := length_lt_of_wholeDigits read
    split
    next fraction afterFraction split_fraction =>
    have fraction_le : afterFraction.length ≤ afterWhole.length := by
      split at split_fraction <;> cases split_fraction
      · exact length_le_of_fractionDigits ‹_›
      · exact Nat.le_refl _
    split
    next exponent afterExponent split_exponent =>
    have exponent_le : afterExponent.length ≤ afterFraction.length := by
      split at split_exponent <;> cases split_exponent
      · exact length_le_of_exponentPart ‹_›
      · exact Nat.le_refl _
    split
    · split
      · exact shortens_error _ _
      · exact shortens_ok (by omega)
    · exact shortens_ok (by omega)

theorem shortens_afterLiteral {w : List Char × Json} (hw : w ∈ words) {r : Json × List Char}
    (h : (afterLiteral? w.1 cs).map (fun rest => (w.2, rest)) = some r) : r.2.length < cs.length := by
  have words_ne : ∀ w ∈ words, w.1 ≠ [] := by simp [words]
  unfold afterLiteral? at h
  split at h
  · next starts =>
    cases h
    obtain ⟨more, rfl⟩ := List.isPrefixOf_iff_prefix.mp starts
    have := List.length_pos_iff.mpr (words_ne w hw)
    simp only [List.drop_left, List.length_append]
    omega
  · cases h

theorem shortens_readScalar (cs : List Char) : Shortens (readScalar cs) cs.length := by
  unfold readScalar
  split
  · next r found =>
    obtain ⟨w, hw, taken⟩ := List.exists_of_findSome?_eq_some found
    exact shortens_ok (shortens_afterLiteral hw taken)
  · exact shortens_readNumber cs

/-! ## Values -/

theorem length_lt_of_skipGap {c : Char} {left : List Char} (h : skipGap rest = c :: left) :
    left.length < rest.length := by
  have := length_skipGap_le rest
  rw [h, List.length_cons] at this
  omega

section

variable {fuel : Nat} (value : ∀ cs, Shortens (readValue fuel cs) cs.length)
  (items : ∀ cs, Shortens (readItems fuel cs) cs.length)
  (members : ∀ cs, Shortens (readMembers fuel cs) cs.length)

include items members in
theorem shortens_readValue_succ (cs : List Char) :
    Shortens (readValue (fuel + 1) cs) cs.length := by
  unfold readValue
  split
  · split
    · exact shortens_error _ _
    · next read => exact shortens_ok (Nat.lt_succ_of_lt (shortens_readString _ _ _ _ read))
  · next text =>
    have := length_skipGap_le text
    split
    · next closed => exact shortens_ok (Nat.lt_succ_of_lt (length_lt_of_skipGap closed))
    · split
      · exact shortens_error _ _
      · next read =>
        have := members _ _ _ read
        exact shortens_ok (by simp only [List.length_cons]; omega)
  · next text =>
    have := length_skipGap_le text
    split
    · next closed => exact shortens_ok (Nat.lt_succ_of_lt (length_lt_of_skipGap closed))
    · split
      · exact shortens_error _ _
      · next read =>
        have := items _ _ _ read
        exact shortens_ok (by simp only [List.length_cons]; omega)
  · exact shortens_readScalar cs

include value items in
theorem shortens_readItems_succ (cs : List Char) :
    Shortens (readItems (fuel + 1) cs) cs.length := by
  unfold readItems
  split
  · exact shortens_error _ _
  · next read =>
    have first := value _ _ _ read
    split
    · next closed =>
      have := length_lt_of_skipGap closed
      exact shortens_ok (by omega)
    · next more comma =>
      have := length_lt_of_skipGap comma
      have := length_skipGap_le more
      split
      · exact shortens_error _ _
      · next others =>
        have := items _ _ _ others
        exact shortens_ok (by omega)
    · exact shortens_error _ _

include value members in
theorem shortens_readMembers_succ (cs : List Char) :
    Shortens (readMembers (fuel + 1) cs) cs.length := by
  unfold readMembers
  split
  · split
    · exact shortens_error _ _
    · next named =>
      have name := shortens_readString _ _ _ _ named
      split
      · next text colon =>
        have := length_lt_of_skipGap colon
        have := length_skipGap_le text
        split
        · exact shortens_error _ _
        · next read =>
          have first := value _ _ _ read
          split
          · next closed =>
            have := length_lt_of_skipGap closed
            exact shortens_ok (by simp only [List.length_cons]; omega)
          · next more comma =>
            have := length_lt_of_skipGap comma
            have := length_skipGap_le more
            split
            · exact shortens_error _ _
            · next others =>
              have := members _ _ _ others
              exact shortens_ok (by simp only [List.length_cons]; omega)
          · exact shortens_error _ _
      · exact shortens_error _ _
  · exact shortens_error _ _

end

/-- Whatever is read takes a character, with any fuel. -/
theorem shortens_read (fuel : Nat) : (∀ cs, Shortens (readValue fuel cs) cs.length) ∧
    (∀ cs, Shortens (readItems fuel cs) cs.length) ∧
      ∀ cs, Shortens (readMembers fuel cs) cs.length := by
  induction fuel with
  | zero =>
    refine ⟨fun cs => ?_, fun cs => ?_, fun cs => ?_⟩
    · rw [readValue]
      exact shortens_error _ _
    · rw [readItems]
      exact shortens_error _ _
    · rw [readMembers]
      exact shortens_error _ _
  | succ fuel ih =>
    obtain ⟨value, items, members⟩ := ih
    exact ⟨shortens_readValue_succ items members, shortens_readItems_succ value items,
      shortens_readMembers_succ value members⟩

theorem shortens_readValue (fuel : Nat) (cs : List Char) :
    Shortens (readValue fuel cs) cs.length :=
  (shortens_read fuel).1 cs

/-! ## Fuel -/

section

variable {f g : Nat} (value : ∀ cs : List Char, 2 * cs.length < f → readValue f cs = readValue g cs)
  (items : ∀ cs : List Char, 2 * cs.length + 1 < f → readItems f cs = readItems g cs)
  (members : ∀ cs : List Char, 2 * cs.length < f → readMembers f cs = readMembers g cs)

include items members in
theorem readValue_congr (enough : 2 * cs.length < f + 1) :
    readValue (f + 1) cs = readValue (g + 1) cs := by
  unfold readValue
  split
  · rfl
  · next text =>
    have := length_skipGap_le text
    rw [List.length_cons] at enough
    split
    · rfl
    · rw [members _ (by omega)]
  · next text =>
    have := length_skipGap_le text
    rw [List.length_cons] at enough
    split
    · rfl
    · rw [items _ (by omega)]
  · rfl

include value items in
theorem readItems_congr (enough : 2 * cs.length + 1 < f + 1) :
    readItems (f + 1) cs = readItems (g + 1) cs := by
  unfold readItems
  rw [← value cs (by omega)]
  split
  · rfl
  · next read =>
    have first := shortens_readValue f _ _ _ read
    split
    · rfl
    · next more comma =>
      have := length_lt_of_skipGap comma
      have := length_skipGap_le more
      rw [items _ (by omega)]
    · rfl

include value members in
theorem readMembers_congr (enough : 2 * cs.length < f + 1) :
    readMembers (f + 1) cs = readMembers (g + 1) cs := by
  unfold readMembers
  split
  · split
    · rfl
    · next named =>
      have name := shortens_readString _ _ _ _ named
      rw [List.length_cons] at enough
      split
      · next text colon =>
        have := length_lt_of_skipGap colon
        have := length_skipGap_le text
        rw [← value _ (by omega)]
        split
        · rfl
        · next read =>
          have first := shortens_readValue f _ _ _ read
          split
          · rfl
          · next more comma =>
            have := length_lt_of_skipGap comma
            have := length_skipGap_le more
            rw [members _ (by omega)]
          · rfl
      · rfl
  · rfl

end

/-- More fuel than enough makes no difference. -/
theorem read_congr {f g : Nat} (less : f ≤ g) :
    (∀ cs : List Char, 2 * cs.length < f → readValue f cs = readValue g cs) ∧
      (∀ cs : List Char, 2 * cs.length + 1 < f → readItems f cs = readItems g cs) ∧
      ∀ cs : List Char, 2 * cs.length < f → readMembers f cs = readMembers g cs := by
  induction f generalizing g with
  | zero => exact ⟨nofun, nofun, nofun⟩
  | succ f ih =>
    obtain ⟨g, rfl⟩ : ∃ k, g = k + 1 := ⟨g - 1, by omega⟩
    obtain ⟨value, items, members⟩ := ih (Nat.le_of_succ_le_succ less)
    exact ⟨fun _ => readValue_congr items members, fun _ => readItems_congr value items,
      fun _ => readMembers_congr value members⟩

/-- However deep the recursion may go, a document is read as with the depth that its length gives. -/
theorem readValue_eq_of_deep {fuel : Nat} (deep : 2 * cs.length < fuel) :
    readValue fuel (skipGap cs) = readValue (2 * cs.length + 1) (skipGap cs) := by
  have := length_skipGap_le cs
  exact ((read_congr deep).1 (skipGap cs) (by omega)).symm

end ImportBoundary.Json
