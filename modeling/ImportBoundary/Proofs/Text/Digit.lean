import ImportBoundary.Text.Digit
import ImportBoundary.Text.Quoted
import Mathlib.Tactic.Ring

/-!
# Digits that are read back

The digits that are written for a number have its value (`valueInBase_toDigits`), and so have those
that are filled up with zeros to a width (`valueInBase_hexDigits`, `length_hexDigits`). Decimal digits
do not start with a zero, that of zero itself aside.
-/

namespace ImportBoundary.Text

variable {base : Nat}

theorem radixDigit?_digitChar {d : Nat} (h : d < base) (small : base ≤ 16) :
    radixDigit? base (Nat.digitChar d) = some d := by
  have found (b : Fin 17) (d : Fin 16) :
      d.1 < b.1 → radixDigit? b.1 (Nat.digitChar d) = some d.1 := by
    revert b d
    decide
  exact found ⟨base, by omega⟩ ⟨d, by omega⟩ h

theorem exists_digit_of_mem_toDigits (h : 1 < base) {n : Nat} {c : Char}
    (hc : c ∈ Nat.toDigits base n) : ∃ d < base, c = Nat.digitChar d := by
  induction n using Nat.strongRecOn with
  | ind n ih =>
    rw [Nat.toDigits_eq_if h] at hc
    split at hc
    · next less => exact ⟨n, less, List.mem_singleton.mp hc⟩
    · rcases List.mem_append.mp hc with hc | hc
      · exact ih _ (Nat.div_lt_self (by omega) h) hc
      · exact ⟨n % base, Nat.mod_lt _ (by omega), List.mem_singleton.mp hc⟩

/-! ## Values -/

theorem foldl_value (base n : Nat) (cs : List Char) :
    cs.foldl (fun acc c => acc * base + (radixDigit? base c).getD 0) n =
      n * base ^ cs.length + valueInBase base cs := by
  induction cs generalizing n with
  | nil => simp [valueInBase]
  | cons c cs ih =>
    rw [valueInBase, List.foldl_cons, List.foldl_cons, ih, ih (0 * base + _), List.length_cons,
      Nat.pow_succ]
    ring

theorem valueInBase_append (base : Nat) (xs ys : List Char) :
    valueInBase base (xs ++ ys) = valueInBase base xs * base ^ ys.length + valueInBase base ys := by
  rw [valueInBase, List.foldl_append, foldl_value]
  rfl

theorem valueInBase_cons (base : Nat) (c : Char) (cs : List Char) :
    valueInBase base (c :: cs) =
      (radixDigit? base c).getD 0 * base ^ cs.length + valueInBase base cs := by
  rw [← List.singleton_append, valueInBase_append]
  simp [valueInBase]

theorem valueInBase_toDigits (h : 1 < base) (small : base ≤ 16) (n : Nat) :
    valueInBase base (Nat.toDigits base n) = n := by
  induction n using Nat.strongRecOn with
  | ind n ih =>
    rw [Nat.toDigits_eq_if h]
    split
    · next less => simp [valueInBase, radixDigit?_digitChar less small]
    · next more =>
      have digit : n % base < base := Nat.mod_lt _ (by omega)
      have last : valueInBase base [Nat.digitChar (n % base)] = n % base := by
        simp [valueInBase, radixDigit?_digitChar digit small]
      rw [valueInBase_append, ih _ (Nat.div_lt_self (by omega) h), last, List.length_singleton,
        Nat.pow_one, Nat.mul_comm]
      exact Nat.div_add_mod n base

theorem valueInBase_zeros (base count : Nat) :
    valueInBase base (List.replicate count '0') = 0 := by
  induction count with
  | zero => rfl
  | succ count ih =>
    have zero : (radixDigit? base '0').getD 0 = 0 := by
      cases base <;> simp [radixDigit?]
    rw [List.replicate_succ, valueInBase_cons, zero, ih, Nat.zero_mul]

/-! ## Decimal digits -/

theorem isAsciiDigit_of_mem_toDigits {n : Nat} {c : Char} (h : c ∈ Nat.toDigits 10 n) :
    isAsciiDigit c = true := by
  have digit := Nat.isDigit_of_mem_toDigits (by decide) (by decide) h
  simpa [isAsciiDigit, Char.isDigit, Char.le_def] using digit

/-- The digits of a positive number start with a digit that is not zero. -/
theorem exists_toDigits_eq_cons {n : Nat} (h : 0 < n) :
    ∃ c cs, Nat.toDigits 10 n = c :: cs ∧ c ≠ '0' := by
  induction n using Nat.strongRecOn with
  | ind n ih =>
    rw [Nat.toDigits_eq_if (by decide)]
    split
    · next less =>
      have digit (d : Fin 10) : 0 < d.1 → Nat.digitChar d ≠ '0' := by
        revert d
        decide
      exact ⟨_, [], rfl, digit ⟨n, less⟩ h⟩
    · obtain ⟨c, cs, digits, head⟩ := ih (n / 10) (by omega) (by omega)
      exact ⟨c, cs ++ [Nat.digitChar (n % 10)], by rw [digits]; rfl, head⟩

/-! ## Digits of a width -/

theorem length_hexDigits {width n : Nat} (h : n < 16 ^ width) (wide : 0 < width) :
    (hexDigits width n).length = width := by
  have short := (Nat.length_toDigits_le_iff (by decide : 1 < 16) wide).mpr h
  simp only [hexDigits, List.length_append, List.length_replicate]
  omega

theorem valueInBase_hexDigits (width n : Nat) : valueInBase 16 (hexDigits width n) = n := by
  rw [hexDigits, valueInBase_append, valueInBase_zeros, valueInBase_toDigits (by decide) (by decide)]
  simp

/-- Hexadecimal digits that are written are digits. -/
theorem exists_radixDigit?_of_mem_hexDigits {width n : Nat} {c : Char} (h : c ∈ hexDigits width n) :
    ∃ d, radixDigit? 16 c = some d := by
  rcases List.mem_append.mp h with zero | digit
  · exact ⟨0, by rw [List.eq_of_mem_replicate zero]; rfl⟩
  · obtain ⟨d, less, rfl⟩ := exists_digit_of_mem_toDigits (by decide) digit
    exact ⟨d, radixDigit?_digitChar less (Nat.le_refl 16)⟩

end ImportBoundary.Text
