import ImportBoundary.Number.Shortest
import Mathlib.Algebra.Order.Field.Power
import Mathlib.Data.Rat.Cast.Order
import Mathlib.Tactic.FieldSimp
import Mathlib.Tactic.Linarith
import Mathlib.Tactic.Positivity
import Mathlib.Tactic.Ring

/-!
# Rounding to a number of the format

`RoundsTo` is the interval of a number: the rationals that are nearer to it than to any other number
of the format, and its ends if the mantissa is even. Whatever lies in the interval is rounded to the
number, as a ratio (`ofRatio_of_roundsTo`) and as a decimal (`ofDecimal_of_roundsTo`).
-/

namespace ImportBoundary.Binary64

/-- The mantissa and the exponent of a number of the format other than zero. Mantissas have all their
bits, except under the smallest exponent. -/
structure InFormat (m : Nat) (e : Int) : Prop where
  positive : 0 < m
  bounded : m < mantissaBound
  least : minExponent ≤ e
  greatest : e ≤ maxExponent
  full : minExponent < e → mantissaBound / 2 ≤ m

/-- The rational lies in the interval of `m * 2 ^ e`. -/
def RoundsTo (m : Nat) (e : Int) (x : ℚ) : Prop :=
  let (low, high, ends) := quarterBounds m e
  if ends then low * 2 ^ (e - 2) ≤ x ∧ x ≤ high * 2 ^ (e - 2)
  else low * 2 ^ (e - 2) < x ∧ x < high * 2 ^ (e - 2)

theorem two_zpow_pos (e : Int) : (0 : ℚ) < 2 ^ e :=
  zpow_pos (by norm_num) e

theorem quarter (e : Int) : (2 : ℚ) ^ (e - 2) = 2 ^ e / 4 := by
  rw [zpow_sub₀ (by norm_num)]
  norm_num

theorem cast_pow_toNat (base : Nat) {e : Int} (h : 0 ≤ e) :
    ((Nat.pow base e.toNat : Nat) : ℚ) = (base : ℚ) ^ e := by
  obtain ⟨n, rfl⟩ := Int.eq_ofNat_of_zero_le h
  simp

theorem cast_two_pow {e : Int} (h : 0 ≤ e) : ((Nat.pow 2 e.toNat : Nat) : ℚ) = 2 ^ e := by
  rw [cast_pow_toNat 2 h, Nat.cast_ofNat]

variable {m : Nat} {e : Int} {x : ℚ}

/-- The lower end of the interval in units of the last place. Below a power of two the numbers lie
closer together. -/
def lowerEnd (m : Nat) (e : Int) : ℚ :=
  if m = mantissaBound / 2 ∧ minExponent < e then m - 1 / 4 else m - 1 / 2

theorem lowerEnd_bounds (m : Nat) (e : Int) : (m : ℚ) - 1 / 2 ≤ lowerEnd m e ∧ lowerEnd m e < m := by
  unfold lowerEnd
  split <;> constructor <;> linarith

/-- The interval in units of the last place. -/
theorem roundsTo_iff (positive : 0 < m) : RoundsTo m e x ↔
    if m % 2 = 0 then lowerEnd m e ≤ x / 2 ^ e ∧ x / 2 ^ e ≤ m + 1 / 2
    else lowerEnd m e < x / 2 ^ e ∧ x / 2 ^ e < m + 1 / 2 := by
  have unit := two_zpow_pos e
  have low : (((quarterBounds m e).1 : ℕ) : ℚ) * 2 ^ (e - 2) = lowerEnd m e * 2 ^ e := by
    rw [quarter, quarterBounds, lowerEnd]
    split
    · rw [Nat.cast_sub (by omega)]
      push_cast
      ring
    · rw [Nat.cast_sub (by omega)]
      push_cast
      ring
  have high : (((quarterBounds m e).2.1 : ℕ) : ℚ) * 2 ^ (e - 2) = ((m : ℚ) + 1 / 2) * 2 ^ e := by
    rw [quarter, quarterBounds]
    push_cast
    ring
  have ends : (quarterBounds m e).2.2 = decide (m % 2 = 0) := rfl
  simp only [RoundsTo, low, high, ends, decide_eq_true_eq, le_div_iff₀ unit, div_le_iff₀ unit,
    lt_div_iff₀ unit, div_lt_iff₀ unit]

/-- At most half a unit from the number, and less where the mantissa is odd. -/
theorem RoundsTo.near (h : RoundsTo m e x) (positive : 0 < m) :
    ((m : ℚ) - 1 / 2 ≤ x / 2 ^ e ∧ x / 2 ^ e ≤ m + 1 / 2) ∧
      (m % 2 = 1 → (m : ℚ) - 1 / 2 < x / 2 ^ e ∧ x / 2 ^ e < m + 1 / 2) := by
  obtain ⟨half, -⟩ := lowerEnd_bounds m e
  have odd : m % 2 = 1 → ¬ m % 2 = 0 := by omega
  rw [roundsTo_iff positive] at h
  refine ⟨?_, fun tie => ?_⟩
  · split at h <;> constructor <;> linarith [h.1, h.2]
  · rw [if_neg (odd tie)] at h
    exact ⟨half.trans_lt h.1, h.2⟩

/-- Below a power of two the interval is narrower. -/
theorem RoundsTo.near_below (h : RoundsTo m e x) (positive : 0 < m)
    (power : m = mantissaBound / 2) (above : minExponent < e) : (m : ℚ) - 1 / 4 ≤ x / 2 ^ e := by
  have low : lowerEnd m e = m - 1 / 4 := if_pos ⟨power, above⟩
  rw [roundsTo_iff positive, low] at h
  split at h
  · exact h.1
  · exact h.1.le

theorem roundsTo_of_lt (positive : 0 < m) (lower : lowerEnd m e < x / 2 ^ e)
    (upper : x / 2 ^ e < m + 1 / 2) : RoundsTo m e x := by
  rw [roundsTo_iff positive]
  split
  · exact ⟨lower.le, upper.le⟩
  · exact ⟨lower, upper⟩

/-! ## Division with rounding -/

theorem roundDiv_eq {a b n : Nat} (lower : 2 * n * b ≤ 2 * a + b) (upper : 2 * a ≤ 2 * n * b + b)
    (positive : 0 < b) (tie : n % 2 = 1 → 2 * n * b ≠ 2 * a + b ∧ 2 * a ≠ 2 * n * b + b) :
    roundDiv a b = n := by
  have whole := Nat.div_add_mod a b
  have less := Nat.mod_lt a positive
  simp only [roundDiv]
  generalize a / b = q at whole ⊢
  generalize a % b = r at whole less ⊢
  subst whole
  have above : n ≤ q + 1 := by
    by_contra far
    have : 2 * (q + 2) * b ≤ 2 * n * b := Nat.mul_le_mul_right b (by omega)
    have expand : 2 * (q + 2) * b = 2 * (b * q) + 4 * b := by ring
    omega
  have below : q ≤ n := by
    by_contra far
    have : 2 * (n + 1) * b ≤ 2 * (b * q) := by
      have := Nat.mul_le_mul_left b (show n + 1 ≤ q by omega)
      have expand : 2 * (n + 1) * b = 2 * (b * (n + 1)) := by ring
      omega
    have expand : 2 * (n + 1) * b = 2 * n * b + 2 * b := by ring
    omega
  rcases Nat.lt_or_ge q n with less' | more
  · obtain rfl : n = q + 1 := by omega
    have expand : 2 * (q + 1) * b = 2 * (b * q) + 2 * b := by ring
    rw [expand] at lower upper tie
    rw [if_pos (by omega)]
  · obtain rfl : n = q := by omega
    have expand : 2 * n * b = 2 * (b * n) := by ring
    rw [expand] at lower upper tie
    rw [if_neg (by omega)]

theorem roundDiv_of_near {a b n : Nat} (positive : 0 < b)
    (near : (n : ℚ) - 1 / 2 ≤ a / b ∧ (a : ℚ) / b ≤ n + 1 / 2)
    (tie : n % 2 = 1 → (n : ℚ) - 1 / 2 < a / b ∧ (a : ℚ) / b < n + 1 / 2) : roundDiv a b = n := by
  have unit : (0 : ℚ) < b := by exact_mod_cast positive
  simp only [le_div_iff₀ unit, div_le_iff₀ unit, lt_div_iff₀ unit, div_lt_iff₀ unit] at near tie
  refine roundDiv_eq ?_ ?_ positive fun odd => ⟨?_, ?_⟩
  · have : (2 : ℚ) * n * b ≤ 2 * a + b := by linarith [near.1]
    exact_mod_cast this
  · have : (2 : ℚ) * a ≤ 2 * n * b + b := by linarith [near.2]
    exact_mod_cast this
  · have : (2 : ℚ) * n * b < 2 * a + b := by linarith [(tie odd).1]
    exact ne_of_lt (by exact_mod_cast this)
  · have : (2 : ℚ) * a < 2 * n * b + b := by linarith [(tie odd).2]
    exact ne_of_lt (by exact_mod_cast this)

/-! ## The logarithm of a ratio -/

theorem log2_spec {n : Nat} (h : 0 < n) :
    (2 : ℚ) ^ (Nat.log2 n : Int) ≤ n ∧ (n : ℚ) < 2 ^ (Nat.log2 n + 1 : Int) := by
  have lower := Nat.log2_self_le (show n ≠ 0 by omega)
  have upper := Nat.lt_log2_self (n := n)
  constructor
  · rw [zpow_natCast]
    exact_mod_cast lower
  · rw [← Int.natCast_succ, zpow_natCast]
    exact_mod_cast upper

/-- Both sides of a comparison with a power are multiplied up to naturals. -/
theorem reached_iff {num den : Nat} (hd : 0 < den) (g : Int) :
    (if 0 ≤ g then den * Nat.pow 2 g.toNat ≤ num else den ≤ num * Nat.pow 2 (-g).toNat) ↔
      (2 : ℚ) ^ g ≤ num / den := by
  have unit : (0 : ℚ) < den := by exact_mod_cast hd
  rw [le_div_iff₀ unit]
  split
  · next up =>
    rw [← cast_two_pow up, mul_comm]
    exact_mod_cast Iff.rfl
  · next down =>
    have power := cast_two_pow (show 0 ≤ -g by omega)
    have cancel : (2 : ℚ) ^ g * 2 ^ (-g) = 1 := by
      rw [← zpow_add₀ (by norm_num), add_neg_cancel, zpow_zero]
    have scale : (2 : ℚ) ^ g * den ≤ num ↔ (den : ℚ) ≤ num * 2 ^ (-g) := by
      have positive := two_zpow_pos (-g)
      rw [← mul_le_mul_iff_of_pos_right positive,
        show (2 : ℚ) ^ g * den * 2 ^ (-g) = 2 ^ g * 2 ^ (-g) * den by ring, cancel, one_mul]
    rw [scale, ← power]
    exact_mod_cast Iff.rfl

theorem logRatio_spec {num den : Nat} (hn : 0 < num) (hd : 0 < den) :
    (2 : ℚ) ^ logRatio num den ≤ num / den ∧ (num : ℚ) / den < 2 ^ (logRatio num den + 1) := by
  have unit : (0 : ℚ) < den := by exact_mod_cast hd
  obtain ⟨num_lower, num_upper⟩ := log2_spec hn
  obtain ⟨den_lower, den_upper⟩ := log2_spec hd
  have split_power (a b : Int) : (2 : ℚ) ^ (a + b) = 2 ^ a * 2 ^ b := zpow_add₀ (by norm_num) a b
  simp only [logRatio, reached_iff hd]
  generalize guess : (Nat.log2 num : Int) - Nat.log2 den = g
  have above : (num : ℚ) / den < 2 ^ (g + 1) := by
    rw [div_lt_iff₀ unit]
    calc (num : ℚ) < 2 ^ ((Nat.log2 num : Int) + 1) := num_upper
      _ = 2 ^ (g + 1) * 2 ^ (Nat.log2 den : Int) := by rw [← split_power]; congr 1; omega
      _ ≤ 2 ^ (g + 1) * den := mul_le_mul_of_nonneg_left den_lower (two_zpow_pos _).le
  have below : (2 : ℚ) ^ (g - 1) ≤ num / den := by
    rw [le_div_iff₀ unit]
    calc (2 : ℚ) ^ (g - 1) * den ≤ 2 ^ (g - 1) * 2 ^ ((Nat.log2 den : Int) + 1) :=
          mul_le_mul_of_nonneg_left den_upper.le (two_zpow_pos _).le
      _ = 2 ^ (Nat.log2 num : Int) := by rw [← split_power]; congr 1; omega
      _ ≤ num := num_lower
  split
  · next reached => exact ⟨reached, above⟩
  · next missed => exact ⟨below, by rw [sub_add_cancel]; exact lt_of_not_ge missed⟩

theorem logRatio_eq {num den : Nat} {l : Int} (hn : 0 < num) (hd : 0 < den)
    (lower : (2 : ℚ) ^ l ≤ num / den) (upper : (num : ℚ) / den < 2 ^ (l + 1)) :
    logRatio num den = l := by
  obtain ⟨lower', upper'⟩ := logRatio_spec hn hd
  have below := (zpow_lt_zpow_iff_right₀ (by norm_num : (1 : ℚ) < 2)).mp (lower.trans_lt upper')
  have above := (zpow_lt_zpow_iff_right₀ (by norm_num : (1 : ℚ) < 2)).mp (lower'.trans_lt upper)
  omega

/-! ## Ratios -/

/-- The quotient is taken in units of a power of two. -/
theorem roundDiv_scaled {num den n : Nat} {e : Int} (hd : 0 < den)
    (near : (n : ℚ) - 1 / 2 ≤ num / den / 2 ^ e ∧ (num : ℚ) / den / 2 ^ e ≤ n + 1 / 2)
    (tie : n % 2 = 1 → (n : ℚ) - 1 / 2 < num / den / 2 ^ e ∧ (num : ℚ) / den / 2 ^ e < n + 1 / 2) :
    (if 0 ≤ e then roundDiv num (den * Nat.pow 2 e.toNat)
      else roundDiv (num * Nat.pow 2 (-e).toNat) den) = n := by
  split
  · next up =>
    have same : (num : ℚ) / den / 2 ^ e = num / (den * Nat.pow 2 e.toNat : Nat) := by
      rw [Nat.cast_mul, cast_two_pow up, div_div]
    rw [same] at near tie
    exact roundDiv_of_near (Nat.mul_pos hd (Nat.pow_pos (by decide))) near tie
  · next down =>
    have same : (num : ℚ) / den / 2 ^ e = (num * Nat.pow 2 (-e).toNat : Nat) / den := by
      rw [Nat.cast_mul, cast_two_pow (by omega), zpow_neg, div_right_comm, div_eq_mul_inv _ (2 ^ e)]
    rw [same] at near tie
    exact roundDiv_of_near hd near tie

theorem mantissaBound_eq : mantissaBound = 9007199254740992 :=
  rfl

theorem ofRatio_of_mantissa {num den : Nat} (hn : 0 < num) (hd : 0 < den) {n : Nat} {e : Int}
    (exponent : max minExponent (logRatio num den - 52) = e)
    (near : (n : ℚ) - 1 / 2 ≤ num / den / 2 ^ e ∧ (num : ℚ) / den / 2 ^ e ≤ n + 1 / 2)
    (tie : n % 2 = 1 → (n : ℚ) - 1 / 2 < num / den / 2 ^ e ∧ (num : ℚ) / den / 2 ^ e < n + 1 / 2)
    (negative : Bool) :
    ofRatio negative num den =
      if n = mantissaBound then
        if maxExponent < e + 1 then .infinite negative else .finite negative (n / 2) (e + 1)
      else if maxExponent < e then .infinite negative else .finite negative n e := by
  simp only [ofRatio, if_neg (show num ≠ 0 by omega), exponent, roundDiv_scaled hd near tie]
  by_cases carried : n = mantissaBound
  · simp only [if_pos carried]
  · simp only [if_neg carried]

/-- A ratio in the interval of a number is rounded to it. Just below a power of two the quotient is
taken in smaller units, and the carry brings it back. -/
theorem ofRatio_of_roundsTo (format : InFormat m e) {num den : Nat} (hd : 0 < den)
    (h : RoundsTo m e (num / den)) (negative : Bool) :
    ofRatio negative num den = .finite negative m e := by
  obtain ⟨positive, bounded, least, greatest, full⟩ := format
  obtain ⟨near, tie⟩ := h.near positive
  have unit := two_zpow_pos e
  have one : (1 : ℚ) ≤ m := by exact_mod_cast positive
  have hn : 0 < num := by
    by_contra zero
    obtain rfl : num = 0 := by omega
    rw [Nat.cast_zero, zero_div, zero_div] at near
    linarith [near.1]
  have scale (k : Nat) : (2 : ℚ) ^ ((k : Int) + e) = 2 ^ k * 2 ^ e := by
    rw [zpow_add₀ (by norm_num), zpow_natCast]
  have upper : (num : ℚ) / den / 2 ^ e < 2 ^ 53 := by
    have : (m : ℚ) + 1 ≤ 2 ^ 53 := by
      rw [mantissaBound_eq] at bounded
      exact_mod_cast (show m + 1 ≤ 2 ^ 53 by omega)
    linarith [near.2]
  rw [div_lt_iff₀ unit] at upper
  by_cases carried : minExponent < e ∧ (num : ℚ) / den / 2 ^ e < 2 ^ 52
  · obtain ⟨above, below⟩ := carried
    have power : m = mantissaBound / 2 := by
      have : (m : ℚ) < (2 ^ 52 + 1 : Nat) := by
        push_cast
        linarith [near.1]
      have : m < 2 ^ 52 + 1 := by exact_mod_cast this
      have := full above
      rw [mantissaBound_eq] at this ⊢
      omega
    have narrow := h.near_below positive power above
    have mantissa : (m : ℚ) = 2 ^ 52 := by
      rw [power, mantissaBound_eq]
      norm_num
    rw [mantissa] at narrow
    have half : (num : ℚ) / den / 2 ^ (e - 1) = 2 * ((num : ℚ) / den / 2 ^ e) := by
      rw [zpow_sub₀ (by norm_num)]
      field_simp
    have log : logRatio num den = 51 + e := by
      refine logRatio_eq hn hd ?_ ?_
      · rw [show (51 : Int) = ((51 : Nat) : Int) from rfl, scale, ← le_div_iff₀ unit]
        linarith
      · rw [show 51 + e + 1 = ((52 : Nat) : Int) + e by ring, scale, ← div_lt_iff₀ unit]
        exact below
    have exponent : max minExponent (logRatio num den - 52) = e - 1 := by
      rw [log]
      omega
    have near' : ((mantissaBound : Nat) : ℚ) - 1 / 2 ≤ num / den / 2 ^ (e - 1) ∧
        (num : ℚ) / den / 2 ^ (e - 1) ≤ (mantissaBound : Nat) + 1 / 2 := by
      rw [half, mantissaBound_eq]
      constructor <;> push_cast <;> linarith
    have even : mantissaBound % 2 = 1 → False := by decide
    rw [ofRatio_of_mantissa hn hd exponent near' (fun odd => (even odd).elim), if_pos rfl, ← power,
      sub_add_cancel, if_neg (by omega)]
  · have exponent : max minExponent (logRatio num den - 52) = e := by
      obtain ⟨log_lower, log_upper⟩ := logRatio_spec hn hd
      have one_lt : (1 : ℚ) < 2 := by norm_num
      have below : logRatio num den < ((53 : Nat) : Int) + e := by
        rw [← zpow_lt_zpow_iff_right₀ one_lt, scale]
        exact log_lower.trans_lt upper
      by_cases above : minExponent < e
      · have full : (2 : ℚ) ^ 52 ≤ num / den / 2 ^ e :=
          le_of_not_gt fun less => carried ⟨above, less⟩
        rw [le_div_iff₀ unit] at full
        have reached : ((52 : Nat) : Int) + e < logRatio num den + 1 := by
          rw [← zpow_lt_zpow_iff_right₀ one_lt, scale]
          exact full.trans_lt log_upper
        omega
      · omega
    rw [ofRatio_of_mantissa hn hd exponent near tie, if_neg (by omega), if_neg (by omega)]

/-! ## Decimals -/

theorem RoundsTo.bounds (h : RoundsTo m e x) (format : InFormat m e) :
    (2 : ℚ) ^ (-1075 : Int) ≤ x ∧ x < 2 ^ (1024 : Int) := by
  obtain ⟨positive, bounded, least, greatest, -⟩ := format
  obtain ⟨near, -⟩ := h.near positive
  have unit := two_zpow_pos e
  have one : (1 : ℚ) ≤ m := by exact_mod_cast positive
  have upper : (m : ℚ) + 1 ≤ 2 ^ 53 := by
    rw [mantissaBound_eq] at bounded
    exact_mod_cast (show m + 1 ≤ 2 ^ 53 by omega)
  rw [le_div_iff₀ unit, div_le_iff₀ unit] at near
  constructor
  · calc (2 : ℚ) ^ (-1075 : Int) = 1 / 2 * 2 ^ (-1074 : Int) := by
          rw [show (-1075 : Int) = -1 + -1074 by norm_num, zpow_add₀ (by norm_num)]
          norm_num
      _ ≤ 1 / 2 * 2 ^ e :=
          mul_le_mul_of_nonneg_left (zpow_le_zpow_right₀ (by norm_num) least) (by norm_num)
      _ ≤ (m - 1 / 2) * 2 ^ e := mul_le_mul_of_nonneg_right (by linarith) unit.le
      _ ≤ x := near.1
  · calc x ≤ (m + 1 / 2) * 2 ^ e := near.2
      _ < 2 ^ 53 * 2 ^ e := mul_lt_mul_of_pos_right (by linarith) unit
      _ ≤ 2 ^ 53 * 2 ^ (971 : Int) :=
          mul_le_mul_of_nonneg_left (zpow_le_zpow_right₀ (by norm_num) greatest) (by norm_num)
      _ = 2 ^ (1024 : Int) := by
          rw [show (1024 : Int) = 53 + 971 by norm_num, zpow_add₀ (by norm_num)]
          norm_num

/-- A positive number lies between the powers of ten around the number of its digits. -/
theorem toDigits_bounds {n : Nat} (h : 0 < n) :
    (10 : ℚ) ^ (((Nat.toDigits 10 n).length : Int) - 1) ≤ n ∧
      (n : ℚ) < 10 ^ ((Nat.toDigits 10 n).length : Int) := by
  have some : 0 < (Nat.toDigits 10 n).length := Nat.length_toDigits_pos
  have upper := (Nat.length_toDigits_le_iff (by decide : 1 < 10) some).mp (Nat.le_refl _)
  have lower : 10 ^ ((Nat.toDigits 10 n).length - 1) ≤ n := by
    by_cases single : (Nat.toDigits 10 n).length - 1 = 0
    · rw [single]
      exact h
    · refine Nat.le_of_not_lt fun less => ?_
      have := (Nat.length_toDigits_le_iff (by decide : 1 < 10) (by omega)).mpr less
      omega
  constructor
  · rw [show ((Nat.toDigits 10 n).length : Int) - 1 = (((Nat.toDigits 10 n).length - 1 : Nat) : Int) by
      omega, zpow_natCast]
    exact_mod_cast lower
  · rw [zpow_natCast]
    exact_mod_cast upper

theorem ten_zpow_le : (10 : ℚ) ^ (-330 : Int) ≤ 2 ^ (-1075 : Int) := by
  have powers : (2 : Nat) ^ 1075 ≤ 10 ^ 330 := by decide +kernel
  rw [zpow_neg, zpow_neg]
  refine inv_anti₀ (zpow_pos (by norm_num) _) ?_
  exact_mod_cast powers

theorem two_zpow_le : (2 : ℚ) ^ (1024 : Int) ≤ 10 ^ (310 : Int) := by
  have powers : (2 : Nat) ^ 1024 ≤ 10 ^ 310 := by decide +kernel
  exact_mod_cast powers

/-- A decimal in the interval of a number is read as that number. -/
theorem ofDecimal_of_roundsTo (format : InFormat m e) {digits : Nat} {exponent : Int}
    (h : RoundsTo m e (digits * 10 ^ exponent)) (negative : Bool) :
    ofDecimal negative digits exponent = .finite negative m e := by
  obtain ⟨least, greatest⟩ := h.bounds format
  have ten (k : Int) : (0 : ℚ) < 10 ^ k := zpow_pos (by norm_num) k
  have one_lt : (1 : ℚ) < 10 := by norm_num
  have some : 0 < digits := by
    by_contra zero
    obtain rfl : digits = 0 := by omega
    rw [Nat.cast_zero, zero_mul] at least
    exact absurd least (not_le.mpr (two_zpow_pos _))
  obtain ⟨lower, upper⟩ := toDigits_bounds some
  have small : ¬ (((Nat.toDigits 10 digits).length : Int) + exponent < tooSmall) := by
    intro less
    have far : (digits : ℚ) * 10 ^ exponent < 10 ^ (-330 : Int) :=
      calc (digits : ℚ) * 10 ^ exponent
          < 10 ^ ((Nat.toDigits 10 digits).length : Int) * 10 ^ exponent :=
            mul_lt_mul_of_pos_right upper (ten _)
        _ = 10 ^ (((Nat.toDigits 10 digits).length : Int) + exponent) :=
            (zpow_add₀ (by norm_num) _ _).symm
        _ ≤ 10 ^ (-330 : Int) := zpow_le_zpow_right₀ one_lt.le less.le
    exact absurd (least.trans_lt far) (not_lt.mpr ten_zpow_le)
  have large : ¬ (tooLarge < ((Nat.toDigits 10 digits).length : Int) + exponent) := by
    intro more
    have far : (10 : ℚ) ^ (310 : Int) ≤ digits * 10 ^ exponent :=
      calc (10 : ℚ) ^ (310 : Int)
          ≤ 10 ^ (((Nat.toDigits 10 digits).length : Int) - 1 + exponent) :=
            zpow_le_zpow_right₀ one_lt.le (by rw [tooLarge] at more; omega)
        _ = 10 ^ (((Nat.toDigits 10 digits).length : Int) - 1) * 10 ^ exponent :=
            zpow_add₀ (by norm_num) _ _
        _ ≤ digits * 10 ^ exponent := mul_le_mul_of_nonneg_right lower (ten _).le
    exact absurd (far.trans_lt greatest) (not_lt.mpr two_zpow_le)
  simp only [ofDecimal, small, large, if_false, or_false, if_neg (show digits ≠ 0 by omega)]
  split
  · next up =>
    refine ofRatio_of_roundsTo format (by decide) ?_ negative
    rwa [Nat.cast_mul, cast_pow_toNat 10 up, Nat.cast_one, div_one, Nat.cast_ofNat]
  · next down =>
    have power : 0 < Nat.pow 10 (-exponent).toNat := Nat.pow_pos (by decide)
    refine ofRatio_of_roundsTo format power ?_ negative
    rwa [cast_pow_toNat 10 (by omega), Nat.cast_ofNat, zpow_neg, div_inv_eq_mul]

end ImportBoundary.Binary64
