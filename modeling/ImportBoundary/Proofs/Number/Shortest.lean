import ImportBoundary.Proofs.Number.Rounding
import Mathlib.Data.Nat.Cast.Order.Field

/-!
# Shortest decimals that are read back

Whatever decimal is found for a number lies in its interval (`nearestOnGrid_spec`), and with seventeen
digits one is found (`exists_nearestOnGrid`), so the decimal that is written is read as the number
(`ofDecimal_shortest`).
-/

namespace ImportBoundary.Binary64

theorem powerRatio_spec {base : Nat} (h : 0 < base) (e : Int) :
    0 < (powerRatio base e).1 ∧ 0 < (powerRatio base e).2 ∧
      ((powerRatio base e).1 : ℚ) / (powerRatio base e).2 = (base : ℚ) ^ e := by
  unfold powerRatio
  split
  · next up =>
    exact ⟨Nat.pow_pos h, Nat.one_pos, by rw [cast_pow_toNat base up, Nat.cast_one, div_one]⟩
  · next down =>
    refine ⟨Nat.one_pos, Nat.pow_pos h, ?_⟩
    rw [cast_pow_toNat base (by omega), Nat.cast_one, zpow_neg, one_div, inv_inv]

/-! ## Decimals on a grid -/

section

variable {u d t s : Nat} (dp : 0 < d) (sp : 0 < s)

include dp sp

theorem scaled_le_iff (a c : Nat) :
    a * u * s ≤ c * (t * d) ↔ (a : ℚ) * (u / d) ≤ c * (t / s) := by
  have dpos : (0 : ℚ) < d := by exact_mod_cast dp
  have spos : (0 : ℚ) < s := by exact_mod_cast sp
  rw [← mul_div_assoc, ← mul_div_assoc, div_le_div_iff₀ dpos spos, mul_assoc (c : ℚ)]
  exact_mod_cast Iff.rfl

theorem le_scaled_iff (a c : Nat) :
    c * (t * d) ≤ a * u * s ↔ (c : ℚ) * (t / s) ≤ a * (u / d) := by
  have dpos : (0 : ℚ) < d := by exact_mod_cast dp
  have spos : (0 : ℚ) < s := by exact_mod_cast sp
  rw [← mul_div_assoc, ← mul_div_assoc, div_le_div_iff₀ spos dpos, mul_assoc (c : ℚ)]
  exact_mod_cast Iff.rfl

end

/-- The two decimals around a number, of which one is taken if it lies in the interval. -/
theorem nearestOnGrid_spec (m : Nat) (e k : Int) :
    ∃ below : Nat, (below : ℚ) * 10 ^ k ≤ m * 2 ^ e ∧ (m : ℚ) * 2 ^ e < (below + 1 : Nat) * 10 ^ k ∧
      (nearestOnGrid m e k = none → ¬ RoundsTo m e (below * 10 ^ k) ∧
        ¬ RoundsTo m e ((below + 1 : Nat) * 10 ^ k)) ∧
      ∀ c, nearestOnGrid m e k = some c → RoundsTo m e (c * 10 ^ k) := by
  classical
  obtain ⟨-, dp, two⟩ := powerRatio_spec (by decide : 0 < 2) (e - 2)
  obtain ⟨tp, sp, ten⟩ := powerRatio_spec (by decide : 0 < 10) k
  rw [Nat.cast_ofNat] at two ten
  obtain ⟨⟨u, d⟩, hu⟩ : ∃ r, powerRatio 2 (e - 2) = r := ⟨_, rfl⟩
  obtain ⟨⟨t, s⟩, ht⟩ : ∃ r, powerRatio 10 k = r := ⟨_, rfl⟩
  obtain ⟨⟨low, high, ends⟩, hq⟩ : ∃ r, quarterBounds m e = r := ⟨_, rfl⟩
  simp only [hu] at dp two
  simp only [ht] at tp sp ten
  have inside (c : Nat) :
      (if ends = true then low * u * s ≤ c * (t * d) ∧ c * (t * d) ≤ high * u * s
        else low * u * s < c * (t * d) ∧ c * (t * d) < high * u * s) ↔
        RoundsTo m e (c * 10 ^ k) := by
    simp only [RoundsTo, hq, ← Nat.not_le, scaled_le_iff dp sp, le_scaled_iff dp sp, two, ten, not_le]
  have quarters : (m : ℚ) * 2 ^ e = (4 * m : Nat) * 2 ^ (e - 2) := by
    rw [quarter]
    push_cast
    ring
  refine ⟨4 * m * u * s / (t * d), ?_, ?_, ?_, ?_⟩
  · rw [quarters, ← two, ← ten, ← le_scaled_iff dp sp]
    exact Nat.div_mul_le_self _ _
  · rw [quarters, ← two, ← ten, ← not_le, ← le_scaled_iff dp sp, Nat.not_le, Nat.mul_comm _ (t * d)]
    exact Nat.lt_mul_div_succ _ (Nat.mul_pos tp dp)
  · intro none
    rw [nearestOnGrid, hu, ht, hq] at none
    simp only [inside] at none
    split_ifs at none with both closer below above
    exact ⟨below, above⟩
  · intro c found
    rw [nearestOnGrid, hu, ht, hq] at found
    simp only [inside] at found
    split_ifs at found with both closer below above <;> obtain rfl := Option.some.inj found
    · exact both.1
    · exact both.2
    · exact below
    · exact above

/-! ## Seventeen digits -/

variable {m : Nat} {e : Int}

theorem two_zpow_le_ten_zpow : (2 : ℚ) ^ (1074 : Int) ≤ 10 ^ (400 : Int) := by
  have powers : (2 : Nat) ^ 1074 ≤ 10 ^ 400 := by decide +kernel
  exact_mod_cast powers

/-- The decimal point is not further left than the first digit. -/
theorem pointPlace_spec (format : InFormat m e) :
    (10 : ℚ) ^ (pointPlace m e - 1) ≤ m * 2 ^ e := by
  obtain ⟨up, dp, two⟩ := powerRatio_spec (by decide : 0 < 2) e
  rw [Nat.cast_ofNat] at two
  obtain ⟨⟨u, d⟩, hu⟩ : ∃ r, powerRatio 2 e = r := ⟨_, rfl⟩
  simp only [hu] at up dp two
  have unit : (0 : ℚ) < d := by exact_mod_cast dp
  -- a name for 400, so that the power stays a power
  obtain ⟨places, hp⟩ : ∃ places : Nat, places = 400 := ⟨_, rfl⟩
  obtain ⟨shift, hs⟩ : ∃ shift, Nat.pow 10 places = shift := ⟨_, rfl⟩
  have power : (shift : ℚ) = 10 ^ (400 : Int) := by
    rw [show (400 : Int) = places by omega, zpow_natCast, ← hs]
    exact Nat.cast_pow 10 places
  have place : pointPlace m e = ((Nat.toDigits 10 (m * u * shift / d)).length : Int) - 400 := by
    rw [pointPlace, hu, ← hp, hs]
  have shifted : ((m * u * shift : Nat) : ℚ) / d = m * 2 ^ e * 10 ^ (400 : Int) := by
    rw [← two, ← power]
    push_cast
    ring
  have reached : 0 < m * u * shift / d := by
    have one : (1 : ℚ) ≤ m := by exact_mod_cast format.positive
    have least : (1 : ℚ) ≤ m * 2 ^ e * 10 ^ (400 : Int) :=
      calc (1 : ℚ) = 2 ^ (-1074 : Int) * 2 ^ (1074 : Int) := by
            rw [← zpow_add₀ (by norm_num), neg_add_cancel, zpow_zero]
        _ ≤ 2 ^ e * 10 ^ (400 : Int) :=
            mul_le_mul (zpow_le_zpow_right₀ (by norm_num) format.least) two_zpow_le_ten_zpow
              (two_zpow_pos _).le (two_zpow_pos _).le
        _ ≤ m * 2 ^ e * 10 ^ (400 : Int) :=
            mul_le_mul_of_nonneg_right (le_mul_of_one_le_left (two_zpow_pos _).le one)
              (zpow_nonneg (by norm_num) _)
    rw [← shifted, le_div_iff₀ unit, one_mul] at least
    exact Nat.div_pos (by exact_mod_cast least) dp
  have digits := (toDigits_bounds reached).1
  have floor : ((m * u * shift / d : Nat) : ℚ) ≤ m * 2 ^ e * 10 ^ (400 : Int) :=
    shifted ▸ Nat.cast_div_le
  rw [show ((Nat.toDigits 10 (m * u * shift / d)).length : Int) - 1 = pointPlace m e - 1 + 400 by
    omega, zpow_add₀ (by norm_num)] at digits
  exact le_of_mul_le_mul_right (digits.trans floor) (zpow_pos (by norm_num) _)

/-- With seventeen digits the decimals are close enough together: if the one above is not in the
interval, it is further away than half a unit, and then the one below is nearer than that. -/
theorem exists_nearestOnGrid (format : InFormat m e) :
    ∃ c, nearestOnGrid m e (pointPlace m e - 17) = some c := by
  obtain ⟨positive, bounded, least, greatest, full⟩ := id format
  obtain ⟨below, lower, upper, missed, -⟩ := nearestOnGrid_spec m e (pointPlace m e - 17)
  cases found : nearestOnGrid m e (pointPlace m e - 17) with
  | some c => exact ⟨c, rfl⟩
  | none =>
    obtain ⟨no_below, no_above⟩ := missed found
    exfalso
    have unit := two_zpow_pos e
    have fine : (10 : ℚ) ^ (pointPlace m e - 17) * 10 ^ 16 ≤ m * 2 ^ e := by
      refine le_of_eq_of_le ?_ (pointPlace_spec format)
      rw [← zpow_natCast, ← zpow_add₀ (by norm_num)]
      congr 1
      push_cast
      ring
    obtain ⟨g, grid⟩ : ∃ g : ℚ, (10 : ℚ) ^ (pointPlace m e - 17) = g * 2 ^ e :=
      ⟨10 ^ (pointPlace m e - 17) / 2 ^ e, by field_simp⟩
    have units (c : ℚ) : c * (g * 2 ^ e) / 2 ^ e = c * g := by field_simp
    rw [grid] at lower upper fine no_below no_above
    rw [← mul_assoc, mul_le_mul_iff_of_pos_right unit] at lower
    rw [← mul_assoc, mul_lt_mul_iff_of_pos_right unit] at upper
    rw [mul_right_comm, mul_le_mul_iff_of_pos_right unit] at fine
    push_cast at upper no_above
    obtain ⟨-, low⟩ := lowerEnd_bounds m e
    have wide : (m : ℚ) + 1 ≤ 2 ^ 53 := by
      rw [mantissaBound_eq] at bounded
      exact_mod_cast (show m + 1 ≤ 2 ^ 53 by omega)
    have far : (m : ℚ) + 1 / 2 ≤ (below + 1) * g := by
      by_contra near
      refine no_above (roundsTo_of_lt positive ?_ ?_) <;> rw [units] <;> linarith
    refine no_below (roundsTo_of_lt positive ?_ ?_) <;> rw [units]
    · unfold lowerEnd
      split
      · next power =>
        have : (m : ℚ) = 2 ^ 52 := by
          rw [power.1, mantissaBound_eq]
          norm_num
        linarith
      · linarith
    · linarith

/-- The decimal that is written lies in the interval. -/
theorem roundsTo_shortest (format : InFormat m e) :
    RoundsTo m e ((shortest m e).digits * 10 ^ (shortest m e).exponent) := by
  obtain ⟨c, seventeen⟩ := exists_nearestOnGrid format
  obtain ⟨onGrid, grid⟩ : ∃ onGrid : Nat → Option Decimal, ∀ i, onGrid i =
      (nearestOnGrid m e (pointPlace m e - (i + 1))).map fun c => ⟨c, pointPlace m e - (i + 1)⟩ :=
    ⟨_, fun _ => rfl⟩
  have taken : shortest m e = ((List.range 17).findSome? onGrid).getD ⟨0, 0⟩ := by
    rw [funext grid]
    rfl
  cases found : (List.range 17).findSome? onGrid with
  | none =>
    have missed := List.findSome?_eq_none_iff.mp found 16 (by decide)
    rw [grid, Option.map_eq_none_iff] at missed
    have impossible := missed.symm.trans seventeen
    contradiction
  | some decimal =>
    obtain ⟨i, -, first⟩ := List.exists_of_findSome?_eq_some found
    obtain ⟨c, near, rfl⟩ := Option.map_eq_some_iff.mp ((grid i).symm.trans first)
    obtain ⟨-, -, -, -, rounds⟩ := nearestOnGrid_spec m e (pointPlace m e - (i + 1))
    rw [taken, found]
    exact rounds c near

theorem shortest_positive (format : InFormat m e) : 0 < (shortest m e).digits := by
  obtain ⟨least, -⟩ := (roundsTo_shortest format).bounds format
  refine Nat.pos_of_ne_zero fun zero => ?_
  rw [zero, Nat.cast_zero, zero_mul] at least
  exact absurd least (not_le.mpr (two_zpow_pos _))

/-- The decimal that is written is read as the number. -/
theorem ofDecimal_shortest (format : InFormat m e) (negative : Bool) :
    ofDecimal negative (shortest m e).digits (shortest m e).exponent = .finite negative m e :=
  ofDecimal_of_roundsTo format (roundsTo_shortest format) negative

end ImportBoundary.Binary64
