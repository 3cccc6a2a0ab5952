import Mathlib
import Datalogger.Data.JsonReader

/-!
Sizes of binary64 numbers. Rounding at most doubles a quotient and adds one, so a quotient far below the
greatest number rounds to a finite one, and so does what is left of it after a few divisions.
-/

namespace Datalogger

namespace Binary64

def Within (bound : ℚ) (x : Binary64) : Prop :=
  ∃ s m e, x = .finite s m e ∧ (m : ℚ) * 2 ^ e ≤ bound

theorem Within.isFinite {bound : ℚ} {x : Binary64} (within : x.Within bound) : x.isFinite = true := by
  obtain ⟨s, m, e, rfl, _⟩ := within
  rfl

@[simp] theorem isFinite_neg (x : Binary64) : x.neg.isFinite = x.isFinite := by
  cases x <;> rfl

theorem within_zero {bound : ℚ} (least : 0 ≤ bound) (s : Bool) : (zero s).Within bound :=
  ⟨s, 0, minExponent, rfl, by simpa using least⟩

theorem ratio_eq (m : Nat) (e : Int) :
    0 < (ratio m e).2 ∧ ((ratio m e).1 : ℚ) / (ratio m e).2 = m * 2 ^ e := by
  cases e with
  | ofNat k => simp [ratio, Nat.shiftLeft_eq]
  | negSucc k => simp [ratio, Nat.shiftLeft_eq, zpow_negSucc, div_eq_mul_inv]

theorem scale_eq {den : Nat} (positive : 0 < den) (num : Nat) (e : Int) :
    0 < (scale num den e).2 ∧
      ((scale num den e).1 : ℚ) / (scale num den e).2 = (num : ℚ) / den / 2 ^ e := by
  cases e with
  | ofNat k =>
    refine ⟨by simp [scale, Nat.shiftLeft_eq, positive], ?_⟩
    simp [scale, Nat.shiftLeft_eq, div_div]
  | negSucc k =>
    refine ⟨positive, ?_⟩
    simp [scale, Nat.shiftLeft_eq, zpow_negSucc, mul_div_right_comm]

theorem roundHalfEven_le (num den : Nat) : (roundHalfEven num den : ℚ) ≤ (num : ℚ) / den + 1 := by
  have up : roundHalfEven num den ≤ num / den + 1 := by
    unfold roundHalfEven
    simp only
    split_ifs <;> omega
  have down : ((num / den : Nat) : ℚ) ≤ (num : ℚ) / den := Nat.cast_div_le
  have up' : (roundHalfEven num den : ℚ) ≤ ((num / den : Nat) : ℚ) + 1 := by exact_mod_cast up
  linarith

/-- One unit in the last place is small next to the quotient, or less than one. -/
theorem unit_le {num den : Nat} (filled : num ≠ 0) (positive : 0 < den) :
    (2 : ℚ) ^ exponentFor num den ≤ (num : ℚ) / den + 1 := by
  have size : (2 : ℚ) ^ ((num.log2 : Int) - den.log2 - 1) ≤ (num : ℚ) / den := by
    have below : (2 : ℚ) ^ num.log2 ≤ num := by exact_mod_cast Nat.log2_self_le filled
    have above : (den : ℚ) ≤ 2 ^ (den.log2 + 1) := by exact_mod_cast Nat.lt_log2_self.le
    have den_pos : (0 : ℚ) < den := by exact_mod_cast positive
    rw [show (num.log2 : Int) - den.log2 - 1 = (num.log2 : Int) - ((den.log2 + 1 : Nat) : Int) by
      push_cast; ring, zpow_sub₀ (by norm_num), zpow_natCast, zpow_natCast]
    exact div_le_div₀ (by positivity) below den_pos above
  have least : exponentFor num den ≤ max minExponent ((num.log2 : Int) - den.log2 - 1) := by
    unfold exponentFor
    simp only [Int.ofNat_eq_natCast]
    split <;> omega
  have quotient_nonneg : (0 : ℚ) ≤ (num : ℚ) / den := by positivity
  rcases le_max_iff.1 least with tiny | large
  · have : (2 : ℚ) ^ exponentFor num den ≤ 2 ^ (0 : Int) :=
      zpow_le_zpow_right₀ (by norm_num) (tiny.trans (by decide))
    linarith [zpow_zero (2 : ℚ)]
  · have : (2 : ℚ) ^ exponentFor num den ≤ 2 ^ ((num.log2 : Int) - den.log2 - 1) :=
      zpow_le_zpow_right₀ (by norm_num) large
    linarith

theorem carry_eq (m : Nat) (e : Int) (carried : m = 2 * leastNormal) :
    (leastNormal : ℚ) * 2 ^ (e + 1) = m * 2 ^ e := by
  rw [zpow_add_one₀ (by norm_num), carried]
  push_cast
  ring

theorem within_ofRatio {num den : Nat} {bound : ℚ} (size : (num : ℚ) / den ≤ bound)
    (small : bound ≤ 2 ^ 200) (s : Bool) : (ofRatio s num den).Within (2 * bound + 1) := by
  have least : (0 : ℚ) ≤ bound := le_trans (by positivity) size
  unfold ofRatio
  split
  · exact within_zero (by linarith) s
  · rename_i filled
    simp only [Bool.or_eq_true, decide_eq_true_eq, not_or] at filled
    have positive : 0 < den := Nat.pos_of_ne_zero filled.2
    have unit := unit_le filled.1 positive
    have range : exponentFor num den < 201 := by
      refine (zpow_lt_zpow_iff_right₀ (by norm_num : (1 : ℚ) < 2)).1 ?_
      calc (2 : ℚ) ^ exponentFor num den ≤ 2 ^ 200 + 1 := by linarith
        _ < 2 ^ (201 : Int) := by norm_num
    have rounded := roundHalfEven_le (scale num den (exponentFor num den)).1
      (scale num den (exponentFor num den)).2
    rw [(scale_eq positive num _).2] at rounded
    simp only
    generalize exponentFor num den = e at *
    generalize roundHalfEven _ _ = m at *
    have unit_pos : (0 : ℚ) < 2 ^ e := by positivity
    have total : (m : ℚ) * 2 ^ e ≤ 2 * bound + 1 := by
      calc (m : ℚ) * 2 ^ e ≤ ((num : ℚ) / den / 2 ^ e + 1) * 2 ^ e := by gcongr
        _ = (num : ℚ) / den + 2 ^ e := by field_simp
        _ ≤ 2 * bound + 1 := by linarith
    by_cases carried : m = 2 * leastNormal
    · rw [if_pos carried, if_neg (by unfold maxExponent; omega),
        if_neg (show leastNormal ≠ 0 by decide)]
      exact ⟨s, leastNormal, e + 1, rfl, (carry_eq m e carried).trans_le total⟩
    · rw [if_neg carried, if_neg (by unfold maxExponent; omega)]
      split
      · exact within_zero (by linarith) s
      · exact ⟨s, m, e, rfl, total⟩

theorem within_ofNat {n : Nat} {bound : ℚ} (size : (n : ℚ) ≤ bound) (small : bound ≤ 2 ^ 200) :
    (ofNat n).Within (2 * bound + 1) :=
  within_ofRatio (by simpa using size) small false

def reachesOne : Binary64 → Bool
  | .finite _ m e => (ratio m e).2 ≤ (ratio m e).1
  | _ => false

theorem reachesOne_tenPower : ∀ k < 309, (ofDecimal false 1 (Int.ofNat k)).reachesOne = true := by
  decide +kernel

theorem within_div {x y : Binary64} {bound : ℚ} (within : x.Within bound)
    (divisor : y.reachesOne = true) (small : bound ≤ 2 ^ 200) :
    (x.div y).Within (2 * bound + 1) := by
  obtain ⟨s, m, e, rfl, size⟩ := within
  cases y with
  | nan => cases divisor
  | infinite t => cases divisor
  | finite t n f =>
    have quotient := (ratio_eq m e).2
    have least : (1 : ℚ) ≤ (ratio n f).1 / (ratio n f).2 := by
      rw [one_le_div (by exact_mod_cast (ratio_eq n f).1)]
      exact_mod_cast of_decide_eq_true divisor
    change (ofRatio (s != t) ((ratio m e).1 * (ratio n f).2) ((ratio m e).2 * (ratio n f).1)).Within _
    refine within_ofRatio ?_ small _
    calc (((ratio m e).1 * (ratio n f).2 : Nat) : ℚ) / ((ratio m e).2 * (ratio n f).1 : Nat)
        = (ratio m e).1 / (ratio m e).2 / ((ratio n f).1 / (ratio n f).2) := by
          push_cast
          rw [div_div_div_eq]
      _ ≤ (ratio m e).1 / (ratio m e).2 := div_le_self (by positivity) least
      _ = m * 2 ^ e := quotient
      _ ≤ bound := size

end Binary64

namespace Json

/-- Powers of ten are applied to a number that leaves room for the divisions still to come. -/
theorem isFinite_of_applyPower {fuel : Nat} {f x : Binary64} {e : Int} {bound : ℚ}
    (within : f.Within bound) (least : 0 ≤ bound) (room : (bound + 1) * 2 ^ fuel ≤ 2 ^ 200)
    (applied : applyPower fuel f e = some x) : x.isFinite = true := by
  induction fuel generalizing f e bound with
  | zero =>
    cases applied
    exact within.isFinite
  | succ fuel ih =>
    have small : bound ≤ 2 ^ 200 := by
      have : (1 : ℚ) ≤ 2 ^ (fuel + 1) := one_le_pow₀ (by norm_num)
      nlinarith
    unfold applyPower at applied
    split_ifs at applied with near grows zero
    · rw [ifFinite] at applied
      split at applied
      · rename_i finite
        cases applied
        exact finite
      · cases applied
    · cases applied
      have power := Binary64.reachesOne_tenPower (-e).toNat (by omega)
      rw [Int.ofNat_eq_natCast, Int.toNat_of_nonneg (by omega)] at power
      exact (Binary64.within_div within power small).isFinite
    · cases applied
      exact within.isFinite
    · -- The bound becomes `2 * bound + 1`, which `bound + 1` counts as a doubling.
      have power := Binary64.reachesOne_tenPower 308 (by decide)
      refine ih (Binary64.within_div within power small) (by linarith) ?_ applied
      calc (2 * bound + 1 + 1) * 2 ^ fuel = (bound + 1) * 2 ^ (fuel + 1) := by ring
        _ ≤ 2 ^ 200 := room

end Json

end Datalogger
