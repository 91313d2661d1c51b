import Mathlib.Algebra.Order.Floor.Semifield
import Mathlib.Data.Int.Log
import Mathlib.Data.Rat.Floor
import Mathlib.Tactic.FieldSimp
import Mathlib.Tactic.Linarith
import Mathlib.Tactic.Positivity
import Mathlib.Tactic.Ring
import ShaderKnobs.Number.Decimal

set_option autoImplicit false

namespace ShaderKnobs.Number

def Ratio.value (r : Ratio) : ℚ := r.num / r.den

theorem Ratio.scale_den (r : Ratio) (k : Int) (positive : 0 < r.den) : 0 < (r.scale k).den := by
  cases k with
  | ofNat k => exact positive
  | negSucc k => exact Nat.mul_pos positive (Nat.two_pow_pos _)

theorem Ratio.scale_ten_den (r : Ratio) (k : Int) (positive : 0 < r.den) : 0 < (r.scaleTen k).den := by
  cases k with
  | ofNat k => exact positive
  | negSucc k => exact Nat.mul_pos positive (Nat.pow_pos (by decide))

theorem value_times_power (num den base : Nat) (k : Nat) :
    ((num * base ^ k : Nat) : ℚ) / den = num / den * (base : ℚ) ^ (k : Int) := by
  rw [Nat.cast_mul, Nat.cast_pow, zpow_natCast, mul_div_right_comm]

theorem value_over_power (num den base : Nat) (k : Nat) :
    (num : ℚ) / ((den * base ^ (k + 1) : Nat) : ℚ) = num / den * (base : ℚ) ^ (Int.negSucc k) := by
  rw [Nat.cast_mul, Nat.cast_pow, zpow_negSucc, div_mul_eq_div_div, div_eq_mul_inv (_ / _)]

theorem Ratio.scale_value (r : Ratio) (k : Int) : (r.scale k).value = r.value * 2 ^ k := by
  cases k with
  | ofNat k => exact value_times_power r.num r.den 2 k
  | negSucc k => exact value_over_power r.num r.den 2 k

theorem Ratio.scale_ten_value (r : Ratio) (k : Int) : (r.scaleTen k).value = r.value * 10 ^ k := by
  cases k with
  | ofNat k => exact value_times_power r.num r.den 10 k
  | negSucc k => exact value_over_power r.num r.den 10 k

def halfEven (q : ℚ) : ℕ :=
  if q - ⌊q⌋₊ < 1 / 2 then ⌊q⌋₊
  else if 1 / 2 < q - ⌊q⌋₊ then ⌊q⌋₊ + 1
  else if ⌊q⌋₊ % 2 = 0 then ⌊q⌋₊ else ⌊q⌋₊ + 1

theorem Ratio.floor_value (r : Ratio) : ⌊r.value⌋₊ = r.num / r.den := Nat.floor_div_eq_div r.num r.den

theorem Ratio.rest_value (r : Ratio) (positive : 0 < r.den) :
    r.value - (r.num / r.den : ℕ) = (r.num % r.den : ℕ) / r.den := by
  have den : (r.den : ℚ) ≠ 0 := Nat.cast_ne_zero.mpr positive.ne'
  have parts : ((r.den * (r.num / r.den) + r.num % r.den : ℕ) : ℚ) = r.num := by rw [Nat.div_add_mod]
  push_cast at parts
  rw [value, eq_div_iff den, sub_mul, div_mul_cancel₀ _ den, ← parts]
  ring

theorem Ratio.round_even_value (r : Ratio) (positive : 0 < r.den) : r.roundEven = halfEven r.value := by
  have den : (0 : ℚ) < r.den := Nat.cast_pos.mpr positive
  have below : (r.num % r.den : ℕ) / (r.den : ℚ) < 1 / 2 ↔ 2 * (r.num % r.den) < r.den := by
    rw [div_lt_div_iff₀ den two_pos, one_mul, mul_comm]
    exact_mod_cast Iff.rfl
  have above : 1 / 2 < (r.num % r.den : ℕ) / (r.den : ℚ) ↔ r.den < 2 * (r.num % r.den) := by
    rw [div_lt_div_iff₀ two_pos den, one_mul, mul_comm]
    exact_mod_cast Iff.rfl
  simp only [roundEven, halfEven, r.floor_value, r.rest_value positive, below, above]

theorem half_even_natural (n : ℕ) : halfEven n = n := by
  simp [halfEven]

theorem log_of_bounds (base : ℕ) (large : 1 < base) (q : ℚ) (e : Int) (positive : 0 < q) (low : (base : ℚ) ^ e ≤ q)
    (high : q < (base : ℚ) ^ (e + 1)) : Int.log base q = e := by
  have least := (Int.zpow_le_iff_le_log large positive).mp low
  have most := (Int.lt_zpow_iff_log_lt large positive).mp high
  omega

theorem Ratio.log2_guess (r : Ratio) (num : 0 < r.num) (den : 0 < r.den) :
    (2 : ℚ) ^ ((r.num.log2 : Int) - r.den.log2 - 1) < r.value ∧
      r.value < 2 ^ ((r.num.log2 : Int) - r.den.log2 + 1) := by
  have two : (2 : ℚ) ≠ 0 := two_ne_zero
  have denominator : (0 : ℚ) < r.den := Nat.cast_pos.mpr den
  have numLow : (2 : ℚ) ^ r.num.log2 ≤ r.num := by exact_mod_cast Nat.log2_self_le num.ne'
  have numHigh : (r.num : ℚ) < 2 ^ (r.num.log2 + 1) := by exact_mod_cast Nat.lt_log2_self
  have denLow : (2 : ℚ) ^ r.den.log2 ≤ r.den := by exact_mod_cast Nat.log2_self_le den.ne'
  have denHigh : (r.den : ℚ) < 2 ^ (r.den.log2 + 1) := by exact_mod_cast Nat.lt_log2_self
  have lower : (2 : ℚ) ^ ((r.num.log2 : Int) - r.den.log2 - 1) = 2 ^ r.num.log2 / 2 ^ (r.den.log2 + 1) := by
    rw [show (r.num.log2 : Int) - r.den.log2 - 1 = (r.num.log2 : Int) - ((r.den.log2 + 1 : ℕ) : Int) by omega,
      zpow_sub₀ two, zpow_natCast, zpow_natCast]
  have upper : (2 : ℚ) ^ ((r.num.log2 : Int) - r.den.log2 + 1) = 2 ^ (r.num.log2 + 1) / 2 ^ r.den.log2 := by
    rw [show (r.num.log2 : Int) - r.den.log2 + 1 = ((r.num.log2 + 1 : ℕ) : Int) - (r.den.log2 : Int) by omega,
      zpow_sub₀ two, zpow_natCast, zpow_natCast]
  rw [lower, upper, value]
  constructor
  · rw [div_lt_div_iff₀ (by positivity) denominator]
    calc (2 : ℚ) ^ r.num.log2 * r.den ≤ r.num * r.den := by gcongr
      _ < r.num * 2 ^ (r.den.log2 + 1) := by gcongr
  · rw [div_lt_div_iff₀ denominator (by positivity)]
    calc (r.num : ℚ) * 2 ^ r.den.log2 ≤ r.num * r.den := by gcongr
      _ < 2 ^ (r.num.log2 + 1) * r.den := by gcongr

theorem Ratio.value_pos (r : Ratio) (num : 0 < r.num) (den : 0 < r.den) : 0 < r.value :=
  div_pos (Nat.cast_pos.mpr num) (Nat.cast_pos.mpr den)

theorem Ratio.one_le_value (r : Ratio) (den : 0 < r.den) : 1 ≤ r.value ↔ r.den ≤ r.num := by
  rw [value, one_le_div (Nat.cast_pos.mpr den), Nat.cast_le]

theorem Ratio.log2_value (r : Ratio) (num : 0 < r.num) (den : 0 < r.den) : r.log2 = Int.log 2 r.value := by
  have positive := r.value_pos num den
  obtain ⟨low, high⟩ := r.log2_guess num den
  simp only [log2]
  generalize (r.num.log2 : Int) - r.den.log2 = guess at *
  have scaled : (r.scale (-guess)).den ≤ (r.scale (-guess)).num ↔ (2 : ℚ) ^ guess ≤ r.value := by
    rw [← one_le_value _ (r.scale_den _ den), scale_value, zpow_neg, ← div_eq_mul_inv, one_le_div (zpow_pos two_pos guess)]
  by_cases reached : (2 : ℚ) ^ guess ≤ r.value
  · rw [if_pos (scaled.mpr reached)]
    exact (log_of_bounds 2 (by decide) r.value guess positive reached high).symm
  · rw [if_neg (fun below => reached (scaled.mp below))]
    refine (log_of_bounds 2 (by decide) r.value (guess - 1) positive low.le ?_).symm
    rw [sub_add_cancel]
    exact lt_of_not_ge reached

theorem Ratio.value_eq_zero (r : Ratio) (den : 0 < r.den) : r.value = 0 ↔ r.num = 0 := by
  rw [value, div_eq_zero_iff, Nat.cast_eq_zero, Nat.cast_eq_zero]
  omega

def Binary.ofValue (f : Format) (negative : Bool) (q : ℚ) : Binary f :=
  if q = 0 then ofParts f negative 0 f.minExponent
  else
    let e := max f.minExponent (Int.log 2 q - (f.precision - 1 : Nat))
    let m := halfEven (q * 2 ^ (-e))
    if m = 2 ^ f.precision then ofParts f negative (2 ^ (f.precision - 1)) (e + 1)
    else ofParts f negative m e

theorem of_ratio_value (f : Format) (negative : Bool) (r : Ratio) (den : 0 < r.den) :
    Binary.ofRatio f negative r = Binary.ofValue f negative r.value := by
  simp only [Binary.ofRatio, Binary.ofValue]
  by_cases zero : r.num = 0
  · rw [if_pos zero, if_pos ((r.value_eq_zero den).mpr zero)]
  · rw [if_neg zero, if_neg (fun none => zero ((r.value_eq_zero den).mp none))]
    rw [r.log2_value (Nat.pos_of_ne_zero zero) den, Ratio.round_even_value _ (r.scale_den _ den), r.scale_value]

end ShaderKnobs.Number
