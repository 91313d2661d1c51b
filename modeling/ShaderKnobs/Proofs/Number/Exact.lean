import ShaderKnobs.Number.Shortest
import ShaderKnobs.Proofs.Number.Value

set_option autoImplicit false

namespace ShaderKnobs.Number

variable {f : Format}

def Finite.value (x : Finite f) : ℚ := x.mantissa * 2 ^ x.exponent

theorem of_parts_finite (x : Finite f) : Binary.ofParts f x.negative x.mantissa x.exponent = .finite x :=
  dif_pos x.canonical

theorem Finite.zero_exponent (x : Finite f) (zero : x.mantissa = 0) : x.exponent = f.minExponent := by
  rcases x.canonical.2.2.2 with full | least
  · rw [zero] at full
    exact absurd full (Nat.not_le_of_lt (Nat.two_pow_pos _))
  · exact least

theorem Finite.log_value (x : Finite f) (positive : x.mantissa ≠ 0) :
    Int.log 2 x.value = (x.mantissa.log2 : Int) + x.exponent := by
  have power : (0 : ℚ) < 2 ^ x.exponent := zpow_pos two_pos _
  have low : (2 : ℚ) ^ x.mantissa.log2 ≤ x.mantissa := by exact_mod_cast Nat.log2_self_le positive
  have high : (x.mantissa : ℚ) < 2 ^ (x.mantissa.log2 + 1) := by exact_mod_cast Nat.lt_log2_self
  refine log_of_bounds 2 (by decide) x.value _ ?_ ?_ ?_
  · exact mul_pos (Nat.cast_pos.mpr (Nat.pos_of_ne_zero positive)) power
  · rw [Nat.cast_ofNat, zpow_add₀ two_ne_zero, zpow_natCast, value]
    exact mul_le_mul_of_nonneg_right low power.le
  · rw [Nat.cast_ofNat, add_right_comm, zpow_add₀ two_ne_zero, value]
    refine mul_lt_mul_of_pos_right ?_ power
    exact_mod_cast high

theorem Finite.round_exponent (x : Finite f) (positive : x.mantissa ≠ 0) :
    max f.minExponent (Int.log 2 x.value - (f.precision - 1 : Nat)) = x.exponent := by
  obtain ⟨bits, least, _, full⟩ := x.canonical
  have below : x.mantissa.log2 < f.precision := (Nat.log2_lt positive).mpr bits
  rw [x.log_value positive]
  rcases full with high | low
  · have filled : f.precision - 1 ≤ x.mantissa.log2 := (Nat.le_log2 positive).mpr high
    omega
  · omega

theorem Finite.of_value (x : Finite f) : Binary.ofValue f x.negative x.value = .finite x := by
  by_cases zero : x.mantissa = 0
  · have nothing : x.value = 0 := by rw [value, zero, Nat.cast_zero, zero_mul]
    rw [Binary.ofValue, if_pos nothing, ← x.zero_exponent zero, ← zero]
    exact of_parts_finite x
  · have power : (2 : ℚ) ^ x.exponent ≠ 0 := zpow_ne_zero _ two_ne_zero
    have something : x.value ≠ 0 := mul_ne_zero (Nat.cast_ne_zero.mpr zero) power
    have whole : x.value * 2 ^ (-x.exponent) = x.mantissa := by
      rw [value, zpow_neg, mul_inv_cancel_right₀ power]
    simp only [Binary.ofValue, if_neg something, x.round_exponent zero, whole, half_even_natural,
      if_neg x.canonical.1.ne]
    exact of_parts_finite x

def Decimal.value (d : Decimal) : ℚ := d.significand * 10 ^ d.exponent

theorem digit_count_pos (n : Nat) : 0 < digitCount n := List.length_pos_of_ne_nil Nat.toDigits_ne_nil

theorem digit_count_bounds (n : Nat) (positive : n ≠ 0) :
    10 ^ (digitCount n - 1) ≤ n ∧ n < 10 ^ digitCount n := by
  have some_ := digit_count_pos n
  refine ⟨?_, (Nat.length_toDigits_le_iff (by decide) some_).mp (Nat.le_refl _)⟩
  by_cases one : digitCount n - 1 = 0
  · rw [one]
    exact Nat.pos_of_ne_zero positive
  · refine Nat.le_of_not_lt fun fewer => ?_
    have := (Nat.length_toDigits_le_iff (b := 10) (by decide) (Nat.pos_of_ne_zero one)).mpr fewer
    rw [digitCount] at one this some_
    omega

theorem Decimal.log_value (d : Decimal) (positive : d.significand ≠ 0) :
    Int.log 10 d.value = (digitCount d.significand : Int) + d.exponent - 1 := by
  have ten : (10 : ℚ) ≠ 0 := by norm_num
  have power : (0 : ℚ) < 10 ^ d.exponent := zpow_pos (by norm_num) _
  obtain ⟨low, high⟩ := digit_count_bounds d.significand positive
  have low' : (10 : ℚ) ^ (digitCount d.significand - 1) ≤ d.significand := by exact_mod_cast low
  have high' : (d.significand : ℚ) < 10 ^ digitCount d.significand := by exact_mod_cast high
  have some_ : 0 < digitCount d.significand := digit_count_pos d.significand
  refine log_of_bounds 10 (by decide) d.value _ ?_ ?_ ?_
  · exact mul_pos (Nat.cast_pos.mpr (Nat.pos_of_ne_zero positive)) power
  · have split : (digitCount d.significand : Int) + d.exponent - 1 = (digitCount d.significand - 1 : ℕ) + d.exponent := by
      omega
    rw [Nat.cast_ofNat, split, zpow_add₀ ten, zpow_natCast, value]
    exact mul_le_mul_of_nonneg_right low' power.le
  · rw [Nat.cast_ofNat, sub_add_cancel, zpow_add₀ ten, zpow_natCast, value]
    exact mul_lt_mul_of_pos_right high' power

theorem Decimal.value_eq_zero (d : Decimal) : d.value = 0 ↔ d.significand = 0 := by
  rw [value, mul_eq_zero, Nat.cast_eq_zero, or_iff_left (zpow_ne_zero _ (by norm_num))]

-- Reading a decimal numeral as a function of its value.
def Binary.nearest (f : Format) (negative : Bool) (q : ℚ) : Binary f :=
  if q = 0 then ofParts f negative 0 f.minExponent
  else if f.maxExponent + f.precision < 3 * Int.log 10 q then .infinite negative
  else if Int.log 10 q + 1 < 0 ∧ 3 * (Int.log 10 q + 1) < f.minExponent - 1 then ofParts f negative 0 f.minExponent
  else ofValue f negative q

theorem Decimal.to_binary_value (negative : Bool) (d : Decimal) :
    d.toBinary f negative = Binary.nearest f negative d.value := by
  by_cases zero : d.significand = 0
  · simp only [toBinary, Binary.nearest, if_pos zero, if_pos (d.value_eq_zero.mpr zero)]
  · have something : d.value ≠ 0 := fun none => zero (d.value_eq_zero.mp none)
    have rounded := of_ratio_value f negative (Ratio.scaleTen ⟨d.significand, 1⟩ d.exponent)
      (Ratio.scale_ten_den _ _ Nat.one_pos)
    rw [Ratio.scale_ten_value, Ratio.value, Nat.cast_one, div_one] at rounded
    change _ = Binary.ofValue f negative d.value at rounded
    simp only [toBinary, Binary.nearest, if_neg zero, if_neg something, d.log_value zero, rounded, sub_add_cancel]

theorem ten_power_bound (t e : Int) (q : ℚ) (low : (10 : ℚ) ^ t ≤ q) (high : q < 2 ^ e) (positive : 0 ≤ t) :
    3 * t < e := by
  obtain ⟨n, rfl⟩ := Int.eq_ofNat_of_zero_le positive
  have cubes : (2 : ℚ) ^ (3 * (n : Int)) ≤ 10 ^ (n : Int) := by
    rw [zpow_mul, zpow_natCast, zpow_natCast]
    exact pow_le_pow_left₀ (by norm_num) (by norm_num) n
  exact (zpow_lt_zpow_iff_right₀ (by norm_num : (1 : ℚ) < 2)).mp (cubes.trans_lt (low.trans_lt high))

theorem ten_power_floor (t e : Int) (q : ℚ) (low : (2 : ℚ) ^ e ≤ q) (high : q < 10 ^ t) (negative : t ≤ 0) :
    e < 3 * t := by
  obtain ⟨n, rfl⟩ : ∃ n : ℕ, t = -n := ⟨(-t).toNat, by omega⟩
  have cubes : (10 : ℚ) ^ (-(n : Int)) ≤ 2 ^ (3 * -(n : Int)) := by
    rw [mul_neg, zpow_neg, zpow_neg, zpow_mul, zpow_natCast, zpow_natCast]
    refine inv_anti₀ (by positivity) ?_
    exact pow_le_pow_left₀ (by norm_num) (by norm_num) n
  exact (zpow_lt_zpow_iff_right₀ (by norm_num : (1 : ℚ) < 2)).mp (low.trans_lt (high.trans_le cubes))

theorem Finite.value_pos (x : Finite f) (positive : x.mantissa ≠ 0) : 0 < x.value :=
  mul_pos (Nat.cast_pos.mpr (Nat.pos_of_ne_zero positive)) (zpow_pos two_pos _)

theorem Finite.value_range (x : Finite f) (positive : x.mantissa ≠ 0) :
    (2 : ℚ) ^ f.minExponent ≤ x.value ∧ x.value < 2 ^ (f.maxExponent + f.precision) := by
  obtain ⟨bits, least, most, _⟩ := x.canonical
  have power : (0 : ℚ) < 2 ^ x.exponent := zpow_pos two_pos _
  have one : (1 : ℚ) ≤ x.mantissa := by exact_mod_cast Nat.pos_of_ne_zero positive
  have below : (x.mantissa : ℚ) < 2 ^ f.precision := by exact_mod_cast bits
  constructor
  · calc (2 : ℚ) ^ f.minExponent ≤ 2 ^ x.exponent := zpow_le_zpow_right₀ (by norm_num) least
      _ ≤ x.mantissa * 2 ^ x.exponent := le_mul_of_one_le_left power.le one
  · calc (x.mantissa : ℚ) * 2 ^ x.exponent < 2 ^ f.precision * 2 ^ x.exponent := mul_lt_mul_of_pos_right below power
      _ ≤ 2 ^ f.precision * 2 ^ f.maxExponent :=
        mul_le_mul_of_nonneg_left (zpow_le_zpow_right₀ (by norm_num) most) (by positivity)
      _ = 2 ^ (f.maxExponent + f.precision) := by rw [zpow_add₀ two_ne_zero, zpow_natCast, mul_comm]

theorem Finite.nearest_value (x : Finite f) (wide : 0 ≤ f.maxExponent + f.precision) :
    Binary.nearest f x.negative x.value = .finite x := by
  by_cases zero : x.mantissa = 0
  · have nothing : x.value = 0 := by rw [value, zero, Nat.cast_zero, zero_mul]
    rw [Binary.nearest, if_pos nothing, ← x.zero_exponent zero, ← zero]
    exact of_parts_finite x
  · have positive := x.value_pos zero
    obtain ⟨least, most⟩ := x.value_range zero
    have low : (10 : ℚ) ^ Int.log 10 x.value ≤ x.value := by
      exact_mod_cast Int.zpow_log_le_self (b := 10) (by decide) positive
    have high : x.value < (10 : ℚ) ^ (Int.log 10 x.value + 1) := by
      exact_mod_cast Int.lt_zpow_succ_log_self (b := 10) (by decide) x.value
    have finite : ¬f.maxExponent + f.precision < 3 * Int.log 10 x.value := by
      intro above
      have := ten_power_bound (Int.log 10 x.value) _ x.value low most (by omega)
      omega
    have large : ¬(Int.log 10 x.value + 1 < 0 ∧ 3 * (Int.log 10 x.value + 1) < f.minExponent - 1) := by
      rintro ⟨small, below⟩
      have := ten_power_floor (Int.log 10 x.value + 1) _ x.value least high (by omega)
      omega
    rw [Binary.nearest, if_neg positive.ne', if_neg finite, if_neg large, x.of_value]

theorem Finite.reads_back (x : Finite f) (wide : 0 ≤ f.maxExponent + f.precision) (d : Decimal)
    (same : d.value = x.value) : d.toBinary f x.negative = .finite x := by
  rw [d.to_binary_value, same, x.nearest_value wide]

theorem Finite.exact_decimal_value (x : Finite f) : x.exactDecimal.value = x.value := by
  rw [exactDecimal, value]
  cases x.exponent with
  | ofNat k =>
      rw [Decimal.value, Nat.cast_mul, Nat.cast_pow, zpow_zero, mul_one]
      rfl
  | negSucc k =>
      have ten : (10 : ℚ) ^ (k + 1) = 5 ^ (k + 1) * 2 ^ (k + 1) := by
        rw [← mul_pow]
        norm_num
      rw [Decimal.value, Nat.cast_mul, Nat.cast_pow, zpow_negSucc, zpow_negSucc, ten]
      push_cast
      field_simp

theorem Decimal.shorter_value (s : Nat) (e : Int) (tens : s % 10 = 0) :
    Decimal.value ⟨s / 10, e + 1⟩ = Decimal.value ⟨s, e⟩ := by
  have whole : ((s / 10 : ℕ) : ℚ) * 10 = s := by
    exact_mod_cast Nat.div_mul_cancel (Nat.dvd_of_mod_eq_zero tens)
  rw [value, value, zpow_add₀ (by norm_num), zpow_one, ← whole]
  ring

theorem Decimal.trim_value (d : Decimal) : d.trim.value = d.value := by
  rw [trim]
  generalize digitCount d.significand = n
  induction n generalizing d with
  | zero => rfl
  | succ n ih =>
      rw [trim.go]
      split
      · next tens => exact (ih _).trans (shorter_value d.significand d.exponent tens.2)
      · rfl

theorem Finite.on_grid_reads_back (x : Finite f) (tie : Tie) (k : Int) (d : Decimal) (found : x.onGrid? tie k = some d) :
    d.toBinary f x.negative = .finite x := by
  suffices tested : x.readsBack d = true from of_decide_eq_true tested
  simp only [onGrid?] at found
  split at found
  · cases found
  · next below _ => exact Option.some.inj found ▸ below
  · next above => exact Option.some.inj found ▸ above
  · next below above =>
      split at found
      · exact Option.some.inj found ▸ below
      split at found
      · exact Option.some.inj found ▸ above
      cases tie with
      | up => exact Option.some.inj found ▸ above
      | even =>
          dsimp only at found
          split at found
          · exact Option.some.inj found ▸ below
          · exact Option.some.inj found ▸ above

theorem Finite.shortest_reads_back (x : Finite f) (wide : 0 ≤ f.maxExponent + f.precision) (tie : Tie) :
    (x.shortest tie).toBinary f x.negative = .finite x := by
  by_cases zero : x.mantissa = 0
  · rw [shortest, if_pos zero]
    refine x.reads_back wide ⟨0, 0⟩ ?_
    rw [Decimal.value, value, zero, Nat.cast_zero, zero_mul, zero_mul]
  · simp only [shortest, if_neg zero]
    rw [Decimal.to_binary_value, Decimal.trim_value, ← Decimal.to_binary_value]
    generalize search : List.findSome? _ (List.range 17) = found
    cases found with
    | none => exact x.reads_back wide _ x.exact_decimal_value
    | some d =>
        obtain ⟨n, _, found⟩ := List.exists_of_findSome?_eq_some search
        exact x.on_grid_reads_back tie _ d found

end ShaderKnobs.Number
