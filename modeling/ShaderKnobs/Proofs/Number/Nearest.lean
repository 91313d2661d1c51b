import ShaderKnobs.Proofs.Number.Overflow

set_option autoImplicit false

namespace ShaderKnobs.Number

variable {f : Format}

theorem half_even_near (q : ℚ) (n : ℕ) (natural : 0 ≤ q) (near : |q - n| < 1 / 2) : halfEven q = n := by
  obtain ⟨low, high⟩ := abs_lt.mp near
  have least : (⌊q⌋₊ : ℚ) ≤ q := Nat.floor_le natural
  have most : q < ⌊q⌋₊ + 1 := Nat.lt_floor_add_one q
  have less : ⌊q⌋₊ < n + 1 := by
    have cast : (⌊q⌋₊ : ℚ) < ((n + 1 : ℕ) : ℚ) := by
      push_cast
      linarith
    exact_mod_cast cast
  by_cases same : ⌊q⌋₊ = n
  · rw [halfEven, same, if_pos high]
  · have before : ⌊q⌋₊ + 1 ≤ n := by omega
    have before' : (⌊q⌋₊ : ℚ) + 1 ≤ n := by exact_mod_cast before
    have cast : (n : ℚ) < ((⌊q⌋₊ + 2 : ℕ) : ℚ) := by
      push_cast
      linarith
    have next : n < ⌊q⌋₊ + 2 := by exact_mod_cast cast
    have last : ⌊q⌋₊ + 1 = n := by omega
    have last' : (⌊q⌋₊ : ℚ) + 1 = n := by exact_mod_cast last
    have above : 1 / 2 < q - ⌊q⌋₊ := by linarith
    rw [halfEven, if_neg (not_lt.mpr above.le), if_pos above, last]

theorem half_even_tie (n : ℕ) : halfEven (n + 1 / 2) = if n % 2 = 0 then n else n + 1 := by
  have floor : ⌊(n : ℚ) + 1 / 2⌋₊ = n := (Nat.floor_eq_iff (by positivity)).mpr ⟨by linarith, by linarith⟩
  simp only [halfEven, floor, add_sub_cancel_left, lt_irrefl, if_false]

theorem half_even_error (q : ℚ) (natural : 0 ≤ q) : |halfEven q - q| ≤ 1 / 2 := by
  have least : (⌊q⌋₊ : ℚ) ≤ q := Nat.floor_le natural
  have most : q < ⌊q⌋₊ + 1 := Nat.lt_floor_add_one q
  rw [abs_le, halfEven]
  split_ifs <;> push_cast <;> constructor <;> linarith

theorem half_even_nearest (q : ℚ) (n : ℕ) (natural : 0 ≤ q) : |halfEven q - q| ≤ |n - q| := by
  by_cases near : |q - n| < 1 / 2
  · rw [half_even_near q n natural near]
  · rw [abs_sub_comm (n : ℚ)]
    exact (half_even_error q natural).trans (not_lt.mp near)

-- A quotient by an even number in its parts; the remainder may be the whole divisor.
theorem half_even_parts (m r h : ℕ) (some_ : 0 < h) (inside : r ≤ 2 * h) :
    halfEven (((m * (2 * h) + r : ℕ) : ℚ) / (2 * h : ℕ)) = if r < h ∨ r = h ∧ m % 2 = 0 then m else m + 1 := by
  have half : (0 : ℚ) < h := Nat.cast_pos.mpr some_
  have split : ((m * (2 * h) + r : ℕ) : ℚ) / (2 * h : ℕ) = m + r / (2 * h) := by
    push_cast
    field_simp
  have part : (0 : ℚ) ≤ r / (2 * h) := by positivity
  rw [split]
  rcases lt_trichotomy r h with low | tie | high
  · have small : (r : ℚ) < h := by exact_mod_cast low
    have near : (r : ℚ) / (2 * h) < 1 / 2 := by
      rw [div_lt_div_iff₀ (by positivity) two_pos]
      linarith
    rw [if_pos (.inl low), half_even_near _ m (by positivity)]
    rw [add_sub_cancel_left, abs_of_nonneg part]
    exact near
  · have even : (r : ℚ) / (2 * h) = 1 / 2 := by
      rw [tie, div_eq_div_iff (by positivity) two_ne_zero]
      ring
    rw [even, half_even_tie]
    simp [tie]
  · have large : (h : ℚ) < r := by exact_mod_cast high
    have most : (r : ℚ) ≤ 2 * h := by exact_mod_cast inside
    have above : 1 / 2 < (r : ℚ) / (2 * h) := by
      rw [div_lt_div_iff₀ two_pos (by positivity)]
      linarith
    have below : (r : ℚ) / (2 * h) ≤ 1 := (div_le_one (by positivity)).mpr most
    rw [if_neg (by omega), half_even_near _ (m + 1) (by positivity)]
    rw [abs_lt]
    push_cast
    constructor <;> linarith

def Format.round (f : Format) (q : ℚ) : ℚ := halfEven (q * 2 ^ (-f.exponentOf q)) * 2 ^ f.exponentOf q

def Finite.signed (x : Finite f) : ℚ := if x.negative then -x.value else x.value

theorem Finite.value_signed (x : Finite f) : x.value = |x.signed| := by
  rw [signed]
  split
  · rw [abs_neg, abs_of_nonneg x.value_nonneg]
  · rw [abs_of_nonneg x.value_nonneg]

theorem Finite.same (x y : Finite f) (sign : x.negative = y.negative) (value : x.value = y.value) : x = y := by
  have same := x.of_value
  rw [sign, value, y.of_value] at same
  exact (Binary.finite.inj same).symm

theorem Format.round_zero (f : Format) : f.round 0 = 0 := by
  have nothing : halfEven 0 = 0 := by exact_mod_cast half_even_natural 0
  rw [round, zero_mul, nothing, Nat.cast_zero, zero_mul]

theorem of_parts_negative (negative : Bool) (m : Nat) (e : Int) (y : Finite f)
    (made : Binary.ofParts f negative m e = .finite y) : y.negative = negative := by
  rw [Binary.ofParts] at made
  split at made
  · obtain rfl := Binary.finite.inj made
    rfl
  · cases made

theorem of_value_negative (negative : Bool) (q : ℚ) (y : Finite f) (rounded : Binary.ofValue f negative q = .finite y) :
    y.negative = negative := by
  rw [Binary.ofValue] at rounded
  split at rounded
  · exact of_parts_negative negative _ _ y rounded
  · dsimp only at rounded
    split at rounded
    · exact of_parts_negative negative _ _ y rounded
    · exact of_parts_negative negative _ _ y rounded

section

variable (proper : f.Proper)

include proper

theorem of_value_rounds (negative : Bool) (q : ℚ) (natural : 0 ≤ q) (room : q < f.limit) :
    ∃ y : Finite f, Binary.ofValue f negative q = .finite y ∧ y.negative = negative ∧ y.value = f.round q := by
  have finite := (of_value_finite_iff proper negative q natural).mpr room
  cases rounded : Binary.ofValue f negative q with
  | finite y =>
      refine ⟨y, rfl, of_value_negative negative q y rounded, ?_⟩
      rcases natural.eq_or_lt with rfl | positive
      · rw [rounded_zero y negative rounded, f.round_zero]
      · exact rounded_value proper y negative q positive rounded
  | _ =>
      rw [rounded] at finite
      cases finite

theorem Finite.round_value (v : Finite f) : f.round v.value = v.value := by
  obtain ⟨y, rounded, _, value⟩ := of_value_rounds proper v.negative v.value v.value_nonneg (v.value_lt_limit proper)
  rw [v.of_value] at rounded
  obtain rfl := Binary.finite.inj rounded
  exact value.symm

theorem Format.round_nearest (q : ℚ) (natural : 0 ≤ q) (v : Finite f) : |f.round q - q| ≤ |v.value - q| := by
  rcases natural.eq_or_lt with rfl | positive
  · rw [f.round_zero, sub_zero, abs_zero]
    exact abs_nonneg _
  have unit : (0 : ℚ) < 2 ^ f.exponentOf q := zpow_pos two_pos _
  let scaled := q * 2 ^ (-f.exponentOf q)
  have own : scaled * 2 ^ f.exponentOf q = q := by
    simp only [scaled]
    rw [zpow_neg, inv_mul_cancel_right₀ unit.ne']
  -- Beside the multiples of the step there are only numbers below the least full mantissa.
  have grid : ∀ n : ℕ, |f.round q - q| ≤ |n * 2 ^ f.exponentOf q - q| := by
    intro n
    have nearest := half_even_nearest scaled n (mul_nonneg natural (zpow_pos two_pos _).le)
    have whole : ∀ m : ℕ, |(m : ℚ) * 2 ^ f.exponentOf q - q| = |m - scaled| * 2 ^ f.exponentOf q := by
      intro m
      rw [← abs_of_pos unit, ← abs_mul, abs_of_pos unit, sub_mul, own]
    rw [Format.round, whole, whole]
    exact mul_le_mul_of_nonneg_right nearest unit.le
  rcases lt_or_ge v.exponent (f.exponentOf q) with small | large
  · have full := f.scaled_full q positive (v.canonical.2.1.trans_lt small)
    have below := v.below_full proper (f.exponentOf q) small
    have under : 2 ^ (f.precision - 1) * 2 ^ f.exponentOf q ≤ q :=
      (mul_le_mul_of_nonneg_right full unit.le).trans own.le
    have corner := grid (2 ^ (f.precision - 1))
    rw [Nat.cast_pow, Nat.cast_ofNat, abs_sub_comm, abs_sub_comm _ q, abs_of_nonneg (sub_nonneg.mpr under)] at corner
    rw [abs_sub_comm, abs_sub_comm v.value, abs_of_nonneg (sub_nonneg.mpr (below.le.trans under))]
    linarith
  · obtain ⟨n, multiple⟩ := v.multiple (f.exponentOf q) large
    rw [multiple]
    exact grid n

theorem Format.round_at (q : ℚ) (e : Int) (least : f.minExponent ≤ e) (low : 2 ^ (f.precision - 1) * 2 ^ e ≤ q)
    (high : q ≤ 2 ^ f.precision * 2 ^ e) : f.round q = halfEven (q * 2 ^ (-e)) * 2 ^ e := by
  have unit : (0 : ℚ) < 2 ^ e := zpow_pos two_pos _
  have positive : 0 < q := lt_of_lt_of_le (by positivity) low
  have bits := proper.bits
  rcases high.eq_or_lt with full | below
  · have log : Int.log 2 q = f.precision + e := by
      rw [full, ← zpow_natCast, ← zpow_add₀ two_ne_zero]
      exact_mod_cast Int.log_zpow (R := ℚ) (b := 2) (by decide) (f.precision + e)
    have exponent : f.exponentOf q = e + 1 := by
      rw [exponentOf, log]
      omega
    have left : q * 2 ^ (-(e + 1)) = (2 ^ (f.precision - 1) : ℕ) := by
      rw [full, f.power_twice proper, zpow_neg, zpow_add_one₀ two_ne_zero]
      push_cast
      field_simp
    have right : q * 2 ^ (-e) = (2 ^ f.precision : ℕ) := by
      rw [full, zpow_neg, mul_inv_cancel_right₀ unit.ne']
      push_cast
      rfl
    rw [round, exponent, left, right, half_even_natural, half_even_natural, zpow_add_one₀ two_ne_zero]
    push_cast
    rw [f.power_twice proper]
    ring
  · have log : Int.log 2 q = (f.precision - 1 : ℕ) + e := by
      refine log_of_bounds 2 (by decide) q _ positive ?_ ?_
      · rw [Nat.cast_ofNat, zpow_add₀ two_ne_zero, zpow_natCast]
        exact low
      · have next : ((f.precision - 1 : ℕ) : Int) + e + 1 = f.precision + e := by omega
        rw [next, Nat.cast_ofNat, zpow_add₀ two_ne_zero, zpow_natCast]
        exact below
    have exponent : f.exponentOf q = e := by
      rw [exponentOf, log]
      omega
    rw [round, exponent]

omit proper in
theorem Format.round_multiple (m : ℕ) (e : Int) (least : f.minExponent ≤ e) (bits : m < 2 ^ f.precision) :
    f.round (m * 2 ^ e) = m * 2 ^ e := by
  by_cases zero : m = 0
  · rw [zero, Nat.cast_zero, zero_mul, f.round_zero]
  have unit : (0 : ℚ) < 2 ^ e := zpow_pos two_pos _
  have positive : (0 : ℚ) < m * 2 ^ e := mul_pos (Nat.cast_pos.mpr (Nat.pos_of_ne_zero zero)) unit
  have below : (m : ℚ) * 2 ^ e < ((2 : ℕ) : ℚ) ^ ((f.precision : Int) + e) := by
    rw [Nat.cast_ofNat, zpow_add₀ two_ne_zero, zpow_natCast]
    exact mul_lt_mul_of_pos_right (by exact_mod_cast bits) unit
  have log := (Int.lt_zpow_iff_log_lt (by decide) positive).mp below
  have under : f.exponentOf (m * 2 ^ e) ≤ e := by
    rw [exponentOf]
    omega
  obtain ⟨k, gap⟩ := Int.eq_ofNat_of_zero_le (sub_nonneg.mpr under)
  rw [round]
  generalize f.exponentOf (m * 2 ^ e) = step at gap
  have power : (2 : ℚ) ^ e = 2 ^ k * 2 ^ step := by
    rw [← zpow_natCast, ← zpow_add₀ two_ne_zero]
    congr 1
    omega
  have whole : (m : ℚ) * 2 ^ e * 2 ^ (-step) = (m * 2 ^ k : ℕ) := by
    rw [power, zpow_neg, ← mul_assoc, mul_inv_cancel_right₀ (zpow_ne_zero _ two_ne_zero)]
    push_cast
    rfl
  rw [whole, half_even_natural, power]
  push_cast
  ring

end

end ShaderKnobs.Number
