import ShaderKnobs.Proofs.Number.Nearest

set_option autoImplicit false

namespace ShaderKnobs.Number

variable {f : Format}

-- The next natural number is rounded to a greater one: the two have room in the bits of the format, or the
-- half-way point above a multiple `q` of the step is passed, by the first number beyond it if `q` is
-- even and by the point itself if not.
def Format.Passes (f : Format) (n : ℕ) : Prop :=
  n < 2 ^ f.precision ∨
    ∃ s q : ℕ, 2 ^ (f.precision - 1) ≤ q ∧ q < 2 ^ f.precision ∧
      (q % 2 = 0 ∧ n = (2 * q + 1) * 2 ^ s ∨ q % 2 = 1 ∧ n + 1 = (2 * q + 1) * 2 ^ s)

theorem large_parts (bits n : ℕ) (some_ : 0 < bits) (large : 2 ^ bits ≤ n) :
    ∃ s q r : ℕ, 2 ^ (bits - 1) ≤ q ∧ q < 2 ^ bits ∧ r < 2 * 2 ^ s ∧ n = q * (2 * 2 ^ s) + r := by
  have positive : n ≠ 0 := by
    have power := Nat.two_pow_pos bits
    omega
  have long : bits ≤ n.log2 := (Nat.le_log2 positive).mpr large
  have step : 0 < 2 * 2 ^ (n.log2 - bits) := by positivity
  have low : 2 ^ (bits - 1) * (2 * 2 ^ (n.log2 - bits)) = 2 ^ n.log2 := by
    rw [← pow_succ', ← pow_add]
    congr 1
    omega
  have high : 2 ^ bits * (2 * 2 ^ (n.log2 - bits)) = 2 ^ (n.log2 + 1) := by
    rw [← pow_succ', ← pow_add]
    congr 1
    omega
  refine ⟨n.log2 - bits, n / (2 * 2 ^ (n.log2 - bits)), n % (2 * 2 ^ (n.log2 - bits)), ?_, ?_, Nat.mod_lt _ step, ?_⟩
  · rw [Nat.le_div_iff_mul_le step, low]
    exact Nat.log2_self_le positive
  · rw [Nat.div_lt_iff_lt_mul step, high]
    exact Nat.lt_log2_self
  · rw [mul_comm]
    exact (Nat.div_add_mod n _).symm

section

variable (proper : f.Proper) (whole : f.minExponent ≤ 0)

include whole

theorem Format.round_few_bits (n : ℕ) (few : n < 2 ^ f.precision) : f.round n = n := by
  have multiple := f.round_multiple n 0 whole few
  rwa [zpow_zero, mul_one] at multiple

include proper

theorem Format.round_parts (s q r : ℕ) (full : 2 ^ (f.precision - 1) ≤ q) (bits : q < 2 ^ f.precision)
    (inside : r ≤ 2 * 2 ^ s) : f.round (q * (2 * 2 ^ s) + r : ℕ) =
      ((if r < 2 ^ s ∨ r = 2 ^ s ∧ q % 2 = 0 then q else q + 1) * (2 * 2 ^ s) : ℕ) := by
  have step : (2 : ℚ) ^ ((s + 1 : ℕ) : Int) = (2 * 2 ^ s : ℕ) := by
    rw [zpow_natCast, pow_succ']
    push_cast
    rfl
  have low : 2 ^ (f.precision - 1) * (2 * 2 ^ s) ≤ q * (2 * 2 ^ s) + r :=
    (Nat.mul_le_mul_right _ full).trans (Nat.le_add_right _ _)
  have high : q * (2 * 2 ^ s) + r ≤ 2 ^ f.precision * (2 * 2 ^ s) := by
    have next := Nat.mul_le_mul_right (2 * 2 ^ s) bits
    rw [Nat.succ_mul] at next
    omega
  rw [f.round_at proper _ ((s + 1 : ℕ) : Int) (by omega) (by rw [step]; exact_mod_cast low)
    (by rw [step]; exact_mod_cast high), zpow_neg, step, ← div_eq_mul_inv,
    half_even_parts q r (2 ^ s) (Nat.two_pow_pos s) inside, ← Nat.cast_mul]

theorem Format.round_bits (n : ℕ) (fits : n ≤ 2 ^ f.precision) : f.round n = n := by
  rcases fits.lt_or_eq with few | rfl
  · exact f.round_few_bits whole n few
  · have power : 2 ^ f.precision = 2 ^ (f.precision - 1) * (2 * 2 ^ 0) + 0 := by
      rw [pow_zero, mul_one, add_zero, ← pow_succ, Nat.sub_add_cancel proper.bits]
    rw [power, f.round_parts proper whole 0 _ 0 (Nat.le_refl _) (f.full_lt proper) (Nat.zero_le _),
      if_pos (.inl (Nat.two_pow_pos 0))]
    rfl

theorem Format.round_error (n : ℕ) : |f.round n - n| * 2 ^ f.precision ≤ n := by
  by_cases few : n < 2 ^ f.precision
  · rw [f.round_few_bits whole n few, sub_self, abs_zero, zero_mul]
    exact Nat.cast_nonneg n
  · obtain ⟨s, q, r, full, bits, inside, rfl⟩ := large_parts f.precision n proper.bits (Nat.le_of_not_lt few)
    have half : |f.round (q * (2 * 2 ^ s) + r : ℕ) - (q * (2 * 2 ^ s) + r : ℕ)| ≤ 2 ^ s := by
      have inside' : (r : ℚ) ≤ 2 * 2 ^ s := by exact_mod_cast inside.le
      have natural : (0 : ℚ) ≤ r := Nat.cast_nonneg r
      rw [f.round_parts proper whole s q r full bits inside.le, abs_le]
      split
      · next low =>
          have most : (r : ℚ) ≤ 2 ^ s := by exact_mod_cast (by omega : r ≤ 2 ^ s)
          push_cast
          constructor <;> linarith
      · next high =>
          have least : (2 : ℚ) ^ s ≤ r := by exact_mod_cast (by omega : 2 ^ s ≤ r)
          push_cast
          constructor <;> linarith
    have size : (2 : ℚ) ^ s * 2 ^ f.precision ≤ (q * (2 * 2 ^ s) + r : ℕ) := by
      have full' : (2 : ℚ) ^ (f.precision - 1) ≤ q := by exact_mod_cast full
      rw [f.power_twice proper]
      push_cast
      calc (2 : ℚ) ^ s * (2 * 2 ^ (f.precision - 1)) = 2 ^ (f.precision - 1) * (2 * 2 ^ s) := by ring
        _ ≤ q * (2 * 2 ^ s) := mul_le_mul_of_nonneg_right full' (by positivity)
        _ ≤ q * (2 * 2 ^ s) + r := le_add_of_nonneg_right (Nat.cast_nonneg r)
    exact (mul_le_mul_of_nonneg_right half (by positivity)).trans size

theorem Format.round_step (s q r : ℕ) (full : 2 ^ (f.precision - 1) ≤ q) (bits : q < 2 ^ f.precision)
    (inside : r < 2 * 2 ^ s) :
    let n := q * (2 * 2 ^ s) + r
    f.round n ≤ f.round (n + 1 : ℕ) ∧
      (f.round n < f.round (n + 1 : ℕ) ↔ q % 2 = 0 ∧ r = 2 ^ s ∨ q % 2 = 1 ∧ r + 1 = 2 ^ s) := by
  intro n
  have here := f.round_parts proper whole s q r full bits inside.le
  have next := f.round_parts proper whole s q (r + 1) full bits inside
  have step : 0 < 2 * 2 ^ s := by positivity
  rw [← Nat.add_assoc] at next
  rw [here, next, Nat.cast_le, Nat.cast_lt, Nat.mul_le_mul_right_iff step, Nat.mul_lt_mul_right step]
  constructor
  · split_ifs <;> omega
  · split_ifs <;> omega

-- One natural number further is rounded no lower, and higher exactly past a half-way point.
theorem Format.round_next (n : ℕ) :
    f.round n ≤ f.round (n + 1 : ℕ) ∧ (f.round n < f.round (n + 1 : ℕ) ↔ f.Passes n) := by
  by_cases few : n < 2 ^ f.precision
  · have less : (n : ℚ) < (n + 1 : ℕ) := by exact_mod_cast Nat.lt_succ_self n
    rw [f.round_few_bits whole n few, f.round_bits proper whole (n + 1) few]
    exact ⟨less.le, fun _ => .inl few, fun _ => less⟩
  · obtain ⟨s, q, r, full, bits, inside, same⟩ := large_parts f.precision n proper.bits (Nat.le_of_not_lt few)
    obtain ⟨least, exactly⟩ := f.round_step proper whole s q r full bits inside
    rw [← same] at least exactly
    refine ⟨least, fun less => .inr ?_, ?_⟩
    · rcases exactly.mp less with ⟨even, half⟩ | ⟨odd, half⟩
      · refine ⟨s, q, full, bits, .inl ⟨even, ?_⟩⟩
        rw [same, half]
        ring
      · refine ⟨s, q, full, bits, .inr ⟨odd, ?_⟩⟩
        rw [same, Nat.add_assoc, half]
        ring
    · rintro (fewer | ⟨s', q', full', bits', passed⟩)
      · exact absurd fewer few
      have power := Nat.two_pow_pos s'
      rcases passed with ⟨even, point⟩ | ⟨odd, point⟩
      · have parts : n = q' * (2 * 2 ^ s') + 2 ^ s' := by
          rw [point]
          ring
        obtain ⟨_, exactly'⟩ := f.round_step proper whole s' q' (2 ^ s') full' bits' (by omega)
        rw [parts]
        exact exactly'.mpr (.inl ⟨even, rfl⟩)
      · have parts : n = q' * (2 * 2 ^ s') + (2 ^ s' - 1) := by
          have product : (2 * q' + 1) * 2 ^ s' = q' * (2 * 2 ^ s') + 2 ^ s' := by ring
          omega
        obtain ⟨_, exactly'⟩ := f.round_step proper whole s' q' (2 ^ s' - 1) full' bits' (by omega)
        rw [parts]
        exact exactly'.mpr (.inr ⟨odd, Nat.sub_add_cancel power⟩)

omit whole

theorem of_int_rounds (n : Int) (room : (n.natAbs : ℚ) < f.limit) :
    ∃ x : Finite f, Binary.ofInt f n = .finite x ∧ x.negative = decide (n < 0) ∧ x.value = f.round n.natAbs := by
  obtain ⟨x, rounded, sign, value⟩ := of_value_rounds proper (decide (n < 0)) n.natAbs (Nat.cast_nonneg _) room
  refine ⟨x, ?_, sign, value⟩
  rw [Binary.ofInt, of_ratio_value f _ _ Nat.one_pos, Ratio.value, Nat.cast_one, div_one]
  exact rounded

end

end ShaderKnobs.Number
