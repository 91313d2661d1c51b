import ShaderKnobs.Proofs.Number.Whole

set_option autoImplicit false

namespace ShaderKnobs.Number

-- Within half a step of double precision of the half-way point above a multiple `q` of the step of single
-- precision, on the side that ties at this point do not go to.
def BesideHalfway (n : ℕ) : Prop :=
  ∃ s q r : ℕ, 2 ^ 23 ≤ q ∧ q < 2 ^ 24 ∧ 0 < r ∧ r ≤ 2 ^ s ∧
    (q % 2 = 0 ∧ n = (2 * q + 1) * 2 ^ (s + 29) + r ∨ q % 2 = 1 ∧ n + r = (2 * q + 1) * 2 ^ (s + 29))

theorem parts_below (t a u r : ℕ) (inside : r < u) :
    (t * u + r < a * u ↔ t < a) ∧ (t * u + r = a * u ↔ t = a ∧ r = 0) := by
  rcases lt_trichotomy t a with less | rfl | more
  · have next := Nat.mul_le_mul_right u less
    rw [Nat.succ_mul] at next
    constructor <;> omega
  · constructor <;> omega
  · have next := Nat.mul_le_mul_right u more
    rw [Nat.succ_mul] at next
    constructor <;> omega

theorem single_round_parts (s q t r : ℕ) (full : 2 ^ 23 ≤ q) (bits : q < 2 ^ 24) (inside : r < 2 * 2 ^ s)
    (part : t ≤ 2 ^ 29) (last : t = 2 ^ 29 → r = 0) : single.round ((q * 2 ^ 29 + t) * (2 * 2 ^ s) + r : ℕ) =
      ((if t < 2 ^ 28 ∨ (t = 2 ^ 28 ∧ r = 0) ∧ q % 2 = 0 then q else q + 1) * (2 * 2 ^ (s + 29)) : ℕ) := by
  have half : 2 ^ (s + 29) = 2 ^ 28 * (2 * 2 ^ s) := by
    rw [pow_add]
    ring
  have parts : (q * 2 ^ 29 + t) * (2 * 2 ^ s) + r = q * (2 * 2 ^ (s + 29)) + (t * (2 * 2 ^ s) + r) := by
    rw [half]
    ring
  have rest : t * (2 * 2 ^ s) + r ≤ 2 * 2 ^ (s + 29) := by
    have whole : 2 * 2 ^ (s + 29) = 2 ^ 29 * (2 * 2 ^ s) := by
      rw [half]
      ring
    obtain ⟨less, same⟩ := parts_below t (2 ^ 29) (2 * 2 ^ s) r inside
    rw [whole]
    rcases part.lt_or_eq with below | full
    · exact (less.mpr below).le
    · exact (same.mpr ⟨full, last full⟩).le
  obtain ⟨less, same⟩ := parts_below t (2 ^ 28) (2 * 2 ^ s) r inside
  rw [parts, single.round_parts single_proper (by decide) (s + 29) q _ full bits rest, half]
  simp only [less, same]

-- What the first rounding leaves below the step of single precision decides the second.
theorem twice_rounded_parts (s q t r : ℕ) (full : 2 ^ 23 ≤ q) (bits : q < 2 ^ 24) (part : t < 2 ^ 29)
    (inside : r < 2 * 2 ^ s) :
    let n : ℕ := (q * 2 ^ 29 + t) * (2 * 2 ^ s) + r
    single.round (double.round n) = single.round n ↔
      ¬(q % 2 = 0 ∧ t = 2 ^ 28 ∧ 0 < r ∧ r ≤ 2 ^ s ∨ q % 2 = 1 ∧ t + 1 = 2 ^ 28 ∧ 2 ^ s ≤ r) := by
  intro n
  have positive : 0 < 2 * 2 ^ s := by positivity
  have step : 0 < 2 * 2 ^ (s + 29) := by positivity
  have parity : (q * 2 ^ 29 + t) % 2 = t % 2 := by omega
  have rounded := double.round_parts double_proper (by decide) s (q * 2 ^ 29 + t) r
    (by simp only [double]; omega) (by simp only [double]; omega) inside.le
  rw [parity] at rounded
  obtain ⟨t', first, way⟩ : ∃ t', double.round n = ((q * 2 ^ 29 + t') * (2 * 2 ^ s) + 0 : ℕ) ∧
      ((r < 2 ^ s ∨ r = 2 ^ s ∧ t % 2 = 0) ∧ t' = t ∨ ¬(r < 2 ^ s ∨ r = 2 ^ s ∧ t % 2 = 0) ∧ t' = t + 1) := by
    by_cases low : r < 2 ^ s ∨ r = 2 ^ s ∧ t % 2 = 0
    · rw [if_pos low] at rounded
      exact ⟨t, rounded, .inl ⟨low, rfl⟩⟩
    · rw [if_neg low, Nat.add_assoc] at rounded
      exact ⟨t + 1, rounded, .inr ⟨low, rfl⟩⟩
  have second := single_round_parts s q t' 0 full bits positive (by omega) fun _ => rfl
  have direct := single_round_parts s q t r full bits inside part.le fun full => absurd full part.ne
  rw [first, second, direct, Nat.cast_inj, Nat.mul_left_inj step.ne']
  split_ifs <;> omega

theorem halfway_parts (q s : ℕ) : (2 * q + 1) * 2 ^ (s + 29) = (q * 2 ^ 29 + (2 ^ 28 - 1)) * (2 * 2 ^ s) + 2 * 2 ^ s := by
  rw [pow_add]
  ring

theorem beside_parts (n : ℕ) (beside : BesideHalfway n) :
    ∃ s q t r : ℕ, 2 ^ 23 ≤ q ∧ q < 2 ^ 24 ∧ t < 2 ^ 29 ∧ r < 2 * 2 ^ s ∧ n = (q * 2 ^ 29 + t) * (2 * 2 ^ s) + r ∧
      (q % 2 = 0 ∧ t = 2 ^ 28 ∧ 0 < r ∧ r ≤ 2 ^ s ∨ q % 2 = 1 ∧ t + 1 = 2 ^ 28 ∧ 2 ^ s ≤ r) := by
  obtain ⟨s, q, r, full, bits, some_, near, ⟨even, above⟩ | ⟨odd, below⟩⟩ := beside
  · refine ⟨s, q, 2 ^ 28, r, full, bits, by decide, by omega, ?_, .inl ⟨even, rfl, some_, near⟩⟩
    rw [above, halfway_parts]
    ring
  · refine ⟨s, q, 2 ^ 28 - 1, 2 * 2 ^ s - r, full, bits, by decide, by omega, ?_, .inr ⟨odd, rfl, by omega⟩⟩
    rw [halfway_parts] at below
    omega

theorem twice_rounded (n : ℕ) : single.round (double.round n) = single.round n ↔ ¬BesideHalfway n := by
  constructor
  · intro same beside
    obtain ⟨s, q, t, r, full, bits, part, inside, rfl, apart⟩ := beside_parts n beside
    exact (twice_rounded_parts s q t r full bits part inside).mp same apart
  · intro clear
    by_cases few : n < 2 ^ 53
    · rw [double.round_few_bits (by decide) n few]
    obtain ⟨s, m, r, full, bits, inside, rfl⟩ := large_parts 53 n (by decide) (Nat.le_of_not_lt few)
    have parts : m = m / 2 ^ 29 * 2 ^ 29 + m % 2 ^ 29 := (Nat.div_add_mod' m (2 ^ 29)).symm
    have decided := twice_rounded_parts s (m / 2 ^ 29) (m % 2 ^ 29) r (by omega) (by omega) (by omega) inside
    rw [← parts] at decided
    apply decided.mpr
    generalize m / 2 ^ 29 = q at parts
    generalize m % 2 ^ 29 = t at parts
    subst parts
    rintro (⟨even, half, some_, near⟩ | ⟨odd, half, near⟩)
    · refine clear ⟨s, q, r, by omega, by omega, some_, near, .inl ⟨even, ?_⟩⟩
      rw [half, halfway_parts]
      ring
    · refine clear ⟨s, q, 2 * 2 ^ s - r, by omega, by omega, by omega, by omega, .inr ⟨odd, ?_⟩⟩
      obtain rfl : t = 2 ^ 28 - 1 := by omega
      rw [halfway_parts]
      omega

end ShaderKnobs.Number
