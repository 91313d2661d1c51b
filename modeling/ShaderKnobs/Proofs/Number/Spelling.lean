import ShaderKnobs.Number.Layout
import ShaderKnobs.Proofs.Number.Exact

set_option autoImplicit false

namespace ShaderKnobs.Number

theorem of_digits_append (front back : List Char) :
    ofDigits (front ++ back) = 10 ^ back.length * ofDigits front + ofDigits back := by
  change Nat.ofDigitChars 10 (front ++ back) 0 = _
  rw [Nat.ofDigitChars_append, Nat.ofDigitChars_eq_ofDigitChars_zero]
  rfl

theorem of_digits_zeros (count : Nat) : ofDigits (List.replicate count '0') = 0 := by
  change Nat.ofDigitChars 10 (List.replicate count '0') 0 = 0
  rw [Nat.ofDigitChars_replicate_zero, Nat.mul_zero]

theorem of_nat_digits (n : Nat) : ofDigits (natDigits n) = n := Nat.ofDigitChars_ten_toDigits

theorem nat_digits_digit (n : Nat) : ∀ c ∈ natDigits n, c.isDigit = true :=
  fun _ member => Nat.isDigit_of_mem_toDigits (by decide) (by decide) member

theorem nat_digits_some (n : Nat) : natDigits n ≠ [] := Nat.toDigits_ne_nil

-- Only zero is written with a zero in front: by induction, the last digit is written after all others.
theorem nat_digits_lead (n : Nat) (positive : n ≠ 0) : (natDigits n).head? ≠ some '0' := by
  induction n using Nat.strongRecOn with
  | ind n ih =>
      by_cases small : n < 10
      · have single : ∀ n < 10, n ≠ 0 → [n.digitChar].head? ≠ some '0' := by decide
        rw [natDigits, Nat.toDigits_of_lt_base small]
        exact single n small positive
      · have front : Nat.toDigits 10 (n / 10) ≠ [] := Nat.toDigits_ne_nil
        rw [natDigits, Nat.toDigits_of_base_le (by decide) (by omega), List.head?_append_of_ne_nil _ front]
        exact ih (n / 10) (by omega) (by omega)

-- A magnitude in parts; a part that is missing is not written.
structure Spelling where
  whole : List Char
  fraction : Option (List Char)
  power : Option Int

namespace Spelling

def fractionText : Option (List Char) → List Char
  | none => []
  | some digits => '.' :: digits

def powerText : Option Int → List Char
  | none => []
  | some power => 'e' :: ((if 0 < power then ['+'] else []) ++ intDigits power)

def text (s : Spelling) : List Char := s.whole ++ (fractionText s.fraction ++ powerText s.power)

def value (s : Spelling) : ℚ :=
  ofDigits (s.whole ++ s.fraction.getD []) * 10 ^ (s.power.getD 0 - (s.fraction.getD []).length)

def Leads (digits : List Char) : Prop := digits = ['0'] ∨ digits.head? ≠ some '0'

-- Digits stand where digits belong, on both sides of a point.
structure Legible (s : Spelling) : Prop where
  some_ : s.whole ≠ []
  whole : ∀ c ∈ s.whole, c.isDigit = true
  leads : Leads s.whole
  fraction : ∀ c ∈ s.fraction.getD [], c.isDigit = true
  pointed : s.fraction ≠ some []

-- A point or a power tells the number from an integer.
structure Proper (s : Spelling) : Prop extends s.Legible where
  marked : s.fraction ≠ none ∨ s.power ≠ none

end Spelling

def Written (text : List Char) (worth : ℚ) : Prop :=
  ∃ s : Spelling, text = s.text ∧ s.Proper ∧ s.value = worth

theorem zeros_digit (count : Nat) : ∀ c ∈ List.replicate count '0', c.isDigit = true := by
  intro c member
  rw [(List.mem_replicate.mp member).2]
  rfl

theorem append_digit (front back : List Char) (first : ∀ c ∈ front, c.isDigit = true)
    (second : ∀ c ∈ back, c.isDigit = true) : ∀ c ∈ front ++ back, c.isDigit = true :=
  fun c member => (List.mem_append.mp member).elim (first c) (second c)

section

variable (digits : List Char) (point : Int) (inside : ∀ c ∈ digits, c.isDigit = true) (some_ : digits ≠ [])
  (leads : digits.head? ≠ some '0' ∨ digits = ['0'] ∧ point = 1)

include inside some_

theorem leading_zeros_written (small : point ≤ 0) :
    Written (positionalText true digits point) (ofDigits digits * 10 ^ (point - digits.length)) := by
  let zeros := List.replicate (-point).toNat '0'
  refine ⟨⟨['0'], some (zeros ++ digits), none⟩, ?_,
    ⟨⟨by simp, by simp, .inl rfl, ?_, by simp [some_]⟩, .inl (by simp)⟩, ?_⟩
  · rw [positionalText, if_pos small, Spelling.text, Spelling.powerText, List.append_nil]
    rfl
  · exact append_digit zeros digits (zeros_digit _) inside
  · have worth : ofDigits (['0'] ++ (zeros ++ digits)) = ofDigits digits := by
      rw [of_digits_append, of_digits_append, of_digits_zeros]
      simp [ofDigits]
    have places : (0 : Int) - (zeros ++ digits).length = point - digits.length := by
      rw [List.length_append, List.length_replicate]
      omega
    rw [Spelling.value, Option.getD_some, Option.getD_none, worth, places]

include leads

theorem trailing_zeros_written (large : ¬point ≤ 0) (long : digits.length ≤ point.toNat) :
    Written (positionalText true digits point) (ofDigits digits * 10 ^ (point - digits.length)) := by
  let zeros := List.replicate (point.toNat - digits.length) '0'
  have first : Spelling.Leads (digits ++ zeros) := by
    rcases leads with other | ⟨rfl, rfl⟩
    · exact .inr (by rwa [List.head?_append_of_ne_nil digits some_])
    · exact .inl rfl
  refine ⟨⟨digits ++ zeros, some ['0'], none⟩, ?_,
    ⟨⟨by simp [some_], ?_, first, by simp, by simp⟩, .inl (by simp)⟩, ?_⟩
  · rw [positionalText, if_neg large, if_pos long, if_pos rfl, Spelling.text, Spelling.powerText, List.append_nil]
    rfl
  · exact append_digit digits zeros inside (zeros_digit _)
  · have zero : ofDigits ['0'] = 0 := rfl
    have worth : ofDigits (digits ++ zeros ++ ['0']) = 10 ^ (point.toNat - digits.length + 1) * ofDigits digits := by
      rw [of_digits_append, of_digits_append, of_digits_zeros, List.length_replicate, zero, List.length_singleton]
      ring
    have places : point - digits.length = ((point.toNat - digits.length + 1 : ℕ) : Int) - 1 := by omega
    have last : (0 : Int) - (['0'] : List Char).length = -1 := rfl
    rw [Spelling.value, Option.getD_some, Option.getD_none, worth, places, last, zpow_sub₀ (by norm_num), zpow_natCast,
      zpow_one, zpow_neg_one]
    push_cast
    ring

theorem point_inside_written (large : ¬point ≤ 0) (long : ¬digits.length ≤ point.toNat) :
    Written (positionalText true digits point) (ofDigits digits * 10 ^ (point - digits.length)) := by
  have first : Spelling.Leads (digits.take point.toNat) := by
    rcases leads with other | ⟨rfl, rfl⟩
    · exact .inr (by rwa [List.head?_take, if_neg (by omega)])
    · exact .inl rfl
  have more : digits.drop point.toNat ≠ [] := by
    rwa [ne_eq, List.drop_eq_nil_iff]
  refine ⟨⟨digits.take point.toNat, some (digits.drop point.toNat), none⟩, ?_,
    ⟨⟨?_, ?_, first, ?_, by simp [more]⟩, .inl (by simp)⟩, ?_⟩
  · rw [positionalText, if_neg large, if_neg long, Spelling.text, Spelling.powerText, List.append_nil]
    rfl
  · rw [ne_eq, List.take_eq_nil_iff]
    rintro (none | none)
    · omega
    · exact some_ none
  · exact fun c member => inside c (List.mem_of_mem_take member)
  · exact fun c member => inside c (List.mem_of_mem_drop member)
  · have places : (0 : Int) - (digits.drop point.toNat).length = point - digits.length := by
      rw [List.length_drop]
      omega
    rw [Spelling.value, Option.getD_some, Option.getD_none, List.take_append_drop, places]

theorem positional_written :
    Written (positionalText true digits point) (ofDigits digits * 10 ^ (point - digits.length)) := by
  by_cases small : point ≤ 0
  · exact leading_zeros_written digits point inside some_ small
  by_cases long : digits.length ≤ point.toNat
  · exact trailing_zeros_written digits point inside some_ leads small long
  · exact point_inside_written digits point inside some_ leads small long

omit leads

theorem exponent_written (power : Int) :
    Written (exponentText true digits power) (ofDigits digits * 10 ^ (power + 1 - digits.length)) := by
  have lone : ∀ first : Char, Spelling.Leads [first] := by
    intro first
    by_cases zero : first = '0'
    · exact .inl (congrArg (fun c => [c]) zero)
    · exact .inr (fun same => zero (Option.some.inj same))
  match digits with
  | [] => exact absurd rfl some_
  | [first] =>
      refine ⟨⟨[first], none, some power⟩, ?_, ⟨⟨by simp, inside, lone first, by simp, by simp⟩, .inr (by simp)⟩, ?_⟩
      · simp [exponentText, Spelling.text, Spelling.fractionText, Spelling.powerText]
      · rw [Spelling.value]
        simp
  | first :: second :: rest =>
      refine ⟨⟨[first], some (second :: rest), some power⟩, ?_,
        ⟨⟨by simp, ?_, lone first, ?_, by simp⟩, .inl (by simp)⟩, ?_⟩
      · simp [exponentText, Spelling.text, Spelling.fractionText, Spelling.powerText]
      · intro c member
        exact inside c (List.mem_of_mem_take (i := 1) member)
      · exact fun c member => inside c (List.mem_cons_of_mem first member)
      · have places : power - (second :: rest).length = power + 1 - (first :: second :: rest).length := by
          simp only [List.length_cons]
          omega
        rw [Spelling.value, Option.getD_some, Option.getD_some, places]
        rfl

end

theorem magnitude_written (style : Layout) (point : style.wholePoint = true) (plus : style.plusSign = true)
    (least most : Int) (bounds : style.positional = some (least, most)) (d : Decimal) :
    Written (style.magnitude d) d.value := by
  let digits := natDigits d.significand
  let power : Int := if d.significand = 0 then 0 else d.exponent + digits.length - 1
  have worth : (ofDigits digits : ℚ) * 10 ^ (power + 1 - digits.length) = d.value := by
    rw [of_nat_digits, Decimal.value]
    by_cases zero : d.significand = 0
    · rw [zero, Nat.cast_zero, zero_mul, zero_mul]
    · have same : power + 1 - digits.length = d.exponent := by
        simp only [power, if_neg zero]
        omega
      rw [same]
  have layout : style.magnitude d =
      if d.significand = 0 ∨ (least ≤ power ∧ power ≤ most) then positionalText true digits (power + 1)
      else exponentText true digits power := by
    simp only [Layout.magnitude, bounds, point, plus]
    rfl
  rw [layout, ← worth]
  split
  · refine positional_written digits (power + 1) (nat_digits_digit _) (nat_digits_some _) ?_
    by_cases zero : d.significand = 0
    · exact .inr ⟨by simp only [digits, zero]; rfl, by simp only [power, if_pos zero]; rfl⟩
    · exact .inl (nat_digits_lead d.significand zero)
  · exact exponent_written digits (nat_digits_digit _) (nat_digits_some _) power

theorem data_double_written (x : Finite double) :
    ∃ s : Spelling, Layout.dataDouble.finite x = (if x.negative then ['-'] else []) ++ s.text ∧ s.Proper ∧
      Numeral.toBinary double ⟨x.negative, s.whole, s.fraction.getD [], s.power.getD 0⟩ = .finite x := by
  obtain ⟨s, written, proper, worth⟩ := magnitude_written Layout.dataDouble rfl rfl (-5) 15 rfl (x.shortest .even)
  let numeral : Numeral := ⟨x.negative, s.whole, s.fraction.getD [], s.power.getD 0⟩
  have same : numeral.decimal.value = (x.shortest .even).value := worth
  refine ⟨s, ?_, proper, ?_⟩
  · have magnitude : Layout.dataDouble.magnitude (x.shortest Layout.dataDouble.tie) = s.text := written
    rw [Layout.finite, magnitude]
  · change numeral.toBinary double = .finite x
    rw [Numeral.toBinary, Decimal.to_binary_value, same, ← Decimal.to_binary_value]
    exact x.shortest_reads_back (by decide) .even

end ShaderKnobs.Number
