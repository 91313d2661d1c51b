import ShaderKnobs.Proofs.Literal.Exact
import ShaderKnobs.Proofs.Literal.Printed

set_option autoImplicit false

namespace ShaderKnobs.Literal

open Number (natDigits ofDigits)

-- The signs an integer may be written with; zero may have any.
def SignFor (n : Int) (sign : List Char) : Prop :=
  sign = ['-'] ∧ n ≤ 0 ∨ (sign = [] ∨ sign = ['+']) ∧ 0 ≤ n

-- A magnitude in base sixteen: zeros may stand in front, and each letter may be a capital.
def HexSpelling (magnitude : Nat) (digits : List Char) : Prop :=
  ∃ zeros, digits.map Char.toLower = List.replicate zeros '0' ++ Nat.toDigits 16 magnitude

theorem sign_for (n : Int) (sign : List Char) (fits : SignFor n sign) :
    ∃ negative, signed negative n.natAbs = n ∧ ∀ rest, Sign (sign ++ rest) negative rest := by
  rcases fits with ⟨rfl, negative⟩ | ⟨rfl | rfl, positive⟩
  · refine ⟨true, ?_, Sign.minus⟩
    rw [signed, if_pos rfl]
    omega
  · refine ⟨false, ?_, Sign.none⟩
    rw [signed, if_neg Bool.false_ne_true]
    omega
  · refine ⟨false, ?_, Sign.plus⟩
    rw [signed, if_neg Bool.false_ne_true]
    omega

theorem hex_digit_lower (c : Char) : Text.hexDigit? c.toLower = Text.hexDigit? c := by
  by_cases capital : 'A'.val ≤ c.val ∧ c.val ≤ 'Z'.val
  · have capitals : ∀ n < 91, 65 ≤ n → Text.hexDigit? (Char.ofNat n).toLower = Text.hexDigit? (Char.ofNat n) := by
      decide
    have same := capitals c.toNat (Nat.lt_succ_of_le capital.2) capital.1
    rwa [Char.ofNat_toNat] at same
  · have same : c.toLower = c := dif_neg capital
    rw [same]

theorem hex_digit_char (n : Nat) (small : n < 16) : Text.hexDigit? n.digitChar = some n := by
  have digits : ∀ n < 16, Text.hexDigit? n.digitChar = some n := by decide
  exact digits n small

theorem hex_value_lower (digits : List Char) : Text.hexValue? (digits.map Char.toLower) = Text.hexValue? digits := by
  rw [Text.hexValue?, List.foldlM_map]
  simp only [hex_digit_lower]
  rfl

theorem hex_value_push (front : List Char) (last : Char) (value digit : Nat) (before : Text.hexValue? front = some value)
    (read : Text.hexDigit? last = some digit) : Text.hexValue? (front ++ [last]) = some (16 * value + digit) := by
  rw [Text.hexValue?] at before
  rw [Text.hexValue?, List.foldlM_append, before]
  simp [read]

theorem hex_value_zero (zeros : Nat) (digits : List Char) :
    Text.hexValue? (List.replicate zeros '0' ++ digits) = Text.hexValue? digits := by
  induction zeros with
  | zero => rfl
  | succ zeros ih => exact ih

-- By induction on the magnitude: the last digit is written after those of the sixteenth part.
theorem hex_value_written (magnitude : Nat) : Text.hexValue? (Nat.toDigits 16 magnitude) = some magnitude := by
  induction magnitude using Nat.strongRecOn with
  | ind magnitude ih =>
      by_cases small : magnitude < 16
      · have digit := hex_value_push [] _ 0 magnitude rfl (hex_digit_char magnitude small)
        rw [Nat.mul_zero, Nat.zero_add] at digit
        rw [Nat.toDigits_of_lt_base small]
        exact digit
      · have last := hex_digit_char (magnitude % 16) (Nat.mod_lt _ (by decide))
        have front := ih (magnitude / 16) (by omega)
        rw [Nat.toDigits_of_base_le (by decide) (by omega), hex_value_push _ _ _ _ front last, Nat.div_add_mod]

theorem hex_spelling (magnitude : Nat) (digits : List Char) (spelled : HexSpelling magnitude digits) :
    digits ≠ [] ∧ Text.hexValue? digits = some magnitude := by
  obtain ⟨zeros, lower⟩ := spelled
  constructor
  · rintro rfl
    have none_ := (List.append_eq_nil_iff.mp lower.symm).2
    exact Nat.toDigits_ne_nil none_
  · rw [← hex_value_lower, lower, hex_value_zero, hex_value_written]

theorem parse_number (chars : List Char) (data : Json) (number : Numerical chars data []) :
    parse (String.ofList chars) = .ok data := by
  have spells : Spells chars data := ⟨chars, [], .none chars, .number chars data [] number, .none []⟩
  rw [parse, String.toList_ofList, (parse_chars_exact chars data).mpr spells]
  rfl

theorem number_begins (c : Char) (text : List Char) (first : c.isDigit = true ∨ c = '-' ∨ c = '+' ∨ c = '.') :
    Begins (c :: text) := by
  refine ⟨c, text, rfl, ?_⟩
  rcases first with digit | rfl | rfl | rfl
  · exact ident_not_separator c (digit_ident c digit)
  · decide
  · decide
  · decide

theorem parse_refused (c : Char) (text : List Char) (cause : Cause)
    (first : c.isDigit = true ∨ c = '-' ∨ c = '+' ∨ c = '.')
    (refused : scanNumber (c :: text) = fail cause (c :: text)) :
    parse (String.ofList (c :: text)) = .error ⟨cause, 0⟩ := by
  have skipped := skip_gap (c :: text) _ (.none _) (begins_no_gap _ (number_begins c text first))
  have scanned : parseChars (c :: text) = fail cause (c :: text) := by
    rw [parseChars, skipped, ok_bind]
    dsimp only
    rw [value_number maxDepth c text first, refused]
    rfl
  have offset : Failure.within (c :: text) ⟨cause, c :: text⟩ = ⟨cause, 0⟩ := by
    rw [Failure.within, Nat.sub_self]
  rw [parse, String.toList_ofList, scanned]
  exact congrArg Except.error offset

theorem hex_too_large (start digits : List Char) (negative : Bool) (magnitude : Nat)
    (value : Text.hexValue? digits = some magnitude) (large : 2 ^ 63 ≤ magnitude) :
    scanHex start negative digits = fail .invalidHex start := by
  have whole := Text.span_exact isHexDigit digits [] (hex_value_digits digits magnitude value) nofun
  rw [List.append_nil] at whole
  have beyond : digits = [] ∨ (2 ^ 63 : Int) ≤ ((some magnitude).getD 0 : Nat) := by
    right
    rw [Option.getD_some]
    omega
  rw [scanHex, whole.1, value]
  exact if_pos beyond

theorem parse_decimal (n : Int64) (sign : List Char) (fits : SignFor n.toInt sign) :
    parse (String.ofList (sign ++ natDigits n.toInt.natAbs)) = .ok (.ofInt64 n) := by
  obtain ⟨negative, value, read⟩ := sign_for n.toInt sign fits
  apply parse_number
  apply Numerical.integer _ (natDigits n.toInt.natAbs) [] negative
  · rw [List.append_nil]
    exact read _
  · exact Number.nat_digits_some _
  · exact Number.nat_digits_digit _
  · rw [Number.of_nat_digits, value]
  · exact ⟨n.le_toInt, n.toInt_lt⟩

theorem parse_hex (n : Int64) (sign digits : List Char) (mark : Char) (fits : SignFor n.toInt sign)
    (isMark : mark = 'x' ∨ mark = 'X') (spelled : HexSpelling n.toInt.natAbs digits) (small : n ≠ Int64.minValue) :
    parse (String.ofList (sign ++ '0' :: mark :: digits)) = .ok (.ofInt64 n) := by
  obtain ⟨negative, value, read⟩ := sign_for n.toInt sign fits
  obtain ⟨some_, magnitude⟩ := hex_spelling n.toInt.natAbs digits spelled
  have above : n.toInt ≠ -2 ^ 63 := fun least => small (Int64.toInt_inj.mp least)
  apply parse_number
  apply Numerical.hex _ digits [] negative mark n.toInt.natAbs
  · rw [List.append_nil]
    exact read _
  · exact isMark
  · exact some_
  · exact magnitude
  · have range := n.le_toInt
    have range' := n.toInt_lt
    omega
  · exact value.symm

theorem parse_hex_least (sign digits : List Char) (mark : Char) (fits : SignFor Int64.minValue.toInt sign)
    (isMark : mark = 'x' ∨ mark = 'X') (spelled : HexSpelling Int64.minValue.toInt.natAbs digits) :
    parse (String.ofList (sign ++ '0' :: mark :: digits)) = .error ⟨.invalidHex, 0⟩ := by
  obtain ⟨_, magnitude⟩ := hex_spelling _ digits spelled
  have refused := hex_too_large ('-' :: '0' :: mark :: digits) digits true _ magnitude (by decide)
  obtain ⟨rfl, _⟩ : sign = ['-'] ∧ Int64.minValue.toInt ≤ 0 := by
    rcases fits with negative | ⟨_, positive⟩
    · exact negative
    · exact absurd positive (by decide)
  apply parse_refused '-' _ .invalidHex (.inr (.inl rfl))
  rcases isMark with rfl | rfl <;> exact refused

-- Any spelling of an integer of 64 bits is read as that integer, except that the least one has no
-- spelling in base sixteen.
theorem radixes_agree_above_least (n : Int64) (sign sign' digits : List Char) (mark : Char)
    (fits : SignFor n.toInt sign) (fits' : SignFor n.toInt sign') (isMark : mark = 'x' ∨ mark = 'X')
    (spelled : HexSpelling n.toInt.natAbs digits) :
    parse (String.ofList (sign' ++ natDigits n.toInt.natAbs)) = .ok (.ofInt64 n) ∧
      parse (String.ofList (sign ++ '0' :: mark :: digits)) =
        if n = Int64.minValue then .error ⟨.invalidHex, 0⟩ else .ok (.ofInt64 n) := by
  refine ⟨parse_decimal n sign' fits', ?_⟩
  by_cases least : n = Int64.minValue
  · subst least
    rw [if_pos rfl]
    exact parse_hex_least sign digits mark fits isMark spelled
  · rw [if_neg least]
    exact parse_hex n sign digits mark fits isMark spelled least

theorem thirty_one_in_both :
    parse "-31" = .ok (.ofInt64 (-31)) ∧ parse "-0X001F" = .ok (.ofInt64 (-31)) := by
  have negative : SignFor (-31 : Int64).toInt ['-'] := .inl ⟨rfl, by decide⟩
  have spelled : HexSpelling (-31 : Int64).toInt.natAbs ['0', '0', '1', 'F'] := ⟨2, by decide⟩
  have both := radixes_agree_above_least (-31) ['-'] ['-'] _ 'X' negative negative (.inr rfl) spelled
  rw [if_neg (by decide)] at both
  have decimal : "-31" = String.ofList (['-'] ++ natDigits (-31 : Int64).toInt.natAbs) := by decide
  rw [decimal]
  exact both

theorem least_refused_in_hex :
    HexSpelling Int64.minValue.toInt.natAbs "8000000000000000".toList ∧
      parse "-9223372036854775808" = .ok (.ofInt64 Int64.minValue) ∧
      parse "-0x8000000000000000" = .error ⟨.invalidHex, 0⟩ := by
  have negative : SignFor Int64.minValue.toInt ['-'] := .inl ⟨rfl, by decide⟩
  have spelled : HexSpelling Int64.minValue.toInt.natAbs "8000000000000000".toList := ⟨0, by decide⟩
  have decimal : "-9223372036854775808" = String.ofList (['-'] ++ natDigits Int64.minValue.toInt.natAbs) := by decide
  refine ⟨spelled, ?_, parse_hex_least ['-'] _ 'x' negative (.inl rfl) spelled⟩
  rw [decimal]
  exact parse_decimal Int64.minValue ['-'] negative

end ShaderKnobs.Literal
