import ShaderKnobs.Json.Document
import ShaderKnobs.Proofs.Literal.Grammar
import ShaderKnobs.Proofs.Number.Spelling

set_option autoImplicit false

namespace ShaderKnobs.Literal

open Number (Layout Spelling ofDigits natDigits intDigits)

theorem int_digits_sign (n : Int) (rest : List Char) :
    Sign (intDigits n ++ rest) (decide (n < 0)) (natDigits n.natAbs ++ rest) := by
  by_cases negative : n < 0
  · rw [intDigits, if_pos negative, decide_eq_true negative]
    exact .minus _
  · rw [intDigits, if_neg negative, decide_eq_false negative]
    exact .none _

theorem int_digits_value (n : Int) : signed (decide (n < 0)) (ofDigits (natDigits n.natAbs)) = n := by
  rw [Number.of_nat_digits, signed]
  by_cases negative : n < 0
  · rw [decide_eq_true negative, if_pos rfl]
    omega
  · rw [decide_eq_false negative, if_neg Bool.false_ne_true]
    omega

theorem printed_whole (n : Whole) (rest : List Char) (small : n.value < 2 ^ 63) :
    Numerical (intDigits n.value ++ rest) (.whole n) rest :=
  .integer _ (natDigits n.value.natAbs) rest (decide (n.value < 0)) n (int_digits_sign n.value rest)
    (Number.nat_digits_some _) (Number.nat_digits_digit _) (int_digits_value n.value).symm ⟨n.bounded.1, small⟩

theorem printed_fraction (fraction : Option (List Char)) (rest : List Char) (inside : Digits (fraction.getD [])) :
    Fraction (Spelling.fractionText fraction ++ rest) fraction rest := by
  cases fraction with
  | none => exact .none rest
  | some digits => exact .point digits rest inside

theorem power_sign (power : Int) (rest : List Char) :
    Sign (((if 0 < power then ['+'] else []) ++ intDigits power) ++ rest) (decide (power < 0))
      (natDigits power.natAbs ++ rest) := by
  by_cases positive : 0 < power
  · have notNegative : ¬power < 0 := by omega
    rw [if_pos positive, intDigits, if_neg notNegative, decide_eq_false notNegative]
    exact .plus _
  · rw [if_neg positive]
    exact int_digits_sign power rest

theorem printed_power (power : Option Int) (rest : List Char) :
    Exponent (Spelling.powerText power ++ rest) power rest := by
  cases power with
  | none => exact .none rest
  | some power =>
      have written := Exponent.power 'e' _ (natDigits power.natAbs) rest _ (.inl rfl) (power_sign power rest)
        (Number.nat_digits_some _) (Number.nat_digits_digit _)
      rw [int_digits_value] at written
      exact written

theorem printed_real (x : Number.Finite Number.double) (rest : List Char) :
    Numerical (Layout.dataDouble.finite x ++ rest) (.real x) rest := by
  obtain ⟨s, written, proper, read⟩ := Number.data_double_written x
  have text : Layout.dataDouble.finite x ++ rest =
      (if x.negative then ['-'] else []) ++
        (s.whole ++ (Spelling.fractionText s.fraction ++ (Spelling.powerText s.power ++ rest))) := by
    simp only [written, Spelling.text, List.append_assoc]
  have sign : ∀ after : List Char, Sign ((if x.negative then ['-'] else []) ++ after) x.negative after := by
    intro after
    cases x.negative with
    | false => exact .none after
    | true => exact .minus after
  rw [text]
  refine .real _ s.whole _ _ rest x.negative s.fraction s.power x (sign _) proper.whole
    (printed_fraction s.fraction _ proper.fraction) (printed_power s.power rest) (.inl proper.some_) ?_ read
  exact fun short => proper.marked.elim (fun h => h short.1) (fun h => h short.2.1)

theorem letter_body (c : Char) (text chars rest : List Char) (plain : c ≠ 'u') (body : Body '"' text chars rest) :
    Body '"' ('\\' :: c :: text) (escaped c :: chars) rest :=
  .escape (escaped c) _ text chars rest (.letter c text plain) body

theorem control_value : ∀ n < 0x20,
    Text.hexValue? ['0', '0', Document.hexDigit (n / 16), Document.hexDigit (n % 16)] = some n := by
  decide

theorem control_no_surrogate (n : Nat) (control : n < 0x20) :
    Text.isHighSurrogate n = false ∧ Text.isLowSurrogate n = false := by
  simp only [Text.isHighSurrogate, Text.isLowSurrogate, Bool.and_eq_false_iff, decide_eq_false_iff_not]
  omega

theorem control_body (c : Char) (text chars rest : List Char) (control : c.toNat < 0x20) (body : Body '"' text chars rest) :
    Body '"' ('\\' :: 'u' :: '0' :: '0' :: Document.hexDigit (c.toNat / 16) :: Document.hexDigit (c.toNat % 16) :: text)
      (c :: chars) rest := by
  have unit := CodeUnit.digits _ c.toNat text rfl (control_value c.toNat control)
  obtain ⟨notHigh, notLow⟩ := control_no_surrogate c.toNat control
  have escape := Escape.unicode _ text c.toNat unit notHigh notLow
  rw [Char.ofNat_toNat] at escape
  exact .escape c _ text chars rest escape body

theorem printed_char (c : Char) (text chars rest : List Char) (body : Body '"' text chars rest) :
    Body '"' (Document.escapeChar c ++ text) (c :: chars) rest := by
  unfold Document.escapeChar
  split
  · next same =>
      subst same
      exact letter_body '"' text chars rest (by decide) body
  next noQuote =>
  split
  · next same =>
      subst same
      exact letter_body '\\' text chars rest (by decide) body
  next noBackslash =>
  split
  · next same =>
      subst same
      exact letter_body 'n' text chars rest (by decide) body
  next noLine =>
  split
  · next same =>
      subst same
      exact letter_body 'r' text chars rest (by decide) body
  next noReturn =>
  split
  · next same =>
      subst same
      exact letter_body 't' text chars rest (by decide) body
  split
  · next same =>
      subst same
      exact letter_body 'b' text chars rest (by decide) body
  split
  · next same =>
      subst same
      exact letter_body 'f' text chars rest (by decide) body
  split
  · next control => exact control_body c text chars rest control body
  · exact .plain c text chars rest noQuote noLine noReturn noBackslash body

theorem printed_body (chars rest : List Char) : Body '"' (chars.flatMap Document.escapeChar ++ '"' :: rest) chars rest := by
  induction chars with
  | nil => exact .close rest
  | cons c chars ih =>
      rw [List.flatMap_cons, List.append_assoc]
      exact printed_char c _ chars rest ih

theorem printed_text (value : String) (rest : List Char) : Quoted (Document.quoted value ++ rest) value rest := by
  have quoted := Quoted.mk '"' _ value.toList rest (.inl rfl) (printed_body value.toList rest)
  rw [String.ofList_toList] at quoted
  simp only [Document.quoted, Document.quoteChars, List.cons_append, List.append_assoc, List.nil_append]
  exact quoted

end ShaderKnobs.Literal
