import ShaderKnobs.Json.Decode
import ShaderKnobs.Json.Document
import ShaderKnobs.Proofs.Literal.Numerical
import ShaderKnobs.Proofs.Literal.Printed

set_option autoImplicit false

namespace ShaderKnobs

namespace Piece

-- A character as it is written: by its code if it is a control without an escape of its own.
def written (c : Char) : Piece :=
  if c.toNat < 0x20 ∧ c ∉ ['\n', '\r', '\t', '\x08', '\x0c'] then .unit c.toNat else .char c

def spelled (text : String) : List Piece := text.toList.map written

theorem unit_chars (n : Nat) (notHigh : Text.isHighSurrogate n = false) (notLow : Text.isLowSurrogate n = false)
    (rest : List Piece) : chars? (.unit n :: rest) = (chars? rest).map (Char.ofNat n :: ·) := by
  rcases rest with _ | ⟨_ | _, rest⟩ <;> simp [chars?, notHigh, notLow]

theorem spelled_text (text : String) : text? (spelled text) = some text := by
  have chars : ∀ chars : List Char, chars? (chars.map written) = some chars := by
    intro chars
    induction chars with
    | nil => rfl
    | cons c chars ih =>
        rw [List.map_cons, written]
        split
        · next control =>
            obtain ⟨notHigh, notLow⟩ := Literal.control_no_surrogate c.toNat control.1
            rw [unit_chars c.toNat notHigh notLow, ih, Option.map_some, Char.ofNat_toNat]
        · rw [chars?, ih, Option.map_some]
  rw [text?, spelled, chars, Option.map_some, String.ofList_toList]

end Piece

namespace Raw

open Document (escapeChar hexDigit quoted)
open Number (Layout Spelling natDigits intDigits ofDigits)
open Piece (spelled written)

theorem control_escape_read (c : Char) (rest : List Char) (control : c.toNat < 0x20) :
    readEscape? ('u' :: '0' :: '0' :: hexDigit (c.toNat / 16) :: hexDigit (c.toNat % 16) :: rest) =
      some (.unit c.toNat, rest) := by
  simp [readEscape?, readUnit?, Literal.control_value c.toNat control]

theorem char_read (fuel : Nat) (done : List Piece) (c : Char) (rest : List Char) :
    readQuoted? (fuel + 1) done (escapeChar c ++ rest) = readQuoted? fuel (written c :: done) rest := by
  unfold escapeChar
  split_ifs with quote backslash line carriage tab back feed control
  · rw [quote]
    rfl
  · rw [backslash]
    rfl
  · rw [line]
    rfl
  · rw [carriage]
    rfl
  · rw [tab]
    rfl
  · rw [back]
    rfl
  · rw [feed]
    rfl
  · have byCode : written c = .unit c.toNat := if_pos ⟨control, by simp [line, carriage, tab, back, feed]⟩
    simp only [List.cons_append, List.nil_append]
    rw [readQuoted?, if_neg (by decide), if_pos rfl, control_escape_read c rest control, byCode]
    rfl
  · have plain : written c = .char c := if_neg fun byCode => control byCode.1
    rw [List.singleton_append, readQuoted?, if_neg quote, if_neg backslash, if_neg control, plain]

theorem body_read (chars : List Char) (rest : List Char) (fuel : Nat) (done : List Piece) (enough : chars.length < fuel) :
    readQuoted? fuel done (chars.flatMap escapeChar ++ '"' :: rest) = some (done.reverse ++ chars.map written, rest) := by
  induction chars generalizing fuel done with
  | nil =>
      obtain ⟨fuel, rfl⟩ := Nat.exists_eq_add_one_of_ne_zero (Nat.ne_zero_of_lt enough)
      rw [List.flatMap_nil, List.nil_append, readQuoted?, if_pos rfl, List.map_nil, List.append_nil]
  | cons c chars ih =>
      obtain ⟨fuel, rfl⟩ := Nat.exists_eq_add_one_of_ne_zero (Nat.ne_zero_of_lt enough)
      rw [List.flatMap_cons, List.append_assoc, char_read, ih fuel _ (Nat.lt_of_succ_lt_succ enough),
        List.reverse_cons, List.append_assoc, List.singleton_append, List.map_cons]

theorem escaped_length (chars : List Char) : chars.length ≤ (chars.flatMap escapeChar).length := by
  induction chars with
  | nil => exact Nat.le_refl _
  | cons c chars ih =>
      have some_ : 0 < (escapeChar c).length := by
        unfold escapeChar
        split_ifs <;> simp
      rw [List.flatMap_cons, List.length_append, List.length_cons]
      omega

theorem text_read (value : String) (rest : List Char) :
    ∃ body, quoted value ++ rest = '"' :: body ∧ readText? body = some (spelled value, rest) := by
  refine ⟨value.toList.flatMap escapeChar ++ '"' :: rest, by simp [quoted, Document.quoteChars], ?_⟩
  have enough := escaped_length value.toList
  rw [readText?, body_read value.toList rest _ [] (by rw [List.length_append, List.length_cons]; omega)]
  rfl

-- What may follow a number without lengthening it.
def Stops (rest : List Char) : Prop :=
  ∀ c, rest.head? = some c → c.isDigit = false ∧ c ≠ '.' ∧ c ≠ 'e' ∧ c ≠ 'E'

theorem whole_read (digits rest : List Char) (some_ : digits ≠ []) (inside : ∀ c ∈ digits, c.isDigit = true)
    (leads : Spelling.Leads digits) (ends : ∀ c, rest.head? = some c → c.isDigit = false) :
    readWhole? (digits ++ rest) = some (digits, rest) := by
  have span := Literal.digits_span digits rest inside ends
  rcases leads with rfl | other
  · rfl
  · cases digits with
    | nil => exact absurd rfl some_
    | cons c digits =>
        rw [List.cons_append] at span ⊢
        rw [readWhole?, span]
        rintro tail same
        exact other (congrArg some (List.cons.inj same).1)

theorem power_halts (power : Option Int) (rest : List Char) (stops : Stops rest) (c : Char)
    (head : (Spelling.powerText power ++ rest).head? = some c) : c.isDigit = false ∧ c ≠ '.' := by
  cases power with
  | none => exact ⟨(stops c head).1, (stops c head).2.1⟩
  | some power =>
      obtain rfl := Option.some.inj head
      decide

theorem fraction_read (fraction : Option (List Char)) (rest : List Char)
    (inside : ∀ c ∈ fraction.getD [], c.isDigit = true) (pointed : fraction ≠ some [])
    (ends : ∀ c, rest.head? = some c → c.isDigit = false ∧ c ≠ '.') :
    readFraction? (Spelling.fractionText fraction ++ rest) = some (fraction, rest) := by
  cases fraction with
  | none =>
      cases rest with
      | nil => rfl
      | cons c rest =>
          have other := (ends c rfl).2
          rw [Spelling.fractionText, List.nil_append, readFraction?]
          rintro tail same
          exact other (List.cons.inj same).1
  | some digits =>
      cases digits with
      | nil => exact absurd rfl pointed
      | cons c digits =>
          have span := Literal.digits_span (c :: digits) rest inside fun d head => (ends d head).1
          rw [Spelling.fractionText, List.cons_append, readFraction?, span]

theorem exponent_read (power : Option Int) (rest : List Char) (stops : Stops rest) :
    readExponent? (Spelling.powerText power ++ rest) = some (power, rest) := by
  cases power with
  | none =>
      cases rest with
      | nil => rfl
      | cons c rest =>
          have unmarked : ¬(c = 'e' ∨ c = 'E') := not_or.mpr (stops c rfl).2.2
          rw [Spelling.powerText, List.nil_append, readExponent?, if_neg unmarked]
  | some power =>
      obtain ⟨d, digits, shape⟩ := List.exists_cons_of_ne_nil (Number.nat_digits_some power.natAbs)
      have inside := Number.nat_digits_digit power.natAbs
      have sign := Literal.sign_read _ _ _ (Literal.power_sign power rest) fun c head => by
        rw [shape] at head inside
        obtain rfl := Option.some.inj head
        exact Literal.digit_unsigned d (inside d List.mem_cons_self)
      have span := Literal.digits_span _ rest inside fun c head => (stops c head).1
      have value := Literal.int_digits_value power
      rw [shape] at sign span value
      rw [Spelling.powerText, List.cons_append, readExponent?, if_pos (.inl rfl), sign]
      dsimp only
      rw [span]
      simpa [Literal.signed] using value

theorem number_read (negative : Bool) (s : Spelling) (legible : s.Legible) (rest : List Char) (stops : Stops rest) :
    readNumber? negative (s.text ++ rest) =
      some (.number ⟨negative, s.whole, s.fraction.getD [], s.power.getD 0⟩ (s.fraction.isNone && s.power.isNone),
        rest) := by
  have halts := power_halts s.power rest stops
  have ends : ∀ c, (Spelling.fractionText s.fraction ++ (Spelling.powerText s.power ++ rest)).head? = some c →
      c.isDigit = false := by
    intro c head
    cases point : s.fraction with
    | none =>
        rw [point] at head
        exact (halts c head).1
    | some digits =>
        rw [point] at head
        obtain rfl := Option.some.inj head
        rfl
  have whole := whole_read s.whole _ legible.some_ legible.whole legible.leads ends
  have fraction := fraction_read s.fraction _ legible.fraction legible.pointed halts
  have power := exponent_read s.power rest stops
  simp only [Spelling.text, List.append_assoc, readNumber?, whole, fraction, power, Option.bind_eq_bind,
    Option.bind_some]

theorem digit_scalar (c : Char) (rest : List Char) (digit : c.isDigit = true) :
    readScalar? (c :: rest) = readNumber? false (c :: rest) := by
  have apart : ∀ d : Char, d.isDigit = false → ∀ front back, c :: front ≠ d :: back := by
    intro d other front back same
    rw [(List.cons.inj same).1, other] at digit
    cases digit
  unfold readScalar?
  split <;> first | rfl | exact absurd ‹_› (apart _ rfl _ _)

theorem signed_read (negative : Bool) (s : Spelling) (legible : s.Legible) (rest : List Char) :
    readScalar? ((if negative then ['-'] else []) ++ s.text ++ rest) = readNumber? negative (s.text ++ rest) := by
  cases negative with
  | true => rfl
  | false =>
      obtain ⟨d, digits, shape⟩ := List.exists_cons_of_ne_nil legible.some_
      have digit := legible.whole d (shape ▸ List.mem_cons_self)
      have front : s.text ++ rest = d :: (digits ++ (Spelling.fractionText s.fraction ++
          Spelling.powerText s.power) ++ rest) := by
        rw [Spelling.text, shape]
        rfl
      rw [if_neg Bool.false_ne_true, List.nil_append, front]
      exact digit_scalar d _ digit

theorem whole_number_read (n : Whole) :
    ∃ numeral, (∀ rest, Stops rest → readScalar? (intDigits n.value ++ rest) = some (.number numeral true, rest)) ∧
      ∀ real, number? real numeral true = some (.whole n) := by
  let m := n.value.natAbs
  let s : Spelling := ⟨natDigits m, none, none⟩
  have leads : Spelling.Leads (natDigits m) := by
    by_cases zero : m = 0
    · rw [zero]
      exact .inl rfl
    · exact .inr (Number.nat_digits_lead m zero)
  have legible : s.Legible := ⟨Number.nat_digits_some m, Number.nat_digits_digit m, leads, by simp [s], by simp [s]⟩
  have text : intDigits n.value = (if decide (n.value < 0) then ['-'] else []) ++ s.text := by
    have plain : s.text = natDigits m := List.append_nil _
    rw [plain, intDigits]
    by_cases negative : n.value < 0 <;> simp [negative, m]
  refine ⟨⟨decide (n.value < 0), natDigits m, [], 0⟩, fun rest stops => ?_, fun real => ?_⟩
  · rw [text, signed_read _ s legible rest, number_read _ s legible rest stops]
    rfl
  · have bounded := n.bounded
    have worth : ofDigits (natDigits m) = m := Number.of_nat_digits m
    have data : Json.ofInt? n.value = some (.whole n) := (Literal.of_int_some n.value _).mpr ⟨n, rfl, rfl⟩
    simp only [number?, worth]
    by_cases negative : n.value < 0
    · have same : -(m : Int) = n.value := by omega
      rw [if_neg (by simp [negative]), if_pos ⟨trivial, by simpa using negative, by omega, by omega⟩, same, data]
    · have same : (m : Int) = n.value := by omega
      rw [if_pos ⟨trivial, by simpa using negative, by omega⟩, same, data]

theorem real_number_read (x : Number.Finite Number.double) :
    ∃ numeral, (∀ rest, Stops rest → readScalar? (Layout.dataDouble.finite x ++ rest) = some (.number numeral false, rest)) ∧
      RealReader.nearest numeral = some x := by
  obtain ⟨s, written, proper, read⟩ := Number.data_double_written x
  have long : (s.fraction.isNone && s.power.isNone) = false := by
    rw [Bool.and_eq_false_iff, Option.isNone_eq_false_iff, Option.isNone_eq_false_iff, Option.isSome_iff_ne_none,
      Option.isSome_iff_ne_none]
    exact proper.marked
  refine ⟨⟨x.negative, s.whole, s.fraction.getD [], s.power.getD 0⟩, fun rest stops => ?_, ?_⟩
  · rw [written, signed_read _ s proper.toLegible rest, number_read _ s proper.toLegible rest stops, long]
  · rw [RealReader.nearest, read]

end Raw

end ShaderKnobs
