import Mathlib.Data.List.Forall2
import ShaderKnobs.Json.Document
import ShaderKnobs.Proofs.Literal.Exact

set_option autoImplicit false

namespace ShaderKnobs.Literal

-- What may stand behind `\u` for a character: its code in four hexadecimal digits, or the codes of a pair
-- of surrogates.
inductive Writes (c : Char) : List Char → Prop where
  | unit (digits : List Char) : digits.length = 4 → Text.hexValue? digits = some c.toNat → Writes c digits
  | pair (digits digits' : List Char) (high low : Nat) : digits.length = 4 → Text.hexValue? digits = some high →
      digits'.length = 4 → Text.hexValue? digits' = some low → 0xd800 ≤ high ∧ high < 0xdc00 →
      0xdc00 ≤ low ∧ low < 0xe000 → c.toNat = 0x10000 + (high - 0xd800) * 0x400 + (low - 0xdc00) →
      Writes c (digits ++ '\\' :: 'u' :: digits')

-- A plus sign and three digits are read as four digits are.
inductive Signed (c : Char) : List Char → Prop where
  | mk (digits : List Char) : digits.length = 3 → Text.hexValue? digits = some c.toNat → Signed c ('+' :: digits)

theorem hex_digit_below (c : Char) (digit : Nat) (found : Text.hexDigit? c = some digit) : digit < 16 := by
  have nat : ∀ a b : Char, a ≤ b → a.toNat ≤ b.toNat := fun _ _ le => le
  simp only [Text.hexDigit?] at found
  split at found
  · next range =>
      obtain rfl := Option.some.inj found
      have last := nat c '9' range.2
      have : '9'.toNat = '0'.toNat + 9 := rfl
      omega
  · split at found
    · next range =>
        obtain rfl := Option.some.inj found
        have last := nat c 'f' range.2
        have : 'f'.toNat = 'a'.toNat + 5 := rfl
        omega
    · split at found
      · next range =>
          obtain rfl := Option.some.inj found
          have last := nat c 'F' range.2
          have : 'F'.toNat = 'A'.toNat + 5 := rfl
          omega
      · cases found

theorem hex_value_below_from (digits : List Char) (start code : Nat)
    (value : digits.foldlM (fun n c => (Text.hexDigit? c).map (16 * n + ·)) start = some code) :
    code < (start + 1) * 16 ^ digits.length := by
  induction digits generalizing start with
  | nil =>
      obtain rfl := Option.some.inj value
      simp
  | cons c rest ih =>
      rw [List.foldlM_cons, Option.bind_eq_bind, Option.bind_eq_some_iff] at value
      obtain ⟨next, first, later⟩ := value
      obtain ⟨digit, found, rfl⟩ := Option.map_eq_some_iff.mp first
      have small := hex_digit_below c digit found
      have bound := ih (16 * start + digit) later
      have step : 16 * start + digit + 1 ≤ (start + 1) * 16 := by omega
      calc
        code < (16 * start + digit + 1) * 16 ^ rest.length := bound
        _ ≤ (start + 1) * 16 * 16 ^ rest.length := Nat.mul_le_mul_right _ step
        _ = (start + 1) * 16 ^ (c :: rest).length := by
          rw [List.length_cons, Nat.pow_succ', Nat.mul_assoc]

theorem hex_value_below (digits : List Char) (code : Nat) (value : Text.hexValue? digits = some code) :
    code < 16 ^ digits.length := by
  have bound := hex_value_below_from digits 0 code value
  rwa [Nat.zero_add, Nat.one_mul] at bound

theorem code_unit_below (text : List Char) (code : Nat) (rest : List Char) (unit : CodeUnit text code rest) :
    code < 0x10000 := by
  cases unit with
  | digits digits _ _ four value =>
      have bound := hex_value_below digits code value
      rwa [four] at bound
  | plus digits _ _ three value =>
      have bound := hex_value_below digits code value
      rw [three] at bound
      exact Nat.lt_trans bound (by decide)

theorem char_not_surrogate (c : Char) : Text.isHighSurrogate c.toNat = false ∧ Text.isLowSurrogate c.toNat = false := by
  have valid : c.toNat < 0xd800 ∨ 0xdfff < c.toNat ∧ c.toNat < 0x110000 := c.valid
  simp only [Text.isHighSurrogate, Text.isLowSurrogate, Bool.and_eq_false_iff, decide_eq_false_iff_not]
  omega

theorem of_nat_valid (n : Nat) (valid : n.isValidChar) : (Char.ofNat n).toNat = n := by
  rw [Char.ofNat, dif_pos valid]
  rfl

theorem of_nat_code (code : Nat) (small : code < 0x10000) (notHigh : Text.isHighSurrogate code = false)
    (notLow : Text.isLowSurrogate code = false) : (Char.ofNat code).toNat = code := by
  simp only [Text.isHighSurrogate, Text.isLowSurrogate, Bool.and_eq_false_iff, decide_eq_false_iff_not] at notHigh notLow
  have valid : code.isValidChar := by
    simp only [Nat.isValidChar]
    omega
  exact of_nat_valid code valid

theorem join_code (high low : Nat) (isHigh : 0xd800 ≤ high ∧ high < 0xdc00) (isLow : 0xdc00 ≤ low ∧ low < 0xe000) :
    (Text.joinSurrogates high low).toNat = 0x10000 + (high - 0xd800) * 0x400 + (low - 0xdc00) := by
  have valid : (0x10000 + (high - 0xd800) * 0x400 + (low - 0xdc00)).isValidChar := by
    simp only [Nat.isValidChar]
    omega
  exact of_nat_valid _ valid

theorem high_iff (n : Nat) : Text.isHighSurrogate n = true ↔ 0xd800 ≤ n ∧ n < 0xdc00 := by
  simp [Text.isHighSurrogate]

theorem low_iff (n : Nat) : Text.isLowSurrogate n = true ↔ 0xdc00 ≤ n ∧ n < 0xe000 := by
  simp [Text.isLowSurrogate]

theorem surrogate_digits (text : List Char) (code : Nat) (rest : List Char) (unit : CodeUnit text code rest)
    (large : 0xd800 ≤ code) : ∃ digits, digits.length = 4 ∧ Text.hexValue? digits = some code ∧ text = digits ++ rest := by
  cases unit with
  | digits digits _ _ four value => exact ⟨digits, four, value, rfl⟩
  | plus digits _ _ three value =>
      have bound := hex_value_below digits code value
      rw [three] at bound
      omega

theorem escape_written (text : List Char) (c : Char) (rest : List Char) :
    Escape ('u' :: text) c rest ↔ ∃ form, (Writes c form ∨ Signed c form) ∧ text = form ++ rest := by
  constructor
  · intro escape
    cases escape with
    | letter _ _ other => exact absurd rfl other
    | unicode text _ code unit notHigh notLow =>
        have same := of_nat_code code (code_unit_below text code rest unit) notHigh notLow
        cases unit with
        | digits digits _ _ four value => exact ⟨digits, .inl (.unit digits four (same.symm ▸ value)), rfl⟩
        | plus digits _ _ three value =>
            exact ⟨'+' :: digits, .inr (.mk digits three (same.symm ▸ value)), rfl⟩
    | pair _ between _ high low first isHigh second isLow =>
        have highRange := (high_iff high).mp isHigh
        have lowRange := (low_iff low).mp isLow
        obtain ⟨digits, four, value, rfl⟩ := surrogate_digits _ high _ first highRange.1
        obtain ⟨digits', four', value', rfl⟩ := surrogate_digits _ low rest second (by omega)
        refine ⟨digits ++ '\\' :: 'u' :: digits', .inl (.pair digits digits' high low four value four' value' highRange
          lowRange (join_code high low highRange lowRange)), ?_⟩
        rw [List.append_assoc, List.cons_append, List.cons_append]
  · rintro ⟨form, written | signed, rfl⟩
    · cases written with
      | unit _ four value =>
          obtain ⟨notHigh, notLow⟩ := char_not_surrogate c
          have escape := Escape.unicode (form ++ rest) rest c.toNat (.digits form c.toNat rest four value) notHigh notLow
          rwa [Char.ofNat_toNat] at escape
      | pair digits digits' high low four value four' value' highRange lowRange same =>
          have joined : Text.joinSurrogates high low = c :=
            Char.toNat_inj.mp ((join_code high low highRange lowRange).trans same.symm)
          have first := CodeUnit.digits digits high ('\\' :: 'u' :: (digits' ++ rest)) four value
          have second := CodeUnit.digits digits' low rest four' value'
          rw [List.append_assoc, List.cons_append, List.cons_append, ← joined]
          exact .pair _ (digits' ++ rest) rest high low first ((high_iff high).mpr highRange) second
            ((low_iff low).mpr lowRange)
    · cases signed with
      | mk digits three value =>
          obtain ⟨notHigh, notLow⟩ := char_not_surrogate c
          have escape := Escape.unicode ('+' :: (digits ++ rest)) rest c.toNat (.plus digits c.toNat rest three value)
            notHigh notLow
          rwa [Char.ofNat_toNat] at escape

theorem scan_unicode_exact (text : List Char) (c : Char) (rest : List Char) :
    scanUnicode text = .ok (c, rest) ↔ ∃ form, (Writes c form ∨ Signed c form) ∧ text = form ++ rest := by
  rw [← escape_written]
  exact ⟨scanned_escape ('u' :: text) c rest, scan_escape ('u' :: text) c rest⟩

def codeDigits (n : Nat) : List Char :=
  [Document.hexDigit (n / 4096), Document.hexDigit (n / 256 % 16), Document.hexDigit (n / 16 % 16),
    Document.hexDigit (n % 16)]

theorem code_digits_value (n : Nat) (small : n < 0x10000) : Text.hexValue? (codeDigits n) = some n := by
  have digit : ∀ d < 16, Text.hexDigit? (Document.hexDigit d) = some d := by decide
  have first := digit (n / 4096) (by omega)
  have second := digit (n / 256 % 16) (Nat.mod_lt _ (by decide))
  have third := digit (n / 16 % 16) (Nat.mod_lt _ (by decide))
  have fourth := digit (n % 16) (Nat.mod_lt _ (by decide))
  simp only [Text.hexValue?, codeDigits, List.foldlM_cons, List.foldlM_nil, first, second, third, fourth, Option.map_some,
    Option.bind_eq_bind, Option.bind_some]
  refine congrArg some ?_
  omega

theorem writable (c : Char) : ∃ form, Writes c form := by
  have valid : c.toNat < 0xd800 ∨ 0xdfff < c.toNat ∧ c.toNat < 0x110000 := c.valid
  by_cases small : c.toNat < 0x10000
  · exact ⟨codeDigits c.toNat, .unit _ rfl (code_digits_value c.toNat small)⟩
  · refine ⟨_, .pair (codeDigits (0xd800 + (c.toNat - 0x10000) / 0x400)) (codeDigits (0xdc00 + (c.toNat - 0x10000) % 0x400))
      _ _ rfl (code_digits_value _ ?_) rfl (code_digits_value _ ?_) ?_ ?_ ?_⟩ <;> omega

def codes (forms : List (List Char)) : List Char := forms.flatMap fun form => '\\' :: 'u' :: form

theorem codes_body (quote : Char) (chars : List Char) (forms : List (List Char)) (rest : List Char)
    (written : List.Forall₂ Writes chars forms) : Body quote (codes forms ++ quote :: rest) chars rest := by
  induction written with
  | nil => exact .close rest
  | @cons c form chars forms first _ ih =>
      have escape := (escape_written (form ++ (codes forms ++ quote :: rest)) c _).mpr ⟨form, .inl first, rfl⟩
      have body := Body.escape c _ _ chars rest escape ih
      simpa only [codes, List.flatMap_cons, List.cons_append, List.append_assoc] using body

theorem codes_parsed (quote : Char) (isQuote : quote = '"' ∨ quote = '\'') (chars : List Char) (forms : List (List Char))
    (written : List.Forall₂ Writes chars forms) :
    parse (String.ofList (quote :: (codes forms ++ [quote]))) = .ok (.text (String.ofList chars)) := by
  have quoted := Quoted.mk quote _ chars [] isQuote (codes_body quote chars forms [] written)
  rw [parse_exact, String.toList_ofList]
  exact ⟨_, [], .none _, .text _ _ [] quoted, .none []⟩

-- A string up to some place inside it: the characters that stand before this place, and the text from it on.
inductive Partway (quote : Char) : List Char → List Char → List Char → Prop where
  | start (text : List Char) : Partway quote text [] text
  | plain (c : Char) (text chars rest : List Char) : c ≠ quote → c ≠ '\n' → c ≠ '\r' → c ≠ '\\' →
      Partway quote text chars rest → Partway quote (c :: text) (c :: chars) rest
  | escape (c : Char) (text next chars rest : List Char) : Escape text c next → Partway quote next chars rest →
      Partway quote ('\\' :: text) (c :: chars) rest

theorem escape_unique (text : List Char) (c d : Char) (rest rest' : List Char) (first : Escape text c rest)
    (second : Escape text d rest') : c = d ∧ rest = rest' :=
  Prod.mk.inj (Except.ok.inj ((scan_escape text c rest first).symm.trans (scan_escape text d rest' second)))

theorem partway_body (quote : Char) (isQuote : quote = '"' ∨ quote = '\'') (text chars rest : List Char)
    (way : Partway quote text chars rest) (all left : List Char) :
    Body quote text all left ↔ ∃ tail, Body quote rest tail left ∧ all = chars ++ tail := by
  induction way generalizing all with
  | start text => simp
  | plain c text chars rest open_ line carriage backslash _ ih =>
      constructor
      · intro body
        cases body with
        | close _ => exact absurd rfl open_
        | plain _ _ more _ _ _ _ _ body =>
            obtain ⟨tail, later, rfl⟩ := (ih more).mp body
            exact ⟨tail, later, rfl⟩
        | escape _ _ _ _ _ _ _ => exact absurd rfl backslash
      · rintro ⟨tail, body, rfl⟩
        exact .plain c text _ left open_ line carriage backslash ((ih _).mpr ⟨tail, body, rfl⟩)
  | escape c text next chars rest escape _ ih =>
      constructor
      · intro body
        cases body with
        | close _ => rcases isQuote with same | same <;> cases same
        | plain _ _ _ _ _ _ _ backslash _ => exact absurd rfl backslash
        | escape d _ next' more _ escape' body =>
            obtain ⟨rfl, rfl⟩ := escape_unique text c d next next' escape escape'
            obtain ⟨tail, later, rfl⟩ := (ih more).mp body
            exact ⟨tail, later, rfl⟩
      · rintro ⟨tail, body, rfl⟩
        exact .escape c text next _ left escape ((ih _).mpr ⟨tail, body, rfl⟩)

theorem scan_string_exact (quote : Char) (isQuote : quote = '"' ∨ quote = '\'') (text : List Char) (value : String)
    (rest : List Char) :
    scanString quote text = .ok (value, rest) ↔ ∃ chars, Body quote text chars rest ∧ value = String.ofList chars := by
  constructor
  · intro scanned
    cases scanned_quoted quote text value rest isQuote scanned with
    | mk _ _ chars _ _ body => exact ⟨chars, body, rfl⟩
  · rintro ⟨chars, body, rfl⟩
    exact scan_quoted quote text _ rest (.mk quote text chars rest isQuote body)

theorem scan_string_escape (quote : Char) (isQuote : quote = '"' ∨ quote = '\'') (text chars after : List Char)
    (way : Partway quote text chars ('\\' :: 'u' :: after)) (value : String) (left : List Char) :
    scanString quote text = .ok (value, left) ↔ ∃ c form next tail, (Writes c form ∨ Signed c form) ∧
      after = form ++ next ∧ Body quote next tail left ∧ value = String.ofList (chars ++ c :: tail) := by
  rw [scan_string_exact quote isQuote]
  constructor
  · rintro ⟨all, body, rfl⟩
    obtain ⟨tail, later, rfl⟩ := (partway_body quote isQuote text chars _ way all left).mp body
    cases later with
    | close _ => rcases isQuote with same | same <;> cases same
    | plain _ _ _ _ _ _ _ backslash _ => exact absurd rfl backslash
    | escape c _ next tail _ escape later =>
        obtain ⟨form, accepted, split_⟩ := (escape_written after c next).mp escape
        exact ⟨c, form, next, tail, accepted, split_, later, rfl⟩
  · rintro ⟨c, form, next, tail, accepted, rfl, body, rfl⟩
    have escape := (escape_written (form ++ next) c next).mpr ⟨form, accepted, rfl⟩
    have whole := Body.escape c _ next tail left escape body
    exact ⟨_, (partway_body quote isQuote text chars _ way _ left).mpr ⟨c :: tail, whole, rfl⟩, rfl⟩

end ShaderKnobs.Literal
