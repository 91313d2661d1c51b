import ShaderKnobs.Proofs.Literal.Gap
import ShaderKnobs.Proofs.Literal.Quoted
import ShaderKnobs.Proofs.Text.Span

set_option autoImplicit false

namespace ShaderKnobs.Literal

open Number (Numeral ofDigits readSign spanDigits)

theorem separator_not_ident (c : Char) (separator : isSeparator c = true) : isIdentRest c = false ∧ c ≠ '.' := by
  simp only [isSeparator, Text.isAsciiBlank, Bool.or_eq_true, beq_iff_eq, List.contains_iff_mem, List.mem_cons,
    List.not_mem_nil, or_false] at separator
  rcases separator with ((((rfl | rfl) | rfl) | rfl) | rfl) | rfl | rfl | rfl | rfl | rfl <;> decide

theorem digit_ident (c : Char) (digit : c.isDigit = true) : isIdentRest c = true := by
  simp [isIdentRest, Char.isAlphanum, digit]

theorem digit_iff (c : Char) : c.isDigit = true ↔ '0' ≤ c ∧ c ≤ '9' :=
  Bool.and_eq_true_iff.trans (and_congr decide_eq_true_iff decide_eq_true_iff)

theorem lower_iff (c : Char) : c.isLower = true ↔ 'a' ≤ c ∧ c ≤ 'z' :=
  Bool.and_eq_true_iff.trans (and_congr decide_eq_true_iff decide_eq_true_iff)

theorem upper_iff (c : Char) : c.isUpper = true ↔ 'A' ≤ c ∧ c ≤ 'Z' := decide_eq_true_iff

theorem alpha_iff (c : Char) : c.isAlpha = true ↔ c.isUpper = true ∨ c.isLower = true := Bool.or_eq_true_iff

theorem alpha_ident (c : Char) (alpha : c.isAlpha = true) : isIdentRest c = true := by
  simp [isIdentRest, Char.isAlphanum, alpha]

theorem hex_digit_ident (c : Char) (digit : isHexDigit c = true) : isIdentRest c = true := by
  simp only [isHexDigit, Text.hexDigit?] at digit
  split at digit
  · next range => exact digit_ident c ((digit_iff c).mpr range)
  split at digit
  · next range =>
      have lower : c ≤ 'z' := Nat.le_trans range.2 (by decide)
      exact alpha_ident c ((alpha_iff c).mpr (.inr ((lower_iff c).mpr ⟨range.1, lower⟩)))
  split at digit
  · next range =>
      have upper : c ≤ 'Z' := Nat.le_trans range.2 (by decide)
      exact alpha_ident c ((alpha_iff c).mpr (.inl ((upper_iff c).mpr ⟨range.1, upper⟩)))
  · cases digit

theorem hex_value_total (digits : List Char) (hex : ∀ c ∈ digits, isHexDigit c = true) (start : Nat) :
    ∃ value, digits.foldlM (fun n c => (Text.hexDigit? c).map (16 * n + ·)) start = some value := by
  induction digits generalizing start with
  | nil => exact ⟨start, rfl⟩
  | cons c rest ih =>
      obtain ⟨digit, found⟩ := Option.isSome_iff_exists.mp (hex c List.mem_cons_self)
      obtain ⟨value, later⟩ := ih (fun d member => hex d (List.mem_cons_of_mem _ member)) (16 * start + digit)
      refine ⟨value, ?_⟩
      rw [List.foldlM_cons, found]
      exact later

theorem of_int_some (n : Int) (data : Json) : Json.ofInt? n = some data ↔ ∃ w : Whole, data = .whole w ∧ w.value = n := by
  simp only [Json.ofInt?]
  constructor
  · intro made
    split at made
    · next fits => exact ⟨⟨n, fits⟩, (Option.some.inj made).symm, rfl⟩
    · cases made
  · rintro ⟨w, rfl, rfl⟩
    rw [dif_pos w.bounded]

theorem ended_number (start rest rest' : List Char) (data data' : Json)
    (ended : endNumber start rest data = .ok (data', rest')) : data' = data ∧ rest' = rest := by
  simp only [endNumber] at ended
  split at ended
  · split at ended
    · cases ended
    · obtain ⟨rfl, rfl⟩ := Prod.mk.inj (Except.ok.inj ended)
      exact ⟨rfl, rfl⟩
  · obtain ⟨rfl, rfl⟩ := Prod.mk.inj (Except.ok.inj ended)
    exact ⟨rfl, rfl⟩

theorem end_number (start rest : List Char) (data : Json) (ends : Ends rest) :
    endNumber start rest data = .ok (data, rest) := by
  simp only [endNumber]
  cases rest with
  | nil => rfl
  | cons c rest =>
      have stop := (separator_not_ident c (ends c rfl)).1
      simp [stop]

theorem read_sign (text : List Char) : Sign text (readSign text).1 (readSign text).2 := by
  simp only [readSign]
  split
  · exact .minus _
  · exact .plus _
  · exact .none _

theorem sign_read (text : List Char) (negative : Bool) (after : List Char) (sign : Sign text negative after)
    (unsigned : ∀ c, after.head? = some c → c ≠ '-' ∧ c ≠ '+') : readSign text = (negative, after) := by
  cases sign with
  | plus _ => rfl
  | minus _ => rfl
  | none _ =>
      simp only [readSign]
      split
      · exact absurd rfl (unsigned '-' rfl).1
      · exact absurd rfl (unsigned '+' rfl).2
      · rfl

theorem span_fraction (text : List Char) : Fraction text (spanFraction text).1 (spanFraction text).2 := by
  simp only [spanFraction]
  split
  · next rest =>
      have parts := List.takeWhile_append_dropWhile (p := Char.isDigit) (l := rest)
      have point := Fraction.point _ (rest.dropWhile Char.isDigit) (Text.span_inside Char.isDigit rest)
      rw [parts] at point
      exact point
  · exact .none _

theorem scanned_exponent (text : List Char) (exponent : Option Int) (rest : List Char)
    (scanned : scanExponent text = .ok (exponent, rest)) : Exponent text exponent rest := by
  simp only [scanExponent] at scanned
  split at scanned
  · next mark after =>
      split at scanned
      · next isMark =>
          have sign := read_sign after
          generalize readSign after = signRead at *
          obtain ⟨negative, unsigned⟩ := signRead
          dsimp only at scanned sign
          have parts := List.takeWhile_append_dropWhile (p := Char.isDigit) (l := unsigned)
          have inside := Text.span_inside Char.isDigit unsigned
          simp only [spanDigits] at scanned
          generalize unsigned.takeWhile Char.isDigit = digits at *
          cases digits with
          | nil => cases scanned
          | cons d digits =>
              obtain ⟨rfl, rfl⟩ := Prod.mk.inj (Except.ok.inj scanned)
              rw [← parts] at sign
              exact .power mark after (d :: digits) _ negative isMark sign (List.cons_ne_nil d digits) inside
      · obtain ⟨rfl, rfl⟩ := Prod.mk.inj (Except.ok.inj scanned)
        exact .none _
  · obtain ⟨rfl, rfl⟩ := Prod.mk.inj (Except.ok.inj scanned)
    exact .none _

theorem digits_span (digits rest : List Char) (inside : Digits digits)
    (stop : ∀ c, rest.head? = some c → c.isDigit = false) : spanDigits (digits ++ rest) = (digits, rest) := by
  obtain ⟨front, back⟩ := Text.span_exact Char.isDigit digits rest inside stop
  rw [spanDigits, front, back]

theorem digit_unsigned (c : Char) (digit : c.isDigit = true) : c ≠ '-' ∧ c ≠ '+' := by
  constructor <;> rintro rfl <;> cases digit

-- What cannot follow a run of digits without lengthening it, or making it hexadecimal.
def Halts (text : List Char) : Prop :=
  ∀ c, text.head? = some c → c.isDigit = false ∧ c ≠ 'x' ∧ c ≠ 'X'

theorem ends_halts (rest : List Char) (ends : Ends rest) : Halts rest := by
  intro c head
  have plain := (separator_not_ident c (ends c head)).1
  refine ⟨?_, ?_, ?_⟩
  · cases digit : c.isDigit with
    | false => rfl
    | true =>
        rw [digit_ident c digit] at plain
        cases plain
  · rintro rfl
    cases plain
  · rintro rfl
    cases plain

theorem exponent_halts (text : List Char) (exponent : Option Int) (rest : List Char)
    (spelled : Exponent text exponent rest) (ends : Ends rest) : Halts text ∧ text.head? ≠ some '.' := by
  cases spelled with
  | none _ =>
      refine ⟨ends_halts text ends, fun head => ?_⟩
      exact (separator_not_ident '.' (ends '.' head)).2 rfl
  | power mark text digits rest negative isMark _ _ _ =>
      refine ⟨fun c head => ?_, fun head => ?_⟩
      · obtain rfl := Option.some.inj head
        rcases isMark with rfl | rfl <;> decide
      · obtain rfl := Option.some.inj head
        rcases isMark with same | same <;> cases same

theorem fraction_halts (text : List Char) (fraction : Option (List Char)) (next : List Char)
    (spelled : Fraction text fraction next) (halts : Halts next) : Halts text := by
  cases spelled with
  | none _ => exact halts
  | point digits _ _ =>
      intro c head
      obtain rfl := Option.some.inj head
      decide

theorem scan_exponent (text : List Char) (exponent : Option Int) (rest : List Char)
    (spelled : Exponent text exponent rest) (ends : Ends rest) : scanExponent text = .ok (exponent, rest) := by
  cases spelled with
  | none _ =>
      cases text with
      | nil => rfl
      | cons c text =>
          have plain := (separator_not_ident c (ends c rfl)).1
          have unmarked : ¬(c = 'e' ∨ c = 'E') := by
            rintro (rfl | rfl) <;> cases plain
          rw [scanExponent, if_neg unmarked]
  | power mark text digits rest negative isMark sign some_ inside =>
      cases digits with
      | nil => exact absurd rfl some_
      | cons d digits =>
          have unsigned := sign_read text negative _ sign fun c head => by
            obtain rfl := Option.some.inj head
            exact digit_unsigned d (inside d List.mem_cons_self)
          have span := digits_span (d :: digits) rest inside fun c head => (ends_halts rest ends c head).1
          rw [scanExponent, if_pos isMark, unsigned]
          dsimp only
          rw [span]
          rfl

theorem fraction_span (text : List Char) (fraction : Option (List Char)) (next : List Char)
    (spelled : Fraction text fraction next) (halts : Halts next) (point : next.head? ≠ some '.') :
    spanFraction text = (fraction, next) := by
  cases spelled with
  | none _ =>
      simp only [spanFraction]
      split
      · exact absurd rfl point
      · rfl
  | point digits _ inside =>
      rw [spanFraction, digits_span digits next inside fun c head => (halts c head).1]

def partsData? (negative : Bool) (whole : List Char) (fraction : Option (List Char)) (exponent : Option Int) :
    Option Json :=
  decimalData? ⟨negative, whole, fraction.getD [], exponent.getD 0⟩ (fraction.isNone && exponent.isNone)

theorem scan_decimal (start whole after next rest : List Char) (negative : Bool) (fraction : Option (List Char))
    (exponent : Option Int) (data : Json) (inside : Digits whole) (point : Fraction after fraction next)
    (power : Exponent next exponent rest) (some_ : whole ≠ [] ∨ fraction.getD [] ≠ []) (ends : Ends rest)
    (made : partsData? negative whole fraction exponent = some data) :
    scanDecimal start negative (whole ++ after) = .ok (data, rest) := by
  obtain ⟨halts, noPoint⟩ := exponent_halts next exponent rest power ends
  have front := digits_span whole after inside fun c head => (fraction_halts after fraction next point halts c head).1
  have blank : ¬(whole = [] ∧ fraction.getD [] = []) := fun both => some_.elim (fun h => h both.1) (fun h => h both.2)
  rw [scanDecimal, front]
  dsimp only
  rw [fraction_span after fraction next point halts noPoint]
  dsimp only
  rw [if_neg blank, scan_exponent next exponent rest power ends, ok_bind]
  dsimp only
  rw [partsData?] at made
  rw [end_number start rest .null ends, ok_bind, made]

theorem scanned_decimal (start text rest : List Char) (negative : Bool) (data : Json)
    (scanned : scanDecimal start negative text = .ok (data, rest)) :
    ∃ whole after next fraction exponent, text = whole ++ after ∧ Digits whole ∧ Fraction after fraction next ∧
      Exponent next exponent rest ∧ (whole ≠ [] ∨ fraction.getD [] ≠ []) ∧
      partsData? negative whole fraction exponent = some data := by
  have parts := List.takeWhile_append_dropWhile (p := Char.isDigit) (l := text)
  have inside := Text.span_inside Char.isDigit text
  have point := span_fraction (text.dropWhile Char.isDigit)
  unfold scanDecimal spanDigits at scanned
  dsimp only at scanned
  generalize text.takeWhile Char.isDigit = whole at *
  generalize text.dropWhile Char.isDigit = after at *
  generalize spanFraction after = span at *
  obtain ⟨fraction, next⟩ := span
  dsimp only at scanned point
  split at scanned
  · cases scanned
  next some_ =>
  obtain ⟨⟨exponent, last⟩, power, scanned⟩ := bind_ok _ _ _ scanned
  obtain ⟨_, _, scanned⟩ := bind_ok _ _ _ scanned
  dsimp only at scanned
  split at scanned
  · next made =>
      obtain ⟨rfl, rfl⟩ := Prod.mk.inj (Except.ok.inj scanned)
      exact ⟨whole, after, next, fraction, exponent, parts.symm, inside, point, scanned_exponent next exponent _ power,
        Decidable.not_and_iff_not_or_not.mp some_, made⟩
  · cases scanned

theorem parts_data (negative : Bool) (whole : List Char) (fraction : Option (List Char)) (exponent : Option Int)
    (data : Json) :
    let n := signed negative (ofDigits whole)
    let short := fraction = none ∧ exponent = none ∧ -2 ^ 63 ≤ n ∧ n < 2 ^ 63
    partsData? negative whole fraction exponent = some data ↔
      (short ∧ ∃ w : Whole, data = .whole w ∧ w.value = n) ∨
      (¬short ∧ ∃ x, data = .real x ∧
        Numeral.toBinary Number.double ⟨negative, whole, fraction.getD [], exponent.getD 0⟩ = .finite x) := by
  intro n short
  have same : ((fraction.isNone && exponent.isNone) = true ∧ -2 ^ 63 ≤ n ∧ n < 2 ^ 63) ↔ short := by
    simp [short, and_assoc]
  have choice : partsData? negative whole fraction exponent =
      if (fraction.isNone && exponent.isNone) = true ∧ -2 ^ 63 ≤ n ∧ n < 2 ^ 63 then Json.ofInt? n
      else Json.ofReal? ⟨negative, whole, fraction.getD [], exponent.getD 0⟩ := rfl
  rw [choice]
  by_cases isShort : short
  · rw [if_pos (same.mpr isShort), of_int_some]
    constructor
    · exact fun made => .inl ⟨isShort, made⟩
    · rintro (⟨_, made⟩ | ⟨long, _⟩)
      · exact made
      · exact absurd isShort long
  · rw [if_neg (mt same.mp isShort)]
    simp only [Json.ofReal?]
    constructor
    · intro made
      split at made
      · next x finite => exact .inr ⟨isShort, x, (Option.some.inj made).symm, finite⟩
      · cases made
    · rintro (⟨short, _⟩ | ⟨_, x, rfl, finite⟩)
      · exact absurd short isShort
      · rw [finite]

theorem scanned_hex (start text rest : List Char) (negative : Bool) (data : Json)
    (scanned : scanHex start negative text = .ok (data, rest)) :
    ∃ digits magnitude, ∃ n : Whole, text = digits ++ rest ∧ digits ≠ [] ∧ Text.hexValue? digits = some magnitude ∧
      magnitude < 2 ^ 63 ∧ data = .whole n ∧ n.value = signed negative magnitude := by
  have parts := List.takeWhile_append_dropWhile (p := isHexDigit) (l := text)
  obtain ⟨magnitude, value⟩ := hex_value_total _ (Text.span_inside isHexDigit text) 0
  unfold scanHex at scanned
  dsimp only at scanned
  rw [show Text.hexValue? (text.takeWhile isHexDigit) = _ from value] at scanned
  split at scanned
  · cases scanned
  next fits =>
  rw [not_or] at fits
  split at scanned
  · next made number =>
      obtain ⟨rfl, rfl⟩ := ended_number start _ rest made data scanned
      obtain ⟨n, rfl, same⟩ := (of_int_some _ _).mp number
      refine ⟨_, magnitude, n, parts.symm, fits.1, value, ?_, rfl, same⟩
      have bound : ¬(2 ^ 63 : Int) ≤ magnitude := fits.2
      omega
  · cases scanned

theorem scan_hex (start digits rest : List Char) (negative : Bool) (magnitude : Nat) (n : Whole) (some_ : digits ≠ [])
    (value : Text.hexValue? digits = some magnitude) (bound : magnitude < 2 ^ 63)
    (same : n.value = signed negative magnitude) (hex : ∀ c ∈ digits, isHexDigit c = true) (ends : Ends rest) :
    scanHex start negative (digits ++ rest) = .ok (.whole n, rest) := by
  have stop : ∀ c, rest.head? = some c → isHexDigit c = false := by
    intro c head
    have plain := (separator_not_ident c (ends c head)).1
    cases digit : isHexDigit c with
    | false => rfl
    | true =>
        rw [hex_digit_ident c digit] at plain
        cases plain
  obtain ⟨front, back⟩ := Text.span_exact isHexDigit digits rest hex stop
  unfold scanHex
  rw [front, back]
  have fits : ¬(digits = [] ∨ (2 ^ 63 : Int) ≤ ((some magnitude).getD 0 : Nat)) := by
    rw [not_or]
    refine ⟨some_, ?_⟩
    rw [Option.getD_some]
    omega
  have number : Json.ofInt? (if negative then -(magnitude : Int) else magnitude) = some (.whole n) :=
    (of_int_some _ _).mpr ⟨n, rfl, same⟩
  dsimp only
  rw [value, if_neg fits, Option.getD_some, number]
  exact end_number start rest (.whole n) ends

theorem scanned_number (start rest : List Char) (data : Json) (scanned : scanNumber start = .ok (data, rest)) :
    Numerical start data rest := by
  have sign := read_sign start
  simp only [scanNumber] at scanned
  generalize readSign start = signRead at *
  obtain ⟨negative, unsigned⟩ := signRead
  dsimp only at scanned sign
  have hexadecimal : ∀ mark text, mark = 'x' ∨ mark = 'X' → unsigned = '0' :: mark :: text →
      scanHex start negative text = .ok (data, rest) → Numerical start data rest := by
    intro mark text isMark shape scanned
    obtain ⟨digits, magnitude, n, rfl, some_, value, bound, rfl, same⟩ :=
      scanned_hex start text rest negative data scanned
    rw [shape] at sign
    exact .hex start digits rest negative mark magnitude n sign isMark some_ value bound same
  split at scanned
  · next text => exact hexadecimal 'x' text (.inl rfl) rfl scanned
  · next text => exact hexadecimal 'X' text (.inr rfl) rfl scanned
  · obtain ⟨whole, after, next, fraction, exponent, rfl, inside, point, power, some_, made⟩ :=
      scanned_decimal start unsigned rest negative data scanned
    rcases (parts_data negative whole fraction exponent data).mp made with
      ⟨⟨rfl, rfl, short⟩, n, rfl, same⟩ | ⟨long, x, rfl, finite⟩
    · cases point with
      | none _ =>
          cases power with
          | none _ =>
              have digits : whole ≠ [] := some_.resolve_right (fun h => h rfl)
              exact .integer start whole rest negative n sign digits inside same (same ▸ short)
    · exact .real start whole after next rest negative fraction exponent x sign inside point power some_ long finite

theorem unsigned_decimal (start text : List Char) (negative : Bool) (sign : readSign start = (negative, text))
    (whole after : List Char) (parts : text = whole ++ after) (inside : Digits whole) (halts : Halts after) :
    scanNumber start = scanDecimal start negative text := by
  have decimal : ∀ mark rest, mark = 'x' ∨ mark = 'X' → text ≠ '0' :: mark :: rest := by
    intro mark rest isMark shape
    have marked : mark.isDigit = false := by
      rcases isMark with rfl | rfl <;> decide
    rw [shape] at parts
    match whole, parts with
    | [], parts =>
        have first : '0' :: mark :: rest = after := parts
        have zero := (halts '0' (by rw [← first]; rfl)).1
        cases zero
    | [_], parts =>
        have second : mark :: rest = after := (List.cons.inj parts).2
        have head := halts mark (by rw [← second]; rfl)
        rcases isMark with rfl | rfl
        · exact head.2.1 rfl
        · exact head.2.2 rfl
    | _ :: d :: whole, parts =>
        obtain ⟨rfl, _⟩ := List.cons.inj (List.cons.inj parts).2
        rw [inside mark (List.mem_cons_of_mem _ List.mem_cons_self)] at marked
        cases marked
  simp only [scanNumber]
  rw [sign]
  dsimp only
  split
  · next rest => exact absurd rfl (decimal 'x' rest (.inl rfl))
  · next rest => exact absurd rfl (decimal 'X' rest (.inr rfl))
  · rfl

theorem decimal_head (whole after next : List Char) (fraction : Option (List Char)) (inside : Digits whole)
    (point : Fraction after fraction next) (some_ : whole ≠ [] ∨ fraction.getD [] ≠ []) :
    ∃ c text, whole ++ after = c :: text ∧ (c.isDigit = true ∨ c = '.') := by
  cases whole with
  | cons d whole => exact ⟨d, whole ++ after, rfl, .inl (inside d List.mem_cons_self)⟩
  | nil =>
      cases point with
      | none _ => exact absurd rfl (some_.resolve_left (fun h => h rfl))
      | point digits _ _ => exact ⟨'.', digits ++ next, rfl, .inr rfl⟩

theorem head_unsigned (text : List Char) (c : Char) (rest : List Char) (shape : text = c :: rest)
    (first : c.isDigit = true ∨ c = '.') : ∀ d, text.head? = some d → d ≠ '-' ∧ d ≠ '+' := by
  intro d head
  rw [shape] at head
  obtain rfl := Option.some.inj head
  rcases first with digit | rfl
  · exact digit_unsigned c digit
  · decide

theorem scan_number (text : List Char) (data : Json) (rest : List Char) (number : Numerical text data rest)
    (ends : Ends rest) : scanNumber text = .ok (data, rest) := by
  cases number with
  | hex digits rest negative mark magnitude n sign isMark some_ value bound same =>
      have unsigned := sign_read text negative _ sign (head_unsigned _ '0' _ rfl (.inl (by decide)))
      have hex := hex_value_digits digits magnitude value
      simp only [scanNumber]
      rw [unsigned]
      rcases isMark with rfl | rfl <;> exact scan_hex text digits rest negative magnitude n some_ value bound same hex ends
  | integer digits rest negative n sign some_ inside same short =>
      obtain ⟨c, tail, shape, first⟩ := decimal_head digits rest rest none inside (.none rest) (.inl some_)
      have unsigned := sign_read text negative _ sign (head_unsigned _ c tail shape first)
      rw [unsigned_decimal text _ negative unsigned digits rest rfl inside (ends_halts rest ends)]
      refine scan_decimal text digits rest rest rest negative none none (.whole n) inside (.none rest) (.none rest)
        (.inl some_) ends ?_
      exact (parts_data negative digits none none (.whole n)).mpr (.inl ⟨⟨rfl, rfl, same ▸ short⟩, n, rfl, same⟩)
  | real whole after next rest negative fraction exponent x sign inside point power some_ long finite =>
      obtain ⟨c, tail, shape, first⟩ := decimal_head whole after next fraction inside point some_
      have unsigned := sign_read text negative _ sign (head_unsigned _ c tail shape first)
      have halts := fraction_halts after fraction next point (exponent_halts next exponent rest power ends).1
      rw [unsigned_decimal text _ negative unsigned whole after rfl inside halts]
      refine scan_decimal text whole after next rest negative fraction exponent (.real x) inside point power some_ ends ?_
      exact (parts_data negative whole fraction exponent (.real x)).mpr (.inr ⟨long, x, rfl, finite⟩)

theorem sign_head (text : List Char) (negative : Bool) (after : List Char) (sign : Sign text negative after) (c : Char)
    (tail : List Char) (shape : after = c :: tail) (first : c.isDigit = true ∨ c = '.') :
    ∃ d rest, text = d :: rest ∧ (d.isDigit = true ∨ d = '-' ∨ d = '+' ∨ d = '.') := by
  cases sign with
  | none _ => exact ⟨c, tail, shape, first.imp_right fun same => .inr (.inr same)⟩
  | plus _ => exact ⟨'+', after, rfl, .inr (.inr (.inl rfl))⟩
  | minus _ => exact ⟨'-', after, rfl, .inr (.inl rfl)⟩

theorem number_head (text : List Char) (data : Json) (rest : List Char) (number : Numerical text data rest) :
    ∃ c tail, text = c :: tail ∧ (c.isDigit = true ∨ c = '-' ∨ c = '+' ∨ c = '.') := by
  cases number with
  | hex digits rest negative mark magnitude n sign _ _ _ _ _ =>
      exact sign_head text negative _ sign '0' _ rfl (.inl (by decide))
  | integer digits rest negative n sign some_ inside _ _ =>
      obtain ⟨c, tail, shape, first⟩ := decimal_head digits rest rest none inside (.none rest) (.inl some_)
      exact sign_head text negative _ sign c tail shape first
  | real whole after next rest negative fraction exponent x sign inside point _ some_ _ _ =>
      obtain ⟨c, tail, shape, first⟩ := decimal_head whole after next fraction inside point some_
      exact sign_head text negative _ sign c tail shape first

theorem sign_shorter (text : List Char) (negative : Bool) (after : List Char) (sign : Sign text negative after) :
    after.length ≤ text.length := by
  cases sign with
  | none _ => exact Nat.le_refl _
  | plus _ => exact Nat.le_succ _
  | minus _ => exact Nat.le_succ _

theorem number_shorter (text : List Char) (data : Json) (rest : List Char) (number : Numerical text data rest) :
    rest.length ≤ text.length := by
  cases number with
  | hex digits rest negative mark magnitude n sign _ _ _ _ _ =>
      have shorter := sign_shorter text negative _ sign
      simp only [List.length_cons, List.length_append] at shorter
      omega
  | integer digits rest negative n sign _ _ _ _ =>
      have shorter := sign_shorter text negative _ sign
      rw [List.length_append] at shorter
      omega
  | real whole after next rest negative fraction exponent x sign _ point power _ _ _ =>
      have shorter := sign_shorter text negative _ sign
      have fractional : next.length ≤ after.length := by
        cases point with
        | none _ => exact Nat.le_refl _
        | point digits _ _ =>
            rw [List.length_cons, List.length_append]
            omega
      have powered : rest.length ≤ next.length := by
        cases power with
        | none _ => exact Nat.le_refl _
        | power mark text digits _ negative _ sign _ _ =>
            have shorter := sign_shorter text negative _ sign
            rw [List.length_append] at shorter
            rw [List.length_cons]
            omega
      rw [List.length_append] at shorter
      omega

end ShaderKnobs.Literal
