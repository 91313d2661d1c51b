import ShaderKnobs.Proofs.Literal.Follow
import ShaderKnobs.Proofs.Literal.Prefix

set_option autoImplicit false

namespace ShaderKnobs.Literal

open Number (Numeral ofDigits readSign spanDigits readMagnitude? readExponent?)

theorem sign_front (text : List Char) (negative : Bool) (after : List Char) (sign : Sign text negative after) :
    ∃ front, text = front ++ after ∧ Sign front negative [] := by
  cases sign with
  | none _ => exact ⟨[], rfl, .none []⟩
  | plus _ => exact ⟨['+'], rfl, .plus []⟩
  | minus _ => exact ⟨['-'], rfl, .minus []⟩

theorem fraction_front (text : List Char) (fraction : Option (List Char)) (rest : List Char)
    (spelled : Fraction text fraction rest) : ∃ front, text = front ++ rest ∧ Fraction front fraction [] := by
  cases spelled with
  | none _ => exact ⟨[], rfl, .none []⟩
  | point digits _ inside =>
      have front := Fraction.point digits [] inside
      rw [List.append_nil] at front
      exact ⟨'.' :: digits, rfl, front⟩

theorem exponent_front (text : List Char) (exponent : Option Int) (rest : List Char)
    (spelled : Exponent text exponent rest) : ∃ front, text = front ++ rest ∧ Exponent front exponent [] := by
  cases spelled with
  | none _ => exact ⟨[], rfl, .none []⟩
  | power mark text digits _ negative isMark sign some_ inside =>
      obtain ⟨front, rfl, alone⟩ := sign_front text negative (digits ++ rest) sign
      have longer := sign_extends front negative [] (digits ++ []) alone
      refine ⟨mark :: (front ++ digits), ?_, ?_⟩
      · rw [List.cons_append, List.append_assoc]
      · rw [List.append_nil] at longer
        refine .power mark (front ++ digits) digits [] negative isMark ?_ some_ inside
        rw [List.append_nil]
        exact longer

theorem read_exponent (text : List Char) (exponent : Option Int) (spelled : Exponent text exponent []) :
    readExponent? text = some (exponent.getD 0) := by
  cases spelled with
  | none _ => rfl
  | power mark text digits _ negative isMark sign some_ inside =>
      rw [List.append_nil] at sign
      have unsigned := sign_read text negative digits sign fun c head =>
        digit_unsigned c (inside c (List.mem_of_mem_head? (Option.mem_def.mpr head)))
      have whole : digits ≠ [] ∧ digits.all Char.isDigit = true := ⟨some_, List.all_eq_true.mpr inside⟩
      rw [readExponent?, if_pos isMark, unsigned]
      dsimp only
      rw [if_pos whole]
      rfl

theorem span_fraction_none (text : List Char) (noPoint : text.head? ≠ some '.') : spanFraction text = (none, text) := by
  rw [spanFraction]
  rintro tail rfl
  exact noPoint rfl

theorem read_magnitude_parts (negative : Bool) (text : List Char) :
    readMagnitude? negative text =
      let (whole, rest) := spanDigits text
      let (fraction, rest) := spanFraction rest
      if whole = [] ∧ fraction.getD [] = [] then none
      else (readExponent? rest).map (⟨negative, whole, fraction.getD [], ·⟩) := by
  simp only [readMagnitude?]
  split
  · next shape =>
      rw [shape]
      rfl
  · next noPoint =>
      have absent : (spanDigits text).2.head? ≠ some '.' := by
        intro point
        obtain ⟨tail, shape⟩ := List.head?_eq_some_iff.mp point
        exact noPoint tail shape
      rw [span_fraction_none _ absent]
      rfl

theorem read_magnitude (negative : Bool) (whole point power : List Char) (fraction : Option (List Char))
    (exponent : Option Int) (inside : Digits whole) (spelled : Fraction point fraction [])
    (spelled' : Exponent power exponent []) (some_ : whole ≠ [] ∨ fraction.getD [] ≠ []) :
    readMagnitude? negative (whole ++ (point ++ power)) =
      some ⟨negative, whole, fraction.getD [], exponent.getD 0⟩ := by
  obtain ⟨halts, noPoint⟩ := exponent_halts power exponent [] spelled' fun c head => (by cases head)
  have longer := fraction_extends point fraction [] power spelled
  have front := digits_span whole (point ++ power) inside fun c head => (fraction_halts _ fraction _ longer halts c head).1
  have digits : ¬(whole = [] ∧ fraction.getD [] = []) := fun both => some_.elim (fun h => h both.1) (fun h => h both.2)
  rw [read_magnitude_parts, front]
  dsimp only
  rw [fraction_span _ fraction _ longer halts noPoint]
  dsimp only
  rw [if_neg digits, List.nil_append, read_exponent power exponent spelled']
  rfl

-- The first character of a numeral without its sign is no letter, so the words for what is no finite
-- number are out of the question.
theorem of_text (numeral : List Char) (negative : Bool) (c : Char) (rest : List Char)
    (first : c.isDigit = true ∨ c = '.') (split_ : readSign numeral = (negative, c :: rest)) :
    Number.Binary.ofText? Number.double (String.ofList numeral) =
      (readMagnitude? negative (c :: rest)).map (Numeral.toBinary Number.double) := by
  have noUpper : ¬('A'.val ≤ c.val ∧ c.val ≤ 'Z'.val) := by
    rcases first with digit | rfl
    · intro upper
      have range := ((digit_iff c).mp digit).2
      exact absurd (UInt32.le_trans upper.1 range) (by decide)
    · decide
  have lower : c.toLower = c := dif_neg noUpper
  have named : ∀ (d : Char) (name : List Char), d.isDigit = false → d ≠ '.' →
      String.ofList ((c :: rest).map Char.toLower) ≠ String.ofList (d :: name) := by
    intro d name letter noPoint same
    rw [String.ofList_inj, List.map_cons, lower] at same
    obtain ⟨rfl, _⟩ := List.cons.inj same
    rcases first with digit | point
    · rw [letter] at digit
      cases digit
    · exact noPoint point
  simp only [Number.Binary.ofText?, String.toList_ofList]
  rw [split_]
  dsimp only
  split
  · next same => exact absurd same (named 'i' ['n', 'f'] rfl (by decide))
  · next same => exact absurd same (named 'i' ['n', 'f', 'i', 'n', 'i', 't', 'y'] rfl (by decide))
  · next same => exact absurd same (named 'n' ['a', 'n'] rfl (by decide))
  · rfl

namespace Cursor

section

variable {text start left : List Char} {offset pos : Nat}

theorem sign_follows (place : At text left pos) :
    (sign text pos).1 = (readSign left).1 ∧ At text (readSign left).2 (sign text pos).2 := by
  simp only [readSign]
  split
  · rw [sign, if_pos (place.peek_first (by decide))]
    exact ⟨rfl, place.next_ascii (by decide)⟩
  · rw [sign, if_neg (place.peek_other '-' (by decide) (by simp)), if_pos (place.peek_first (by decide))]
    exact ⟨rfl, place.next_ascii (by decide)⟩
  · next noMinus noPlus =>
      rw [sign, if_neg (place.peek_other '-' (by decide) noMinus), if_neg (place.peek_other '+' (by decide) noPlus)]
      exact ⟨rfl, place⟩

theorem end_number_follows (opened : At text start offset) (place : At text left pos) (data : Json) :
    Follows text (fun ended _ => ended = (data, left)) (Literal.endNumber start left data)
      (endNumber text offset pos) := by
  simp only [Literal.endNumber, endNumber]
  rw [place.peek]
  cases left with
  | nil => exact .ok (data, []) () rfl
  | cons c rest =>
      rw [List.head?_cons, Option.map_some, Option.any_some, lead_class isIdentRest ident_ascii]
      dsimp only
      by_cases onward : isIdentRest c = true
      · rw [if_pos onward, if_pos onward]
        exact .refused .invalidNumber start offset opened
      · rw [if_neg onward, if_neg onward]
        exact .ok (data, c :: rest) () rfl

theorem long_data (n : Int) (range : -2 ^ 63 ≤ n ∧ n < 2 ^ 63) : ∃ data, Json.ofInt? n = some data ∧ long n = .ok data := by
  have value : (Int64.ofInt n).toInt = n := Int64.toInt_ofInt_of_le range.1 range.2
  exact ⟨.ofInt64 (Int64.ofInt n), (of_int_some n _).mpr ⟨_, rfl, value⟩, if_pos range⟩

theorem hex_long (digits : List Char) (magnitude : Nat) (value : Text.hexValue? digits = some magnitude) :
    hexLong? digits = if digits = [] ∨ (2 ^ 63 : Int) ≤ magnitude then none else some magnitude := by
  rw [hexLong?, value]
  by_cases empty : digits = []
  · rw [if_pos empty, if_pos (.inl empty)]
  · have large : (digits = [] ∨ (2 ^ 63 : Int) ≤ magnitude) ↔ ¬magnitude < 2 ^ 63 := by
      simp only [empty, false_or]
      omega
    rw [if_neg empty, Option.filter_some, if_congr large rfl rfl, ite_not]
    simp

theorem hex_follows (opened : At text start offset) (place : At text left pos) (negative : Bool) :
    Follows text (Agrees text) (scanHex start negative left) (hex text offset negative pos) := by
  obtain ⟨_, after⟩ := place.run isHexDigit hex_digit_ascii
  obtain ⟨magnitude, value⟩ := hex_value_total _ (Text.span_inside isHexDigit left) 0
  replace value : Text.hexValue? (left.takeWhile isHexDigit) = some magnitude := value
  rw [hex, place.slice_run isHexDigit hex_digit_ascii, ok_bind, hex_long _ magnitude value]
  simp only [scanHex]
  rw [value, Option.getD_some]
  by_cases refused : left.takeWhile isHexDigit = [] ∨ (2 ^ 63 : Int) ≤ magnitude
  · rw [if_pos refused, if_pos refused]
    exact .refused .invalidHex start offset opened
  · rw [if_neg refused, if_neg refused]
    have bound : ¬(2 ^ 63 : Int) ≤ magnitude := fun large => refused (.inr large)
    have range : -2 ^ 63 ≤ (if negative then -(magnitude : Int) else magnitude) ∧
        (if negative then -(magnitude : Int) else magnitude) < 2 ^ 63 := by
      cases negative <;> simp only [Bool.false_eq_true, if_true, if_false] <;> omega
    obtain ⟨data, made, made'⟩ := long_data _ range
    rw [made]
    dsimp only
    rw [made']
    have ended := end_number_follows opened after data
    generalize Literal.endNumber start (left.dropWhile isHexDigit) data = scanned at *
    generalize endNumber text offset (run text isHexDigit pos) = stepped at *
    cases ended with
    | ok ended _ same =>
        obtain rfl := same
        exact .ok _ _ ⟨rfl, after⟩
    | refused cause rest stop there => exact .refused cause rest stop there

theorem exponent_follows (place : At text left pos) :
    Follows text (fun a b => a.1.isSome = b.1 ∧ At text a.2 b.2) (scanExponent left) (exponent text pos) := by
  cases left with
  | nil =>
      rw [exponent, if_neg]
      · exact .ok (none, []) (false, pos) ⟨rfl, place⟩
      · rintro (mark | mark)
        · exact place.peek_other 'e' (by decide) nofun mark
        · exact place.peek_other 'E' (by decide) nofun mark
  | cons mark rest =>
      have marked : (peek text pos = some 'e' ∨ peek text pos = some 'E') ↔ (mark = 'e' ∨ mark = 'E') := by
        rw [place.peek_iff 'e' (by decide), place.peek_iff 'E' (by decide)]
        simp
      rw [scanExponent, exponent, if_congr marked rfl rfl]
      by_cases isMark : mark = 'e' ∨ mark = 'E'
      · rw [if_pos isMark, if_pos isMark]
        have ascii : mark.toNat < 128 := by
          rcases isMark with rfl | rfl <;> decide
        obtain ⟨_, there⟩ := sign_follows (place.next_ascii ascii)
        obtain ⟨stop, after⟩ := there.run Char.isDigit digit_ascii
        generalize (sign text (pos + 1)).2 = first at *
        generalize readSign rest = signRead at *
        obtain ⟨negative, unsigned⟩ := signRead
        dsimp only at stop after ⊢
        simp only [spanDigits]
        cases digits : unsigned.takeWhile Char.isDigit with
        | nil =>
            rw [digits, List.length_nil, Nat.add_zero] at stop
            rw [if_pos stop]
            exact .refused .missingExponent _ _ after
        | cons d others =>
            rw [digits, List.length_cons] at stop
            rw [if_neg (by omega)]
            exact .ok _ _ ⟨rfl, after⟩
      · rw [if_neg isMark, if_neg isMark]
        exact .ok (none, mark :: rest) (false, pos) ⟨rfl, place⟩

theorem mantissa_follows (place : At text left pos) :
    (mantissa text pos).1 = (spanFraction (left.dropWhile Char.isDigit)).1.isSome ∧
      (mantissa text pos).2.1 = (left.takeWhile Char.isDigit).length +
        ((spanFraction (left.dropWhile Char.isDigit)).1.getD []).length ∧
      At text (spanFraction (left.dropWhile Char.isDigit)).2 (mantissa text pos).2.2 := by
  obtain ⟨stop, after⟩ := place.run Char.isDigit digit_ascii
  simp only [mantissa]
  generalize run text Char.isDigit pos = whole at *
  generalize left.dropWhile Char.isDigit = rest at *
  by_cases point : rest.head? = some '.'
  · obtain ⟨tail, rfl⟩ := List.head?_eq_some_iff.mp point
    obtain ⟨stop', last⟩ := (after.next_ascii (by decide)).run Char.isDigit digit_ascii
    rw [if_pos (after.peek_first (by decide))]
    refine ⟨rfl, ?_, last⟩
    simp only [spanFraction, Number.spanDigits, Option.getD_some]
    omega
  · rw [if_neg (mt (after.peek_iff '.' (by decide)).mp point), span_fraction_none rest point]
    refine ⟨rfl, ?_, after⟩
    simp only [Option.getD_none, List.length_nil]
    omega

theorem no_plus (c : Char) (tail : List Char) (first : c.isDigit = true ∨ c = '.') :
    c ≠ '+' ∧ (c :: tail).dropWhile (· = '+') = c :: tail := by
  have unsigned := (head_unsigned (c :: tail) c tail rfl first c rfl).2
  exact ⟨unsigned, List.dropWhile_cons_of_neg (by simpa using unsigned)⟩

theorem part_sign (front : List Char) (negative : Bool) (sign : Sign front negative []) (c : Char) (tail : List Char)
    (first : c.isDigit = true ∨ c = '.') :
    readSign ((front ++ c :: tail).dropWhile (· = '+')) = (negative, c :: tail) := by
  have unsigned := head_unsigned (c :: tail) c tail rfl first
  obtain ⟨_, bare⟩ := no_plus c tail first
  cases sign with
  | none _ =>
      rw [List.nil_append, bare]
      exact sign_read _ false _ (.none _) unsigned
  | plus _ =>
      rw [List.cons_append, List.dropWhile_cons_of_pos rfl, List.nil_append, bare]
      exact sign_read _ false _ (.none _) unsigned
  | minus _ => rfl

theorem part_text (front : List Char) (negative : Bool) (sign : Sign front negative []) (c : Char) (tail rest : List Char)
    (first : c.isDigit = true ∨ c = '.') :
    numeralText (front ++ c :: tail ++ rest) rest = String.ofList ((front ++ c :: tail).dropWhile (· = '+')) := by
  obtain ⟨unsigned, bare⟩ := no_plus c tail first
  have part : (front ++ c :: tail ++ rest).take ((front ++ c :: tail ++ rest).length - rest.length) = front ++ c :: tail := by
    rw [List.length_append, Nat.add_sub_cancel]
    exact List.take_left
  rw [numeralText, part]
  cases sign with
  | none _ =>
      rw [List.nil_append, bare]
      split
      · next same => exact absurd (List.cons.inj same).1 unsigned
      · rfl
  | plus _ =>
      rw [List.cons_append, List.dropWhile_cons_of_pos rfl, List.nil_append, bare]
      rfl
  | minus _ => rfl

theorem long_read (numeral : List Char) (negative : Bool) (whole : List Char) (some_ : whole ≠ []) (inside : Digits whole)
    (split_ : readSign numeral = (negative, whole)) :
    long? numeral =
      if -2 ^ 63 ≤ signed negative (ofDigits whole) ∧ signed negative (ofDigits whole) < 2 ^ 63 then
        some (signed negative (ofDigits whole))
      else none := by
  have all : whole.all Char.isDigit = true := List.all_eq_true.mpr inside
  simp only [long?]
  rw [split_]
  simp only [some_, all, ne_eq, not_false_eq_true, true_and]

theorem double_data (offset : Nat) (text : String) (numeral : Numeral)
    (read : Number.Binary.ofText? Number.double text = some (numeral.toBinary Number.double)) :
    double offset text =
      match Json.ofReal? numeral with
      | some data => .ok data
      | none => refuse (.outOfRange text) offset := by
  simp only [double, Json.ofReal?]
  rw [read]
  cases numeral.toBinary Number.double <;> rfl

theorem decimal_data (numeral : List Char) (negative : Bool) (whole point power : List Char)
    (fraction : Option (List Char)) (exponent : Option Int) (inside : Digits whole) (spelled : Fraction point fraction [])
    (spelled' : Exponent power exponent []) (some_ : whole ≠ [] ∨ fraction.getD [] ≠ [])
    (split_ : readSign numeral = (negative, whole ++ (point ++ power))) :
    decimalData offset (fraction.isSome || exponent.isSome) numeral =
      match partsData? negative whole fraction exponent with
      | some data => .ok data
      | none => refuse (.outOfRange (String.ofList numeral)) offset := by
  obtain ⟨c, tail, shape, first⟩ := decimal_head whole (point ++ power) _ fraction inside
    (fraction_extends point fraction [] power spelled) some_
  have text := of_text numeral negative c tail first (shape ▸ split_)
  rw [← shape, read_magnitude negative whole point power fraction exponent inside spelled spelled' some_,
    Option.map_some] at text
  have real := double_data offset (String.ofList numeral) _ text
  simp only [decimalData, partsData?, decimalData?]
  by_cases isReal : (fraction.isSome || exponent.isSome) = true
  · have notInteger : ¬(fraction.isNone && exponent.isNone) = true := by
      revert isReal
      cases fraction <;> cases exponent <;> simp
    rw [if_pos isReal, if_neg fun short => notInteger short.1]
    exact real
  · obtain ⟨rfl, rfl⟩ : fraction = none ∧ exponent = none := by
      simpa using isReal
    cases spelled
    cases spelled'
    rw [List.append_nil, List.append_nil] at split_
    rw [if_neg isReal, long_read numeral negative whole (some_.resolve_right fun h => h rfl) inside split_]
    by_cases range : -2 ^ 63 ≤ signed negative (ofDigits whole) ∧ signed negative (ofDigits whole) < 2 ^ 63
    · obtain ⟨data, made, made'⟩ := long_data _ range
      replace made : Json.ofInt? (if negative = true then -(ofDigits whole : Int) else ofDigits whole) = some data := made
      rw [if_pos range, if_pos ⟨rfl, range⟩, made]
      exact made'
    · rw [if_neg range, if_neg fun short => range short.2]
      exact real

theorem number_part (opened : At text start offset) (negative : Bool) (whole after next rest : List Char)
    (fraction : Option (List Char)) (exponent : Option Int) (sign : Sign start negative (whole ++ after))
    (inside : Digits whole) (point : Fraction after fraction next) (power : Exponent next exponent rest)
    (some_ : whole ≠ [] ∨ fraction.getD [] ≠ []) (here : At text rest pos) :
    ∃ part, slice text offset pos = .ok part ∧
      decimalData offset (fraction.isSome || exponent.isSome) (part.dropWhile (· = '+')) =
        match partsData? negative whole fraction exponent with
        | some data => .ok data
        | none => refuse (.outOfRange (numeralText start rest)) offset := by
  obtain ⟨front, rfl, sign'⟩ := sign_front start negative (whole ++ after) sign
  obtain ⟨point', rfl, spelled⟩ := fraction_front after fraction next point
  obtain ⟨power', rfl, spelled'⟩ := exponent_front next exponent rest power
  obtain ⟨c, tail, shape, first⟩ := decimal_head whole (point' ++ power') _ fraction inside
    (fraction_extends point' fraction [] power' spelled) some_
  have whole_ : front ++ (whole ++ (point' ++ (power' ++ rest))) = front ++ c :: tail ++ rest := by
    rw [← shape]
    simp only [List.append_assoc]
  rw [whole_] at opened ⊢
  have taken := opened.slice
  rw [opened.past.unique here] at taken
  have read := part_sign front negative sign' c tail first
  refine ⟨front ++ c :: tail, taken, ?_⟩
  rw [part_text front negative sign' c tail rest first]
  exact decimal_data _ negative whole point' power' fraction exponent inside spelled spelled' some_ (shape ▸ read)

theorem decimal_follows (opened : At text start offset) (place : At text left pos) (negative : Bool)
    (sign : Sign start negative left) :
    Follows text (Agrees text) (scanDecimal start negative left) (decimal text offset pos) := by
  have parts := List.takeWhile_append_dropWhile (p := Char.isDigit) (l := left)
  have inside := Text.span_inside Char.isDigit left
  have point := span_fraction (left.dropWhile Char.isDigit)
  obtain ⟨isPoint, count, after⟩ := mantissa_follows place
  rw [← parts] at sign
  unfold scanDecimal decimal Number.spanDigits
  dsimp only
  generalize left.takeWhile Char.isDigit = whole at *
  generalize left.dropWhile Char.isDigit = rest at *
  generalize spanFraction rest = span at *
  obtain ⟨fraction, next⟩ := span
  dsimp only at point isPoint count after ⊢
  have blank : (mantissa text pos).2.1 = 0 ↔ whole = [] ∧ fraction.getD [] = [] := by
    rw [count, Nat.add_eq_zero_iff, List.length_eq_zero_iff, List.length_eq_zero_iff]
  by_cases none_ : whole = [] ∧ fraction.getD [] = []
  · rw [if_pos none_, if_pos (blank.mpr none_)]
    exact .refused .invalidNumber start offset opened
  rw [if_neg none_, if_neg (mt blank.mp none_)]
  refine Follows.bind (exponent_follows after) ?_
  rintro ⟨exponent, last⟩ ⟨_, stop⟩ power ⟨rfl, here⟩
  refine Follows.bind (end_number_follows opened here .null) ?_
  intro _ _ _ _
  obtain ⟨part, taken, data⟩ := number_part opened negative whole rest next last fraction exponent sign inside point
    (scanned_exponent next exponent last power) (Decidable.not_and_iff_not_or_not.mp none_) here
  change Follows text (Agrees text)
    (match partsData? negative whole fraction exponent with
      | some data => .ok (data, last)
      | none => fail (.outOfRange (numeralText start last)) start)
    (slice text offset stop >>= fun part =>
      decimalData offset ((mantissa text pos).1 || exponent.isSome) (part.dropWhile (· = '+')) >>= fun data =>
        .ok (data, stop))
  rw [taken, ok_bind, isPoint, data]
  cases partsData? negative whole fraction exponent with
  | some data => exact .ok (data, last) (data, stop) ⟨rfl, here⟩
  | none => exact .refused (.outOfRange (numeralText start last)) start offset opened

theorem number_follows (place : At text left pos) :
    Follows text (Agrees text) (scanNumber left) (number text pos) := by
  obtain ⟨same, after⟩ := sign_follows place
  have sign := read_sign left
  simp only [scanNumber, number]
  rw [same]
  generalize (Cursor.sign text pos).2 = unsigned at *
  generalize readSign left = signRead at *
  obtain ⟨negative, rest⟩ := signRead
  dsimp only at after sign ⊢
  split
  · have there := after.next_ascii (by decide)
    rw [if_pos ⟨after.peek_first (by decide), .inl (there.peek_first (by decide))⟩]
    exact hex_follows place (there.next_ascii (by decide)) negative
  · have there := after.next_ascii (by decide)
    rw [if_pos ⟨after.peek_first (by decide), .inr (there.peek_first (by decide))⟩]
    exact hex_follows place (there.next_ascii (by decide)) negative
  · next small capital =>
      rw [if_neg]
      · exact decimal_follows place after negative sign
      · rintro ⟨zero, mark⟩
        obtain ⟨tail, rfl⟩ := List.head?_eq_some_iff.mp ((after.peek_iff '0' (by decide)).mp zero)
        have there := after.next_ascii (by decide)
        rcases mark with mark | mark
        · obtain ⟨digits, rfl⟩ := List.head?_eq_some_iff.mp ((there.peek_iff 'x' (by decide)).mp mark)
          exact small digits rfl
        · obtain ⟨digits, rfl⟩ := List.head?_eq_some_iff.mp ((there.peek_iff 'X' (by decide)).mp mark)
          exact capital digits rfl

end

end Cursor

end ShaderKnobs.Literal
