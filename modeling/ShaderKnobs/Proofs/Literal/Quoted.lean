import ShaderKnobs.Proofs.Answer
import ShaderKnobs.Proofs.Literal.Grammar

set_option autoImplicit false

namespace ShaderKnobs.Literal

theorem unescape_escaped (c : Char) : unescape c = escaped c := by
  simp only [unescape]
  split <;> try rfl
  next n t r b f v zero =>
    have absent : controls.lookup c = none := by
      simp only [controls, List.lookup_eq_none_iff, List.mem_cons, List.not_mem_nil, or_false, bne_iff_ne]
      rintro pair (rfl | rfl | rfl | rfl | rfl | rfl | rfl)
      · exact n
      · exact t
      · exact r
      · exact b
      · exact f
      · exact v
      · exact zero
    rw [escaped, absent, Option.getD_none]

theorem hex_digit_size (c : Char) (digit : isHexDigit c = true) : c.utf8Size = 1 := by
  have small : c ≤ 'f' := by
    simp only [isHexDigit, Text.hexDigit?] at digit
    have nine : '9' ≤ 'f' := by decide
    have capital : 'F' ≤ 'f' := by decide
    split at digit
    · next range => exact Char.le_trans range.2 nine
    · split at digit
      · next range => exact range.2
      · split at digit
        · next range => exact Char.le_trans range.2 capital
        · cases digit
  rw [Char.utf8Size_eq_one_iff]
  exact UInt32.le_trans small (by decide)

theorem hex_value_from (digits : List Char) (start code : Nat)
    (value : digits.foldlM (fun n c => (Text.hexDigit? c).map (16 * n + ·)) start = some code) :
    ∀ c ∈ digits, isHexDigit c = true := by
  induction digits generalizing start with
  | nil => simp
  | cons c rest ih =>
      rw [List.foldlM_cons, Option.bind_eq_bind, Option.bind_eq_some_iff] at value
      obtain ⟨next, first, later⟩ := value
      obtain ⟨digit, found, _⟩ := Option.map_eq_some_iff.mp first
      intro d member
      rcases List.mem_cons.mp member with rfl | member
      · simp [isHexDigit, found]
      · exact ih next later d member

theorem hex_value_digits (digits : List Char) (code : Nat) (value : Text.hexValue? digits = some code) :
    ∀ c ∈ digits, isHexDigit c = true := hex_value_from digits 0 code value

def byteCount : List Char → Nat
  | [] => 0
  | c :: rest => c.utf8Size + byteCount rest

theorem byte_count_single (text : List Char) (single : ∀ c ∈ text, c.utf8Size = 1) : byteCount text = text.length := by
  induction text with
  | nil => rfl
  | cons c rest ih =>
      have first := single c List.mem_cons_self
      have later := ih fun d member => single d (List.mem_cons_of_mem _ member)
      simp only [byteCount, List.length_cons] at later ⊢
      omega

theorem hex_byte_count (digits : List Char) (hex : ∀ c ∈ digits, isHexDigit c = true) :
    byteCount digits = digits.length :=
  byte_count_single digits fun c member => hex_digit_size c (hex c member)

theorem split_bytes (text : List Char) (n : Nat) (front back : List Char)
    (cut : Text.splitBytes? n text = some (front, back)) : text = front ++ back ∧ byteCount front = n := by
  induction text generalizing n front back with
  | nil =>
      simp only [Text.splitBytes?] at cut
      split at cut
      · next none =>
          obtain ⟨rfl, rfl⟩ := Prod.mk.inj (Option.some.inj cut)
          exact ⟨rfl, none.symm⟩
      · cases cut
  | cons c rest ih =>
      simp only [Text.splitBytes?] at cut
      split at cut
      · next none =>
          obtain ⟨rfl, rfl⟩ := Prod.mk.inj (Option.some.inj cut)
          exact ⟨rfl, none.symm⟩
      · split at cut
        · obtain ⟨⟨front', back'⟩, later, same⟩ := Option.map_eq_some_iff.mp cut
          obtain ⟨rfl, rfl⟩ := Prod.mk.inj same
          obtain ⟨rfl, count⟩ := ih _ front' back' later
          refine ⟨rfl, ?_⟩
          simp only [byteCount] at count ⊢
          omega
        · cases cut

theorem split_whole (front back : List Char) :
    Text.splitBytes? (byteCount front) (front ++ back) = some (front, back) := by
  induction front with
  | nil => cases back <;> rfl
  | cons c rest ih =>
      have size := c.utf8Size_pos
      have count : byteCount (c :: rest) = c.utf8Size + byteCount rest := rfl
      rw [List.cons_append, Text.splitBytes?, if_neg (by omega), if_pos (by omega), count, Nat.add_sub_cancel_left, ih]
      rfl

theorem scanned_unit (text : List Char) (code : Nat) (rest : List Char) (scanned : scanUnit text = .ok (code, rest)) :
    CodeUnit text code rest := by
  simp only [scanUnit] at scanned
  split at scanned
  · cases scanned
  · next digits after cut =>
      obtain ⟨rfl, count⟩ := split_bytes text 4 digits after cut
      split at scanned
      · cases scanned
      · next value read =>
          obtain ⟨rfl, rfl⟩ := Prod.mk.inj (Except.ok.inj scanned)
          simp only [readCode?] at read
          split at read
          · next three =>
              split at read
              · cases read
              · refine .plus three value after ?_ read
                have all := hex_byte_count three (hex_value_digits three value read)
                have plus : byteCount ('+' :: three) = 1 + byteCount three := rfl
                omega
          · refine .digits digits value after ?_ read
            have all := hex_byte_count digits (hex_value_digits digits value read)
            omega

theorem scan_unit (text : List Char) (code : Nat) (rest : List Char) (unit : CodeUnit text code rest) :
    scanUnit text = .ok (code, rest) := by
  cases unit with
  | digits digits code rest four value =>
      have hex := hex_value_digits digits code value
      have cut := split_whole digits rest
      rw [hex_byte_count digits hex, four] at cut
      have read : readCode? digits = some code := by
        simp only [readCode?]
        split
        · have plus := hex '+' List.mem_cons_self
          cases plus
        · exact value
      simp only [scanUnit]
      rw [cut]
      dsimp only
      rw [read]
  | plus digits code rest three value =>
      have cut := split_whole ('+' :: digits) rest
      have count : byteCount ('+' :: digits) = 4 := by
        have all := hex_byte_count digits (hex_value_digits digits code value)
        have plus : byteCount ('+' :: digits) = 1 + byteCount digits := rfl
        omega
      rw [count] at cut
      have some_ : digits ≠ [] := by
        rintro rfl
        cases three
      have read : readCode? ('+' :: digits) = some code := by
        rw [readCode?, if_neg some_]
        exact value
      simp only [scanUnit]
      rw [← List.cons_append, cut]
      dsimp only
      rw [read]

theorem code_unit_shorter (text : List Char) (code : Nat) (rest : List Char) (unit : CodeUnit text code rest) :
    rest.length ≤ text.length := by
  cases unit with
  | digits digits code rest _ _ =>
      rw [List.length_append]
      omega
  | plus digits code rest _ _ =>
      rw [List.length_cons, List.length_append]
      omega

theorem escape_shorter (text : List Char) (c : Char) (rest : List Char) (escape : Escape text c rest) :
    rest.length < text.length := by
  cases escape with
  | letter c rest _ => exact Nat.lt_succ_self _
  | unicode text rest code unit _ _ => exact Nat.lt_succ_of_le (code_unit_shorter text code rest unit)
  | pair text between rest high low first _ second _ =>
      have early := code_unit_shorter text high _ first
      have late := code_unit_shorter between low rest second
      simp only [List.length_cons] at early ⊢
      omega

theorem scanned_escape (text : List Char) (c : Char) (rest : List Char) (scanned : scanEscape text = .ok (c, rest)) :
    Escape text c rest := by
  simp only [scanEscape] at scanned
  split at scanned
  · cases scanned
  · next text =>
      obtain ⟨⟨high, after⟩, first, scanned⟩ := bind_ok _ _ _ scanned
      have unit := scanned_unit text high after first
      dsimp only at scanned
      split at scanned
      · next isHigh =>
          split at scanned
          · next tail =>
              obtain ⟨⟨low, last⟩, second, scanned⟩ := bind_ok _ _ _ scanned
              have unit' := scanned_unit tail low last second
              dsimp only at scanned
              split at scanned
              · next isLow =>
                  obtain ⟨rfl, rfl⟩ := Prod.mk.inj (Except.ok.inj scanned)
                  exact .pair text tail last high low unit isHigh unit' isLow
              · cases scanned
          · cases scanned
      · next notHigh =>
          split at scanned
          · cases scanned
          · next notLow =>
              obtain ⟨rfl, rfl⟩ := Prod.mk.inj (Except.ok.inj scanned)
              exact .unicode text after high unit (by simpa using notHigh) (by simpa using notLow)
  · next d after other =>
      obtain ⟨rfl, rfl⟩ := Prod.mk.inj (Except.ok.inj scanned)
      rw [unescape_escaped]
      exact .letter d after other

theorem scan_escape (text : List Char) (c : Char) (rest : List Char) (escape : Escape text c rest) :
    scanEscape text = .ok (c, rest) := by
  cases escape with
  | letter c rest other =>
      rw [← unescape_escaped, scanEscape]
      intro same
      exact other same
  | unicode text rest code unit notHigh notLow =>
      rw [scanEscape, scanUnicode, scan_unit text code rest unit]
      change (if Text.isHighSurrogate code = true then _ else if Text.isLowSurrogate code = true then _ else _) = _
      rw [notHigh, notLow]
      rfl
  | pair text between rest high low first isHigh second isLow =>
      rw [scanEscape, scanUnicode, scan_unit text high _ first]
      change (if Text.isHighSurrogate high = true then
        (scanUnit between >>= fun pair => if Text.isLowSurrogate pair.1 = true then _ else _) else _) = _
      rw [isHigh, if_pos rfl, scan_unit between low rest second]
      change (if Text.isLowSurrogate low = true then _ else _) = _
      rw [isLow]
      rfl

theorem scanned_body (quote : Char) (start : List Char) (fuel : Nat) (done text : List Char) (value : String)
    (rest : List Char) (scanned : scanQuoted quote start fuel done text = .ok (value, rest)) :
    ∃ chars, Body quote text chars rest ∧ value = String.ofList (done.reverse ++ chars) := by
  induction fuel generalizing done text with
  | zero => cases scanned
  | succ fuel ih =>
      cases text with
      | nil => cases scanned
      | cons c text =>
          rw [scanQuoted] at scanned
          split at scanned
          · next closing =>
              obtain ⟨rfl, rfl⟩ := Prod.mk.inj (Except.ok.inj scanned)
              rw [closing]
              exact ⟨[], .close text, by rw [List.append_nil]⟩
          next open_ =>
          split at scanned
          · cases scanned
          next inLine =>
          rw [not_or] at inLine
          split at scanned
          · next backslash =>
              obtain ⟨⟨d, next⟩, escape, scanned⟩ := bind_ok _ _ _ scanned
              obtain ⟨chars, body, rfl⟩ := ih (d :: done) next scanned
              rw [backslash]
              refine ⟨d :: chars, .escape d text next chars rest (scanned_escape text d next escape) body, ?_⟩
              rw [List.reverse_cons, List.append_assoc, List.singleton_append]
          · next plain =>
              obtain ⟨chars, body, rfl⟩ := ih (c :: done) text scanned
              refine ⟨c :: chars, .plain c text chars rest open_ inLine.1 inLine.2 plain body, ?_⟩
              rw [List.reverse_cons, List.append_assoc, List.singleton_append]

theorem scan_body (quote : Char) (start text chars rest : List Char) (isQuote : quote = '"' ∨ quote = '\'')
    (body : Body quote text chars rest) (fuel : Nat) (done : List Char) (enough : text.length < fuel) :
    scanQuoted quote start fuel done text = .ok (String.ofList (done.reverse ++ chars), rest) := by
  induction body generalizing fuel done with
  | close rest =>
      obtain ⟨fuel, rfl⟩ := Nat.exists_eq_add_one_of_ne_zero (Nat.ne_zero_of_lt enough)
      rw [scanQuoted, if_pos rfl, List.append_nil]
  | plain c text chars rest open_ line carriage backslash _ ih =>
      obtain ⟨fuel, rfl⟩ := Nat.exists_eq_add_one_of_ne_zero (Nat.ne_zero_of_lt enough)
      rw [scanQuoted, if_neg open_, if_neg (not_or.mpr ⟨line, carriage⟩), if_neg backslash,
        ih fuel (c :: done) (Nat.lt_of_succ_lt_succ enough), List.reverse_cons, List.append_assoc,
        List.singleton_append]
  | escape c text next chars rest escape _ ih =>
      obtain ⟨fuel, rfl⟩ := Nat.exists_eq_add_one_of_ne_zero (Nat.ne_zero_of_lt enough)
      have open_ : '\\' ≠ quote := by
        rcases isQuote with rfl | rfl <;> decide
      have shorter := escape_shorter text c next escape
      have enough' : next.length < fuel := Nat.lt_trans shorter (Nat.lt_of_succ_lt_succ enough)
      rw [scanQuoted, if_neg open_, if_neg (by decide), if_pos rfl, scan_escape text c next escape]
      change scanQuoted quote start fuel (c :: done) next = _
      rw [ih fuel (c :: done) enough', List.reverse_cons, List.append_assoc, List.singleton_append]

theorem body_shorter (quote : Char) (text chars rest : List Char) (body : Body quote text chars rest) :
    rest.length < text.length := by
  induction body with
  | close rest => exact Nat.lt_succ_self _
  | plain c text chars rest _ _ _ _ _ ih => exact Nat.lt_succ_of_lt ih
  | escape c text next chars rest escape _ ih =>
      exact Nat.lt_succ_of_lt (Nat.lt_trans ih (escape_shorter text c next escape))

theorem quoted_shorter (text : List Char) (value : String) (rest : List Char) (quoted : Quoted text value rest) :
    rest.length ≤ text.length := by
  cases quoted with
  | mk quote text chars rest _ body => exact Nat.le_succ_of_le (Nat.le_of_lt (body_shorter quote text chars rest body))

theorem scanned_quoted (quote : Char) (text : List Char) (value : String) (rest : List Char)
    (isQuote : quote = '"' ∨ quote = '\'') (scanned : scanString quote text = .ok (value, rest)) :
    Quoted (quote :: text) value rest := by
  obtain ⟨chars, body, rfl⟩ := scanned_body quote _ _ [] text value rest scanned
  exact .mk quote text chars rest isQuote body

theorem scan_quoted (quote : Char) (text : List Char) (value : String) (rest : List Char)
    (quoted : Quoted (quote :: text) value rest) : scanString quote text = .ok (value, rest) := by
  cases quoted with
  | mk _ _ chars _ isQuote body => exact scan_body quote _ text chars rest isQuote body _ [] (Nat.lt_succ_self _)

end ShaderKnobs.Literal
