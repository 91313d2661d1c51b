import ShaderKnobs.Proofs.Literal.Boundary
import ShaderKnobs.Proofs.Literal.Inside

set_option autoImplicit false

namespace ShaderKnobs.Literal.Cursor

theorem ident_ascii : Ascii isIdentRest := by
  intro c ident
  simp only [isIdentRest, Char.isAlphanum, Bool.or_eq_true, alpha_iff, upper_iff, lower_iff, digit_iff, beq_iff_eq] at ident
  rcases ident with (((upper | lower) | digit) | rfl) | rfl
  · exact Nat.lt_of_le_of_lt upper.2 (by decide)
  · exact Nat.lt_of_le_of_lt lower.2 (by decide)
  · exact Nat.lt_of_le_of_lt digit.2 (by decide)
  · decide
  · decide

theorem start_ascii : Ascii isIdentStart := fun c start => ident_ascii c (ident_start_rest c start)

theorem digit_ascii : Ascii Char.isDigit := fun c digit => ident_ascii c (digit_ident c digit)

theorem hex_digit_ascii : Ascii isHexDigit := fun c digit => ident_ascii c (hex_digit_ident c digit)

theorem blank_ascii : Ascii Text.isAsciiBlank := by
  intro c blank
  simp only [Text.isAsciiBlank, Bool.or_eq_true, beq_iff_eq] at blank
  rcases blank with (((rfl | rfl) | rfl) | rfl) | rfl <;> decide

-- A run on bytes goes as a scan of characters does: with a result that agrees, or with the same refusal
-- where the scan has it.
inductive Follows {α β : Type} (text : List Char) (same : α → β → Prop) : Scan α → Step β → Prop where
  | ok (a : α) (b : β) : same a b → Follows text same (.ok a) (.ok b)
  | refused (cause : Cause) (left : List Char) (offset : Nat) : At text left offset →
      Follows text same (fail cause left) (refuse cause offset)

def Agrees {α : Type} (text : List Char) (a : α × List Char) (b : α × Nat) : Prop := a.1 = b.1 ∧ At text a.2 b.2

section

variable {text left : List Char} {pos : Nat}

theorem Follows.bind {α β γ δ : Type} {same : α → β → Prop} {same' : γ → δ → Prop} {first : Scan α} {first' : Step β}
    {next : α → Scan γ} {next' : β → Step δ} (follows : Follows text same first first')
    (onward : ∀ a b, first = .ok a → same a b → Follows text same' (next a) (next' b)) :
    Follows text same' (first >>= next) (first' >>= next') := by
  cases follows with
  | ok a b agree => exact onward a b rfl agree
  | refused cause left offset place => exact .refused cause left offset place

theorem Follows.read {α γ δ : Type} {same : γ → δ → Prop} {first : Scan (α × List Char)} {first' : Step (α × Nat)}
    {next : α × List Char → Scan γ} {next' : α × Nat → Step δ} (follows : Follows text (Agrees text) first first')
    (onward : ∀ a rest stop, first = .ok (a, rest) → At text rest stop →
      Follows text same (next (a, rest)) (next' (a, stop))) :
    Follows text same (first >>= next) (first' >>= next') := by
  refine follows.bind ?_
  rintro ⟨a, rest⟩ ⟨a', stop⟩ found ⟨agree, place⟩
  obtain rfl : a = a' := agree
  exact onward a rest stop found place

theorem skip_wide (mode : Mode) (inside : mode ≠ .between) (bytes more : List Char)
    (wide : ∀ b ∈ bytes, ¬b.toNat < 128) (pos : Nat) :
    skipFrom mode pos (bytes ++ more) = skipFrom mode (pos + bytes.length) more := by
  induction bytes generalizing pos with
  | nil => rfl
  | cons b bytes ih =>
      have high := wide b List.mem_cons_self
      have later := ih (fun d member => wide d (List.mem_cons_of_mem b member)) (pos + 1)
      rw [Nat.add_right_comm, Nat.add_assoc] at later
      cases mode with
      | between => exact absurd rfl inside
      | line =>
          have other : b ≠ '\n' := by
            rintro rfl
            exact high (by decide)
          rw [List.cons_append, skipFrom, if_neg other]
          exact later
      | block start =>
          have other : b ≠ '*' := by
            rintro rfl
            exact high (by decide)
          rw [List.cons_append, skipFrom]
          · exact later
          · intro rest star
            exact absurd star other

inductive SameMode (text : List Char) : TriviaMode → Mode → Prop where
  | between : SameMode text .between .between
  | line : SameMode text .line .line
  | block (start : List Char) (offset : Nat) : At text start offset → SameMode text (.block start) (.block offset)

theorem skip_inside (mode : Mode) (inside : mode ≠ .between) (c : Char) (rest : List Char) (pos : Nat)
    (step : skipFrom mode pos (c :: octets rest) = skipFrom mode (pos + 1) (octets rest)) :
    skipFrom mode pos (octets (c :: rest)) = skipFrom mode (pos + c.utf8Size) (octets rest) := by
  rw [octets_cons]
  by_cases short : c.toNat < 128
  · rw [(ascii_octets c short).1, (ascii_octets c short).2.2]
    exact step
  · have size : (octets [c]).length = c.utf8Size := octets_length [c]
    rw [skip_wide mode inside (octets [c]) (octets rest) (wide_octets c short).2, size]

theorem skip_between (b : Char) (more : List Char) (pos : Nat)
    (open_ : b = '/' → more.head? ≠ some '/' ∧ more.head? ≠ some '*') :
    skipFrom .between pos (b :: more) = if Text.isAsciiBlank b then skipFrom .between (pos + 1) more else .ok pos := by
  rw [skipFrom]
  · rintro rest slash rfl
    exact (open_ slash).1 rfl
  · rintro rest slash rfl
    exact (open_ slash).2 rfl

theorem skip_from_follows (mode : TriviaMode) (mode' : Mode) (same : SameMode text mode mode')
    (place : At text left pos) :
    Follows text (At text) (skipTriviaFrom mode left) (skipFrom mode' pos (octets left)) := by
  fun_induction skipTriviaFrom mode left generalizing mode' pos with
  | case1 left ih =>
      cases same
      have after := (place.next_ascii (by decide)).next_ascii (by decide)
      exact ih .line .line after
  | case2 left ih =>
      cases same
      have after := (place.next_ascii (by decide)).next_ascii (by decide)
      exact ih (.block pos) (.block _ pos place) after
  | case3 c left line block blank ih =>
      cases same
      have short := blank_ascii c blank
      have solid : c ≠ '/' := by
        rintro rfl
        cases blank
      rw [octets_cons, (ascii_octets c short).1, List.singleton_append, skip_between c _ pos fun slash => absurd slash solid,
        if_pos blank]
      exact ih .between .between (place.next_ascii short)
  | case4 c left line block solid =>
      cases same
      obtain ⟨tail, bytes⟩ := List.head?_eq_some_iff.mp (octets_head (c :: left))
      have open_ : Text.leadByte c = '/' → tail.head? ≠ some '/' ∧ tail.head? ≠ some '*' := by
        intro slash
        obtain rfl := (lead_iff c '/' (by decide)).mp slash
        obtain rfl : octets left = tail := (List.cons.inj bytes).2
        constructor <;> intro head
        · obtain ⟨rest, shape⟩ := List.head?_eq_some_iff.mp ((octets_head_iff left '/' (by decide)).mp head)
          exact line rest rfl shape
        · obtain ⟨rest, shape⟩ := List.head?_eq_some_iff.mp ((octets_head_iff left '*' (by decide)).mp head)
          exact block rest rfl shape
      rw [bytes, skip_between _ tail pos open_, lead_class _ blank_ascii, if_neg solid]
      exact .ok (c :: left) pos place
  | case5 left ih =>
      cases same
      exact ih .between .between (place.next_ascii (by decide))
  | case6 c left inside ih =>
      cases same
      rw [skip_inside .line (by simp) c left pos (by rw [skipFrom, if_neg inside])]
      exact ih .line .line place.next
  | case7 start left ih =>
      cases same
      exact ih .between .between ((place.next_ascii (by decide)).next_ascii (by decide))
  | case8 start c left open_ ih =>
      cases same with
      | block _ offset opened =>
          have step : skipFrom (.block offset) pos (c :: octets left) = skipFrom (.block offset) (pos + 1) (octets left) := by
            rw [skipFrom]
            intro rest star slash
            obtain ⟨tail, shape⟩ := List.head?_eq_some_iff.mp
              ((octets_head_iff left '/' (by decide)).mp (List.head?_eq_some_iff.mpr ⟨rest, slash⟩))
            exact open_ tail star shape
          rw [skip_inside (.block offset) (by simp) c left pos step]
          exact ih (.block offset) (.block start offset opened) place.next
  | case9 start =>
      cases same with
      | block _ offset opened => exact .refused .unterminatedComment start offset opened
  | case10 =>
      cases same
      exact .ok [] pos place
  | case11 =>
      cases same
      exact .ok [] pos place

theorem skip_follows (place : At text left pos) : Follows text (At text) (skipTrivia left) (skip text pos) := by
  rw [skip, place.octets_drop]
  exact skip_from_follows .between .between .between place

theorem hex4_follows (place : At text left pos) : Follows text (Agrees text) (scanUnit left) (hex4 text pos) := by
  simp only [scanUnit, hex4]
  rw [place.part]
  cases cut : Text.splitBytes? 4 left with
  | none => exact .refused .truncatedUnicode left pos place
  | some parts =>
      obtain ⟨digits, rest⟩ := parts
      obtain ⟨rfl, count⟩ := split_bytes left 4 digits rest cut
      have after := place.past
      rw [count] at after
      rw [Option.map_some]
      dsimp only
      cases readCode? digits with
      | none => exact .refused .invalidUnicode _ pos place
      | some code => exact .ok (code, rest) (code, pos + 4) ⟨rfl, after⟩

theorem scalar_char (c : Char) : scalar? c.toNat = some c := by
  have valid : c.toNat.isValidChar := c.valid
  rw [scalar?, if_pos valid, Char.ofNat_toNat]

theorem pair_code (high low : Nat) (isHigh : Text.isHighSurrogate high = true) (isLow : Text.isLowSurrogate low = true) :
    (Text.joinSurrogates high low).toNat = pairCode high low :=
  join_code high low ((high_iff high).mp isHigh) ((low_iff low).mp isLow)

theorem scalar_unit (code : Nat) (small : code < 0x10000) (notHigh : ¬Text.isHighSurrogate code = true) :
    scalar? code = if Text.isLowSurrogate code then none else some (Char.ofNat code) := by
  rw [high_iff] at notHigh
  have valid : code.isValidChar ↔ ¬Text.isLowSurrogate code = true := by
    rw [low_iff]
    simp only [Nat.isValidChar]
    omega
  by_cases isLow : Text.isLowSurrogate code = true
  · rw [if_pos isLow]
    exact if_neg (mt valid.mp (not_not.mpr isLow))
  · rw [if_neg isLow]
    exact if_pos (valid.mpr isLow)

theorem unicode_follows (place : At text left pos) : Follows text (Agrees text) (scanUnicode left) (unicode text pos) := by
  rw [scanUnicode, unicode]
  refine Follows.read (hex4_follows place) ?_
  intro high rest after first here
  change Follows text (Agrees text) (if Text.isHighSurrogate high = true then _ else _)
    (if Text.isHighSurrogate high = true then _ else _)
  by_cases isHigh : Text.isHighSurrogate high = true
  · rw [if_pos isHigh, if_pos isHigh]
    split
    · next tail =>
        have there := here.next_ascii (by decide)
        rw [if_pos ⟨here.peek_first (by decide), there.peek_first (by decide)⟩]
        refine Follows.read (hex4_follows (there.next_ascii (by decide))) ?_
        intro low last stop _ past
        change Follows text (Agrees text) (if Text.isLowSurrogate low = true then _ else _)
          (if Text.isLowSurrogate low = true then _ else _)
        by_cases isLow : Text.isLowSurrogate low = true
        · rw [if_pos isLow, if_pos isLow, ← pair_code high low isHigh isLow, scalar_char]
          exact .ok _ _ ⟨rfl, past⟩
        · rw [if_neg isLow, if_neg isLow]
          exact .refused .unpairedSurrogate last stop past
    · next other =>
        rw [if_neg]
        · exact .refused .unpairedSurrogate rest after here
        · rintro ⟨slash, letter⟩
          obtain ⟨tail, rfl⟩ := List.head?_eq_some_iff.mp ((here.peek_iff '\\' (by decide)).mp slash)
          have there := here.next_ascii (by decide)
          obtain ⟨tail', rfl⟩ := List.head?_eq_some_iff.mp ((there.peek_iff 'u' (by decide)).mp letter)
          exact other tail' rfl
  · have small := code_unit_below left high rest (scanned_unit left high rest first)
    rw [if_neg isHigh, if_neg isHigh, scalar_unit high small isHigh]
    by_cases isLow : Text.isLowSurrogate high = true
    · rw [if_pos isLow, if_pos isLow]
      exact .refused .invalidUnicode rest after here
    · rw [if_neg isLow, if_neg isLow]
      exact .ok _ _ ⟨rfl, here⟩

theorem escape_follows (place : At text left pos) : Follows text (Agrees text) (scanEscape left) (escape text pos) := by
  rw [escape, place.slice_left, ok_bind]
  cases left with
  | nil => exact .refused .unterminatedEscape [] pos place
  | cons c rest =>
      change Follows text (Agrees text) _ (if c = 'u' then unicode text (pos + c.utf8Size) else _)
      by_cases letter : c = 'u'
      · rw [if_pos letter]
        subst letter
        exact unicode_follows place.next
      · rw [if_neg letter, scanEscape]
        · exact .ok (unescape c, rest) (unescape c, pos + c.utf8Size) ⟨rfl, place.next⟩
        · exact letter

-- By induction on the rounds; each takes at least one character from what is left.
theorem quoted_from_follows (quote : Char) (ascii : quote.toNat < 128) (start : List Char) (offset : Nat)
    (opened : At text start offset) (fuel rounds : Nat) (done : List Char) (place : At text left pos)
    (enough : left.length < fuel) (enough' : left.length < rounds) :
    Follows text (Agrees text) (scanQuoted quote start fuel done left) (quotedFrom text quote offset rounds done pos) := by
  induction fuel generalizing rounds done left pos with
  | zero => exact absurd enough (Nat.not_lt_zero _)
  | succ fuel ih =>
      obtain ⟨rounds, rfl⟩ := Nat.exists_eq_add_one_of_ne_zero (Nat.ne_zero_of_lt enough')
      rw [quotedFrom, place.slice_left, ok_bind]
      cases left with
      | nil => exact .refused .unterminatedString start offset opened
      | cons c rest =>
          have shorter := Nat.lt_of_succ_lt_succ enough
          have shorter' := Nat.lt_of_succ_lt_succ enough'
          rw [scanQuoted]
          change Follows text (Agrees text) _ (if c = quote then _ else _)
          by_cases closing : c = quote
          · rw [if_pos closing, if_pos closing]
            have after := place.next_ascii (closing ▸ ascii)
            exact .ok (String.ofList done.reverse, rest) (String.ofList done.reverse, pos + 1) ⟨rfl, after⟩
          rw [if_neg closing, if_neg closing]
          by_cases line : c = '\n' ∨ c = '\r'
          · rw [if_pos line, if_pos line]
            exact .refused .unterminatedString start offset opened
          rw [if_neg line, if_neg line]
          by_cases backslash : c = '\\'
          · rw [if_pos backslash, if_pos backslash]
            subst backslash
            refine Follows.read (escape_follows (place.next_ascii (by decide))) ?_
            intro decoded next stop escaped after
            have less := escape_shorter rest decoded next (scanned_escape rest decoded next escaped)
            exact ih rounds (decoded :: done) after (Nat.lt_trans less shorter) (Nat.lt_trans less shorter')
          · rw [if_neg backslash, if_neg backslash]
            exact ih rounds (c :: done) place.next shorter shorter'

theorem string_follows (quote : Char) (isQuote : quote = '"' ∨ quote = '\'') (rest : List Char)
    (place : At text (quote :: rest) pos) :
    Follows text (Agrees text) (scanString quote rest) (string text quote pos) := by
  have ascii : quote.toNat < 128 := by
    rcases isQuote with rfl | rfl <;> decide
  have after := place.next_ascii ascii
  exact quoted_from_follows quote ascii (quote :: rest) pos place _ _ [] after (Nat.lt_succ_self _)
    (Nat.lt_succ_of_le after.left_length)

end

end ShaderKnobs.Literal.Cursor
