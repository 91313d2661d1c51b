import ShaderKnobs.Proofs.Literal.Numeral

set_option autoImplicit false

namespace ShaderKnobs.Literal.Cursor

-- A step that reads from every position as a scan does from what is left there.
def Tracks {α : Type} (text : List Char) (scan : List Char → Scan (α × List Char)) (step : Nat → Step (α × Nat)) : Prop :=
  ∀ left pos, At text left pos → Follows text (Agrees text) (scan left) (step pos)

section

variable {text left : List Char} {pos : Nat}

theorem word_read (place : At text left pos) (p : Char → Bool) (ascii : Ascii p) :
    word text p pos = .ok (String.ofList (left.takeWhile p), run text p pos) ∧
      At text (left.dropWhile p) (run text p pos) := by
  refine ⟨?_, (place.run p ascii).2⟩
  rw [word, place.slice_run p ascii]
  rfl

theorem key_tracks (text : List Char) : Tracks text scanKey (key text) := by
  intro left pos place
  rw [key, place.peek]
  cases left with
  | nil => exact .refused .expectedKey [] pos place
  | cons c rest =>
      rw [List.head?_cons, Option.map_some, scanKey]
      dsimp only
      simp only [lead_iff c '"' (by decide), lead_iff c '\'' (by decide), lead_iff c '\x7d' (by decide),
        lead_class isIdentStart start_ascii, lead_class Char.isDigit digit_ascii]
      by_cases quoted : c = '"' ∨ c = '\''
      · rw [if_pos quoted, if_pos quoted, lead_quote c quoted]
        exact string_follows c quoted rest place
      rw [if_neg quoted, if_neg quoted]
      by_cases start : isIdentStart c = true
      · obtain ⟨read, after⟩ := word_read place isIdentRest ident_ascii
        rw [if_pos start, if_pos start, read]
        exact .ok _ _ ⟨rfl, after⟩
      rw [if_neg start, if_neg start]
      by_cases digit : c.isDigit = true
      · obtain ⟨read, after⟩ := word_read place Char.isDigit digit_ascii
        rw [if_pos digit, if_pos digit, read]
        exact .ok _ _ ⟨rfl, after⟩
      rw [if_neg digit, if_neg digit]
      by_cases brace : c = '\x7d'
      · rw [if_pos brace, if_pos brace]
        exact .refused .expectedKey (c :: rest) pos place
      · rw [if_neg brace, if_neg brace]
        exact .refused (.unexpectedInKey (Text.leadByte c)) (c :: rest) pos place

theorem member_tracks (text : List Char) (value : List Char → Scan (Json × List Char)) (value' : Nat → Step (Json × Nat))
    (tracks : Tracks text value value') : Tracks text (scanMember value) (member text value') := by
  intro left pos place
  rw [scanMember, member]
  refine Follows.read (key_tracks text left pos place) ?_
  intro key rest stop _ after
  refine Follows.bind (skip_follows after) ?_
  intro next there _ here
  split
  · next tail =>
      rw [if_pos (here.peek_first (by decide))]
      refine Follows.bind (skip_follows (here.next_ascii (by decide))) ?_
      intro body first _ place'
      refine Follows.read (tracks body first place') ?_
      intro data last stop' _ after'
      exact .ok _ _ ⟨rfl, after'⟩
  · next noColon =>
      rw [if_neg (here.peek_other ':' (by decide) noColon)]
      exact .refused (.expected ':') next there here

-- What stands after an element if no comma, no closing bracket and not the end.
theorem no_delimiter (place : At text left pos) (close : Char) (ascii : close.toNat < 128) (some_ : left = [] → False)
    (noComma : ∀ rest, left = ',' :: rest → False) (open_ : ∀ rest, left = close :: rest → False) :
    ∃ b, peek text pos = some b ∧ b ≠ ',' ∧ b ≠ close := by
  cases left with
  | nil => exact absurd rfl some_
  | cons c rest =>
      refine ⟨Text.leadByte c, place.peek, ?_, ?_⟩
      · rw [Ne, lead_iff c ',' (by decide)]
        rintro rfl
        exact noComma rest rfl
      · rw [Ne, lead_iff c close ascii]
        rintro rfl
        exact open_ rest rfl

-- By induction on the rounds; each takes at least one character from what is left.
theorem items_follow (value : List Char → Scan (Json × List Char)) (value' : Nat → Step (Json × Nat))
    (tracks : Tracks text value value') (element : List Char → Json → List Char → Prop) (reads : Reads value element)
    (fuel rounds : Nat) (done : List Json) (place : At text left pos) (enough : left.length < fuel)
    (enough' : left.length < rounds) :
    Follows text (Agrees text) (scanItems value fuel done left) (items text value' rounds done pos) := by
  induction fuel generalizing rounds done left pos with
  | zero => exact absurd enough (Nat.not_lt_zero _)
  | succ fuel ih =>
      obtain ⟨rounds, rfl⟩ := Nat.exists_eq_add_one_of_ne_zero (Nat.ne_zero_of_lt enough')
      rw [scanItems, items]
      refine Follows.bind (skip_follows place) ?_
      intro body first skipped here
      split
      · rw [if_pos (here.peek_first (by decide))]
        exact .ok _ _ ⟨rfl, here.next_ascii (by decide)⟩
      next noClose =>
      rw [if_neg (here.peek_other ']' (by decide) noClose)]
      refine Follows.read (tracks body first here) ?_
      intro data next stop found after
      refine Follows.bind (skip_follows after) ?_
      intro last there skipped' end_
      split
      · next rest =>
          have shorter := round_shorter value element reads left body next ',' rest data (skipped_gap left body skipped)
            (reads.sound body data next found) (skipped_gap next _ skipped')
          rw [end_.peek_first (by decide)]
          exact ih rounds (data :: done) (end_.next_ascii (by decide)) (by omega) (by omega)
      · rw [end_.peek_first (by decide)]
        exact .ok _ _ ⟨rfl, end_.next_ascii (by decide)⟩
      · rw [end_.peek]
        exact .refused .unterminatedArray [] there end_
      · next comma close some_ =>
          obtain ⟨b, peeked, other, other'⟩ := no_delimiter end_ ']' (by decide) some_ comma close
          rw [peeked]
          dsimp only
          rw [if_neg other, if_neg other']
          exact .refused .expectedItemEnd last there end_

theorem members_follow (value : List Char → Scan (Json × List Char)) (value' : Nat → Step (Json × Nat))
    (tracks : Tracks text value value') (element : List Char → Json → List Char → Prop) (reads : Reads value element)
    (fuel rounds : Nat) (fields : Fields) (place : At text left pos) (enough : left.length < fuel)
    (enough' : left.length < rounds) :
    Follows text (Agrees text) (scanMembers value fuel fields left) (members text value' rounds fields pos) := by
  induction fuel generalizing rounds fields left pos with
  | zero => exact absurd enough (Nat.not_lt_zero _)
  | succ fuel ih =>
      obtain ⟨rounds, rfl⟩ := Nat.exists_eq_add_one_of_ne_zero (Nat.ne_zero_of_lt enough')
      rw [scanMembers, members]
      refine Follows.bind (skip_follows place) ?_
      intro body first skipped here
      split
      · rw [if_pos (here.peek_first (by decide))]
        exact .ok _ _ ⟨rfl, here.next_ascii (by decide)⟩
      next noClose =>
      rw [if_neg (here.peek_other '\x7d' (by decide) noClose)]
      refine Follows.read (member_tracks text value value' tracks body first here) ?_
      rintro ⟨key, data⟩ next stop found after
      refine Follows.bind (skip_follows after) ?_
      intro last there skipped' end_
      split
      · next rest =>
          have shorter := round_shorter _ _ (member_reads value element reads) left body next ',' rest (key, data)
            (skipped_gap left body skipped) ((member_reads value element reads).sound body (key, data) next found)
            (skipped_gap next _ skipped')
          rw [end_.peek_first (by decide)]
          exact ih rounds (Fields.put key data fields) (end_.next_ascii (by decide)) (by omega) (by omega)
      · rw [end_.peek_first (by decide)]
        exact .ok _ _ ⟨rfl, end_.next_ascii (by decide)⟩
      · rw [end_.peek]
        exact .refused .unterminatedObject [] there end_
      · next comma close some_ =>
          obtain ⟨b, peeked, other, other'⟩ := no_delimiter end_ '\x7d' (by decide) some_ comma close
          rw [peeked]
          dsimp only
          rw [if_neg other, if_neg other']
          exact .refused .expectedMemberEnd last there end_

theorem word_data_tracks (text : List Char) : Tracks text scanWord (wordData text) := by
  intro left pos place
  obtain ⟨read, after⟩ := word_read place isIdentRest ident_ascii
  rw [wordData, read, ok_bind]
  simp only [scanWord, spanIdent]
  generalize String.ofList (left.takeWhile isIdentRest) = name
  split
  · exact .ok _ _ ⟨rfl, after⟩
  · exact .ok _ _ ⟨rfl, after⟩
  · exact .ok _ _ ⟨rfl, after⟩
  · exact .ok _ _ ⟨rfl, after⟩
  · exact .refused (.nonFinite "Infinity") left pos place
  · exact .refused (.nonFinite "NaN") left pos place
  · next true_ false_ null undefined infinity nan =>
      rw [wordBetween]
      · exact .refused (.unknownIdentifier name) left pos place
      · exact true_
      · exact false_
      · exact null
      · exact undefined
      · exact infinity
      · exact nan

theorem value_tracks (text : List Char) (levels : Nat) : Tracks text (scanValue levels) (value text levels) := by
  induction levels with
  | zero => exact fun left pos place => .refused .tooDeep left pos place
  | succ levels ih =>
      intro left pos place
      rw [value, place.peek]
      cases left with
      | nil => exact .refused .unexpectedEnd [] pos place
      | cons c rest =>
          rw [List.head?_cons, Option.map_some, scanValue]
          dsimp only
          simp only [lead_iff c '\x7b' (by decide), lead_iff c '[' (by decide), lead_iff c '"' (by decide),
            lead_iff c '\'' (by decide), lead_iff c '-' (by decide), lead_iff c '+' (by decide), lead_iff c '.' (by decide),
            lead_class isIdentStart start_ascii, lead_class Char.isDigit digit_ascii]
          by_cases brace : c = '\x7b'
          · subst brace
            have after := place.next_ascii (by decide)
            rw [if_pos rfl, if_pos rfl]
            refine Follows.read (members_follow _ _ ih _ (inner_reads levels) _ _ [] after (Nat.lt_succ_self _)
              (Nat.lt_succ_of_le after.left_length)) ?_
            intro fields last stop _ here
            exact .ok _ _ ⟨rfl, here⟩
          rw [if_neg brace, if_neg brace]
          by_cases bracket : c = '['
          · subst bracket
            have after := place.next_ascii (by decide)
            rw [if_pos rfl, if_pos rfl]
            refine Follows.read (items_follow _ _ ih _ (inner_reads levels) _ _ [] after (Nat.lt_succ_self _)
              (Nat.lt_succ_of_le after.left_length)) ?_
            intro items last stop _ here
            exact .ok _ _ ⟨rfl, here⟩
          rw [if_neg bracket, if_neg bracket]
          by_cases quoted : c = '"' ∨ c = '\''
          · rw [if_pos quoted, if_pos quoted, lead_quote c quoted]
            refine Follows.read (string_follows c quoted rest place) ?_
            intro value last stop _ here
            exact .ok _ _ ⟨rfl, here⟩
          rw [if_neg quoted, if_neg quoted]
          by_cases number_ : c.isDigit = true ∨ c = '-' ∨ c = '+' ∨ c = '.'
          · rw [if_pos number_, if_pos number_]
            exact number_follows place
          rw [if_neg number_, if_neg number_]
          by_cases start : isIdentStart c = true
          · rw [if_pos start, if_pos start]
            exact word_data_tracks text (c :: rest) pos place
          · rw [if_neg start, if_neg start]
            exact .refused (.unexpectedCharacter (Text.leadByte c)) (c :: rest) pos place

theorem parse_follows (text : List Char) : Follows text (fun a b => a = b) (parseChars text) (parse text) := by
  rw [parseChars, parse]
  refine Follows.bind (skip_follows (at_start text)) ?_
  intro body first _ here
  split
  · rw [if_pos (here.at_end.mpr rfl)]
    exact .refused .noLiteral [] first here
  next some_ =>
  rw [if_neg (mt here.at_end.mp some_)]
  refine Follows.read (value_tracks text (maxDepth + 1) body first here) ?_
  intro data rest stop _ after
  refine Follows.bind (skip_follows after) ?_
  intro last there _ end_
  split
  · rw [if_pos (end_.at_end.mpr rfl)]
    exact .ok data data rfl
  · next trailing =>
      rw [if_neg (mt end_.at_end.mp trailing)]
      exact .refused .trailingInput last there end_

end

theorem parse_agrees (text : String) : parse text.toList = (Literal.parse text).mapError .refused := by
  have follows := parse_follows text.toList
  rw [Literal.parse]
  generalize parseChars text.toList = scanned at *
  generalize parse text.toList = run at *
  cases follows with
  | ok a b same =>
      obtain rfl := same
      rfl
  | refused cause left offset place =>
      simp only [fail, refuse, Except.mapError]
      rw [place.within]

theorem refused_at (text : String) (error : LiteralError) (refused : Literal.parse text = .error error) :
    ∃ left, At text.toList left error.offset := by
  have agrees := parse_agrees text
  have follows := parse_follows text.toList
  rw [refused] at agrees
  rw [agrees] at follows
  generalize parseChars text.toList = scanned at *
  cases follows with
  | refused cause left offset place => exact ⟨left, place⟩

-- No text makes the parser take out a part between positions that do not bound one, or stop in any other
-- way than with data or with a refusal. What a refusal reports is a position between two characters.
theorem every_slice_on_boundaries (text : String) :
    parse text.toList = (Literal.parse text).mapError .refused ∧
      (∀ start stop, (∃ part, slice text.toList start stop = .ok part) ↔
        start ≤ stop ∧ String.Pos.Raw.IsValid text ⟨start⟩ ∧ String.Pos.Raw.IsValid text ⟨stop⟩) ∧
      (∀ halt, parse text.toList = .error halt → ∃ error, halt = .refused error) ∧
      ∀ error, Literal.parse text = .error error →
        error.offset ≤ text.utf8ByteSize ∧ String.Pos.Raw.IsValid text ⟨error.offset⟩ := by
  have agrees := parse_agrees text
  refine ⟨agrees, ?_, ?_, ?_⟩
  · intro start stop
    rw [slice_iff, at_iff_valid, at_iff_valid]
  · intro halt stopped
    rw [agrees] at stopped
    cases refused : Literal.parse text with
    | ok data =>
        rw [refused] at stopped
        cases stopped
    | error error =>
        rw [refused] at stopped
        exact ⟨error, (Except.error.inj stopped).symm⟩
  · intro error refused
    obtain ⟨left, place⟩ := refused_at text error refused
    have whole := place.size
    rw [size, octets_length, byte_count_size] at whole
    exact ⟨by omega, (at_iff_valid text error.offset).mp ⟨left, place⟩⟩

theorem escape_cut_short_on_boundary :
    Literal.parse "/* é */ \x7ba: 'ü\\" = .error ⟨.unterminatedEscape, 17⟩ ∧
      String.Pos.Raw.IsValid "/* é */ \x7ba: 'ü\\" ⟨17⟩ := by
  have refused : Literal.parse "/* é */ \x7ba: 'ü\\" = .error ⟨.unterminatedEscape, 17⟩ := rfl
  exact ⟨refused, ((every_slice_on_boundaries _).2.2.2 _ refused).2⟩

end ShaderKnobs.Literal.Cursor
