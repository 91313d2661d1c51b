import ShaderKnobs.Proofs.Json.Fields
import ShaderKnobs.Proofs.Literal.Numerical

set_option autoImplicit false

namespace ShaderKnobs.Literal

-- A scanner reads what a relation describes, whenever something ends it.
structure Reads {α : Type} (scan : List Char → Scan (α × List Char)) (element : List Char → α → List Char → Prop) :
    Prop where
  sound : ∀ text a rest, scan text = .ok (a, rest) → element text a rest
  complete : ∀ text a rest, element text a rest → Ends rest → scan text = .ok (a, rest)
  begins : ∀ text a rest, element text a rest → Begins text
  shorter : ∀ text a rest, element text a rest → rest.length ≤ text.length

theorem ident_not_separator (c : Char) (ident : isIdentRest c = true) : isSeparator c = false := by
  cases separator : isSeparator c with
  | false => rfl
  | true =>
      rw [(separator_not_ident c separator).1] at ident
      cases ident

theorem ident_start_rest (c : Char) (start : isIdentStart c = true) : isIdentRest c = true := by
  simp only [isIdentStart, isIdentRest, Char.isAlphanum, Bool.or_eq_true] at start ⊢
  rcases start with (alpha | line) | dollar
  · exact .inl (.inl (.inl alpha))
  · exact .inl (.inr line)
  · exact .inr dollar

theorem ident_span (name rest : List Char) (inside : ∀ c ∈ name, isIdentRest c = true) (ends : Ends rest) :
    spanIdent (name ++ rest) = (name, rest) := by
  obtain ⟨front, back⟩ := Text.span_exact isIdentRest name rest inside fun c head => (separator_not_ident c (ends c head)).1
  rw [spanIdent, front, back]

theorem separator_ends (c : Char) (rest : List Char) (separator : isSeparator c = true) : Ends (c :: rest) := by
  intro d head
  obtain rfl := Option.some.inj head
  exact separator

theorem digit_not_start (c : Char) (digit : c.isDigit = true) : ¬isIdentStart c = true := by
  intro start
  have below : '9'.val.toNat < 'A'.val.toNat ∧ '9'.val.toNat < 'a'.val.toNat := by decide
  obtain ⟨_, last⟩ := (digit_iff c).mp digit
  simp only [isIdentStart, Bool.or_eq_true, beq_iff_eq, alpha_iff, upper_iff, lower_iff] at start
  rcases start with ((upper | lower) | rfl) | rfl
  · exact absurd (Nat.le_trans upper.1 last) (by decide)
  · exact absurd (Nat.le_trans lower.1 last) (by decide)
  · cases digit
  · cases digit

theorem scanned_key (text : List Char) (key : String) (rest : List Char) (scanned : scanKey text = .ok (key, rest)) :
    Key text key rest := by
  cases text with
  | nil => cases scanned
  | cons c text =>
      rw [scanKey] at scanned
      split at scanned
      · next isQuote => exact .quoted _ key rest (scanned_quoted c text key rest isQuote scanned)
      split at scanned
      · next start =>
          obtain ⟨rfl, rfl⟩ := Prod.mk.inj (Except.ok.inj scanned)
          have parts := List.takeWhile_append_dropWhile (p := isIdentRest) (l := text)
          have word := Key.word c (text.takeWhile isIdentRest) (text.dropWhile isIdentRest) start
            (Text.span_inside isIdentRest text)
          rw [parts] at word
          simpa [spanIdent, ident_start_rest c start] using word
      split at scanned
      · next digit =>
          obtain ⟨rfl, rfl⟩ := Prod.mk.inj (Except.ok.inj scanned)
          have parts := List.takeWhile_append_dropWhile (p := Char.isDigit) (l := c :: text)
          have some_ : (c :: text).takeWhile Char.isDigit ≠ [] := by
            simp [digit]
          have run := Key.digits _ ((c :: text).dropWhile Char.isDigit) some_ (Text.span_inside Char.isDigit (c :: text))
          rw [parts] at run
          exact run
      split at scanned <;> cases scanned

theorem scan_key (text : List Char) (key : String) (rest : List Char) (spelled : Key text key rest) (ends : Ends rest) :
    scanKey text = .ok (key, rest) := by
  cases spelled with
  | quoted _ _ _ quoted =>
      cases quoted with
      | mk quote text chars _ isQuote body =>
          rw [scanKey, if_pos isQuote]
          exact scan_quoted quote text _ rest (.mk quote text chars rest isQuote body)
  | word c name _ start inside =>
      have noQuote : ¬(c = '"' ∨ c = '\'') := by
        rintro (rfl | rfl) <;> cases start
      have whole : ∀ d ∈ c :: name, isIdentRest d = true := by
        intro d member
        rcases List.mem_cons.mp member with rfl | later
        · exact ident_start_rest d start
        · exact inside d later
      have span := ident_span (c :: name) rest whole ends
      rw [List.cons_append] at span
      rw [scanKey, if_neg noQuote, if_pos start, span]
  | digits digits _ some_ inside =>
      cases digits with
      | nil => exact absurd rfl some_
      | cons c digits =>
          have digit := inside c List.mem_cons_self
          have noQuote : ¬(c = '"' ∨ c = '\'') := by
            rintro (rfl | rfl) <;> cases digit
          have span := digits_span (c :: digits) rest inside fun c head => (ends_halts rest ends c head).1
          rw [List.cons_append] at span ⊢
          rw [scanKey, if_neg noQuote, if_neg (digit_not_start c digit), if_pos digit, span]

theorem quoted_begins (text : List Char) (value : String) (rest : List Char) (quoted : Quoted text value rest) :
    Begins text := by
  cases quoted with
  | mk quote text chars _ isQuote _ =>
      refine ⟨quote, text, rfl, ?_⟩
      rcases isQuote with rfl | rfl <;> decide

theorem key_begins (text : List Char) (key : String) (rest : List Char) (spelled : Key text key rest) :
    Begins text := by
  cases spelled with
  | quoted _ _ _ quoted => exact quoted_begins text key rest quoted
  | word c name _ start _ => exact ⟨c, name ++ rest, rfl, ident_not_separator c (ident_start_rest c start)⟩
  | digits digits _ some_ inside =>
      cases digits with
      | nil => exact absurd rfl some_
      | cons c digits =>
          have digit := inside c List.mem_cons_self
          exact ⟨c, digits ++ rest, rfl, ident_not_separator c (digit_ident c digit)⟩

theorem key_shorter (text : List Char) (key : String) (rest : List Char) (spelled : Key text key rest) :
    rest.length ≤ text.length := by
  cases spelled with
  | quoted _ _ _ quoted => exact quoted_shorter text key rest quoted
  | word c name _ _ _ =>
      rw [List.length_cons, List.length_append]
      omega
  | digits digits _ _ _ =>
      rw [List.length_append]
      omega

theorem skip_to (text : List Char) (c : Char) (rest : List Char) (gap : Gap text (c :: rest))
    (solid : Text.isAsciiBlank c = false) (slash : c ≠ '/') : skipTrivia text = .ok (c :: rest) :=
  skip_gap text _ gap (no_gap_cons c rest solid slash)

theorem member_at_value (value : List Char → Scan (Json × List Char)) (text between after body : List Char)
    (key : String) (keyed : Key text key between) (gap : Gap between (':' :: after)) (gap' : Gap after body)
    (begins : Begins body) : scanMember value text = value body >>= fun pair => .ok ((key, pair.1), pair.2) := by
  have ends := gap_ends between _ gap (separator_ends ':' after rfl)
  rw [scanMember, scan_key text key between keyed ends, ok_bind]
  dsimp only
  rw [skip_to between ':' after gap rfl (by decide), ok_bind]
  change (skipTrivia after >>= fun body => value body >>= fun pair => .ok ((key, pair.1), pair.2)) = _
  rw [skip_gap after body gap' (begins_no_gap body begins), ok_bind]

theorem member_reads (value : List Char → Scan (Json × List Char)) (element : List Char → Json → List Char → Prop)
    (reads : Reads value element) : Reads (scanMember value) (Member element) where
  sound text member rest scanned := by
    obtain ⟨⟨key, between⟩, keyed, scanned⟩ := bind_ok _ _ _ scanned
    obtain ⟨colon, skipped, scanned⟩ := bind_ok _ _ _ scanned
    dsimp only at scanned
    split at scanned
    · next after =>
        obtain ⟨body, skipped', scanned⟩ := bind_ok _ _ _ scanned
        obtain ⟨⟨data, last⟩, read, scanned⟩ := bind_ok _ _ _ scanned
        obtain ⟨rfl, rfl⟩ := Prod.mk.inj (Except.ok.inj scanned)
        exact .mk text between after body last key data (scanned_key text key between keyed)
          (skipped_gap between _ skipped) (skipped_gap after body skipped') (reads.sound body data last read)
    · cases scanned
  complete text member rest spelled ends := by
    cases spelled with
    | mk between after body _ key data keyed gap gap' spelled =>
        rw [member_at_value value text between after body key keyed gap gap' (reads.begins body data rest spelled),
          reads.complete body data rest spelled ends]
        rfl
  begins text member rest spelled := by
    cases spelled with
    | mk between after body _ key data keyed _ _ _ => exact key_begins text key between keyed
  shorter text member rest spelled := by
    cases spelled with
    | mk between after body _ key data keyed gap gap' spelled =>
        have first := key_shorter text key between keyed
        have second := gap_shorter between _ gap
        have third := gap_shorter after body gap'
        have fourth := reads.shorter body data rest spelled
        rw [List.length_cons] at second
        omega

theorem scanned_items (value : List Char → Scan (Json × List Char)) (element : List Char → Json → List Char → Prop)
    (reads : Reads value element) (fuel : Nat) (done : List Json) (text : List Char) (items : List Json)
    (rest : List Char) (scanned : scanItems value fuel done text = .ok (items, rest)) :
    ∃ more, Sequence ']' element text more rest ∧ items = done.reverse ++ more := by
  induction fuel generalizing done text with
  | zero => cases scanned
  | succ fuel ih =>
      obtain ⟨body, skipped, scanned⟩ := bind_ok _ _ _ scanned
      have gap := skipped_gap text body skipped
      split at scanned
      · obtain ⟨rfl, rfl⟩ := Prod.mk.inj (Except.ok.inj scanned)
        exact ⟨[], .close text _ gap, (List.append_nil _).symm⟩
      obtain ⟨⟨data, next⟩, read, scanned⟩ := bind_ok _ _ _ scanned
      have first := reads.sound body data next read
      obtain ⟨stop, skipped', scanned⟩ := bind_ok _ _ _ scanned
      have gap' := skipped_gap next stop skipped'
      split at scanned
      · next after =>
          obtain ⟨more, others, rfl⟩ := ih (data :: done) after scanned
          refine ⟨data :: more, .more text body next after rest data more gap first gap' others, ?_⟩
          rw [List.reverse_cons, List.append_assoc, List.singleton_append]
      · obtain ⟨rfl, rfl⟩ := Prod.mk.inj (Except.ok.inj scanned)
        exact ⟨[data], .last text body next _ data gap first gap', List.reverse_cons⟩
      · cases scanned
      · cases scanned

theorem items_round (value : List Char → Scan (Json × List Char)) (fuel : Nat) (done : List Json)
    (text next : List Char) (c : Char) (tail : List Char) (a : Json) (skipped : skipTrivia text = .ok (c :: tail))
    (open_ : c ≠ ']') (read : value (c :: tail) = .ok (a, next)) :
    (∀ after, skipTrivia next = .ok (',' :: after) →
      scanItems value (fuel + 1) done text = scanItems value fuel (a :: done) after) ∧
    ∀ rest, skipTrivia next = .ok (']' :: rest) →
      scanItems value (fuel + 1) done text = .ok ((a :: done).reverse, rest) := by
  constructor <;> intro after stop <;> rw [scanItems, skipped, ok_bind] <;> split
  · next shape => exact absurd (List.cons.inj shape).1 open_
  · rw [read, ok_bind]
    dsimp only
    rw [stop]
    rfl
  · next shape => exact absurd (List.cons.inj shape).1 open_
  · rw [read, ok_bind]
    dsimp only
    rw [stop]
    rfl

theorem reads_before {α : Type} (scan : List Char → Scan (α × List Char)) (element : List Char → α → List Char → Prop)
    (reads : Reads scan element) (text body next : List Char) (c : Char) (rest : List Char) (a : α)
    (gap : Gap text body) (spelled : element body a next) (gap' : Gap next (c :: rest))
    (separator : isSeparator c = true) :
    ∃ d tail, isSeparator d = false ∧ skipTrivia text = .ok (d :: tail) ∧ scan (d :: tail) = .ok (a, next) := by
  have begins := reads.begins body a next spelled
  have ends := gap_ends next _ gap' (separator_ends c rest separator)
  have skipped := skip_gap text body gap (begins_no_gap body begins)
  obtain ⟨d, tail, rfl, token⟩ := begins
  exact ⟨d, tail, token, skipped, reads.complete _ a next spelled ends⟩

theorem token_open (c close : Char) (token : isSeparator c = false) (separator : isSeparator close = true) :
    c ≠ close := by
  rintro rfl
  rw [token] at separator
  cases separator

theorem round_shorter {α : Type} (scan : List Char → Scan (α × List Char)) (element : List Char → α → List Char → Prop)
    (reads : Reads scan element) (text body next : List Char) (c : Char) (rest : List Char) (a : α)
    (gap : Gap text body) (spelled : element body a next) (gap' : Gap next (c :: rest)) :
    rest.length < text.length := by
  have first := gap_shorter text body gap
  have second := reads.shorter body a next spelled
  have third := gap_shorter next _ gap'
  rw [List.length_cons] at third
  omega

theorem scan_items (value : List Char → Scan (Json × List Char)) (element : List Char → Json → List Char → Prop)
    (reads : Reads value element) (text : List Char) (more : List Json) (rest : List Char)
    (spelled : Sequence ']' element text more rest) (fuel : Nat) (done : List Json) (enough : text.length < fuel) :
    scanItems value fuel done text = .ok (done.reverse ++ more, rest) := by
  induction spelled generalizing fuel done with
  | close text rest gap =>
      obtain ⟨fuel, rfl⟩ := Nat.exists_eq_add_one_of_ne_zero (Nat.ne_zero_of_lt enough)
      rw [scanItems, skip_to text ']' rest gap rfl (by decide), ok_bind, List.append_nil]
      rfl
  | last text body next rest a gap first gap' =>
      obtain ⟨fuel, rfl⟩ := Nat.exists_eq_add_one_of_ne_zero (Nat.ne_zero_of_lt enough)
      obtain ⟨c, tail, token, skipped, read⟩ := reads_before value element reads text body next ']' rest a gap first gap' rfl
      have round := items_round value fuel done text next c tail a skipped (token_open c ']' token rfl) read
      rw [round.2 rest (skip_to next ']' rest gap' rfl (by decide)), List.reverse_cons]
  | more text body next after rest a others gap first gap' _ ih =>
      obtain ⟨fuel, rfl⟩ := Nat.exists_eq_add_one_of_ne_zero (Nat.ne_zero_of_lt enough)
      obtain ⟨c, tail, token, skipped, read⟩ := reads_before value element reads text body next ',' after a gap first gap' rfl
      have round := items_round value fuel done text next c tail a skipped (token_open c ']' token rfl) read
      have shorter := round_shorter value element reads text body next ',' after a gap first gap'
      have enough' : after.length < fuel := Nat.lt_of_lt_of_le shorter (Nat.le_of_lt_succ enough)
      rw [round.1 after (skip_to next ',' after gap' rfl (by decide)), ih fuel (a :: done) enough', List.reverse_cons,
        List.append_assoc, List.singleton_append]

def putAll (fields : Fields) (members : List (String × Json)) : Fields :=
  members.foldl (fun fields member => Fields.put member.1 member.2 fields) fields

theorem scanned_members (value : List Char → Scan (Json × List Char))
    (element : List Char → Json → List Char → Prop) (reads : Reads value element) (fuel : Nat) (fields : Fields)
    (text : List Char) (all : Fields) (rest : List Char)
    (scanned : scanMembers value fuel fields text = .ok (all, rest)) :
    ∃ more, Sequence '\x7d' (Member element) text more rest ∧ all = putAll fields more := by
  induction fuel generalizing fields text with
  | zero => cases scanned
  | succ fuel ih =>
      obtain ⟨body, skipped, scanned⟩ := bind_ok _ _ _ scanned
      have gap := skipped_gap text body skipped
      split at scanned
      · obtain ⟨rfl, rfl⟩ := Prod.mk.inj (Except.ok.inj scanned)
        exact ⟨[], .close text _ gap, rfl⟩
      obtain ⟨⟨⟨key, data⟩, next⟩, read, scanned⟩ := bind_ok _ _ _ scanned
      have first := (member_reads value element reads).sound body (key, data) next read
      obtain ⟨stop, skipped', scanned⟩ := bind_ok _ _ _ scanned
      have gap' := skipped_gap next stop skipped'
      split at scanned
      · next after =>
          obtain ⟨more, others, rfl⟩ := ih (Fields.put key data fields) after scanned
          exact ⟨(key, data) :: more, .more text body next after rest (key, data) more gap first gap' others, rfl⟩
      · obtain ⟨rfl, rfl⟩ := Prod.mk.inj (Except.ok.inj scanned)
        exact ⟨[(key, data)], .last text body next _ (key, data) gap first gap', rfl⟩
      · cases scanned
      · cases scanned

theorem members_round (value : List Char → Scan (Json × List Char)) (fuel : Nat) (fields : Fields)
    (text next : List Char) (c : Char) (tail : List Char) (member : String × Json)
    (skipped : skipTrivia text = .ok (c :: tail)) (open_ : c ≠ '\x7d')
    (read : scanMember value (c :: tail) = .ok (member, next)) :
    (∀ after, skipTrivia next = .ok (',' :: after) →
      scanMembers value (fuel + 1) fields text = scanMembers value fuel (Fields.put member.1 member.2 fields) after) ∧
    ∀ rest, skipTrivia next = .ok ('\x7d' :: rest) →
      scanMembers value (fuel + 1) fields text = .ok (Fields.put member.1 member.2 fields, rest) := by
  constructor <;> intro after stop <;> rw [scanMembers, skipped, ok_bind] <;> split
  · next shape => exact absurd (List.cons.inj shape).1 open_
  · rw [read, ok_bind]
    dsimp only
    rw [stop]
    rfl
  · next shape => exact absurd (List.cons.inj shape).1 open_
  · rw [read, ok_bind]
    dsimp only
    rw [stop]
    rfl

theorem scan_members (value : List Char → Scan (Json × List Char))
    (element : List Char → Json → List Char → Prop) (reads : Reads value element) (text : List Char)
    (more : List (String × Json)) (rest : List Char) (spelled : Sequence '\x7d' (Member element) text more rest)
    (fuel : Nat) (fields : Fields) (enough : text.length < fuel) :
    scanMembers value fuel fields text = .ok (putAll fields more, rest) := by
  have members := member_reads value element reads
  induction spelled generalizing fuel fields with
  | close text rest gap =>
      obtain ⟨fuel, rfl⟩ := Nat.exists_eq_add_one_of_ne_zero (Nat.ne_zero_of_lt enough)
      rw [scanMembers, skip_to text '\x7d' rest gap rfl (by decide), ok_bind]
      rfl
  | last text body next rest a gap first gap' =>
      obtain ⟨fuel, rfl⟩ := Nat.exists_eq_add_one_of_ne_zero (Nat.ne_zero_of_lt enough)
      obtain ⟨c, tail, token, skipped, read⟩ := reads_before _ _ members text body next '\x7d' rest a gap first gap' rfl
      have round := members_round value fuel fields text next c tail a skipped (token_open c '\x7d' token rfl) read
      exact round.2 rest (skip_to next '\x7d' rest gap' rfl (by decide))
  | more text body next after rest a others gap first gap' _ ih =>
      obtain ⟨fuel, rfl⟩ := Nat.exists_eq_add_one_of_ne_zero (Nat.ne_zero_of_lt enough)
      obtain ⟨c, tail, token, skipped, read⟩ := reads_before _ _ members text body next ',' after a gap first gap' rfl
      have round := members_round value fuel fields text next c tail a skipped (token_open c '\x7d' token rfl) read
      have shorter := round_shorter _ _ members text body next ',' after a gap first gap'
      have enough' : after.length < fuel := Nat.lt_of_lt_of_le shorter (Nat.le_of_lt_succ enough)
      rw [round.1 after (skip_to next ',' after gap' rfl (by decide))]
      exact ih fuel (Fields.put a.1 a.2 fields) enough'

theorem sequence_shorter {α : Type} (scan : List Char → Scan (α × List Char))
    (element : List Char → α → List Char → Prop) (reads : Reads scan element) (closing : Char) (text : List Char)
    (more : List α) (rest : List Char) (spelled : Sequence closing element text more rest) :
    rest.length ≤ text.length := by
  induction spelled with
  | close text rest gap =>
      have shorter := gap_shorter text _ gap
      rw [List.length_cons] at shorter
      omega
  | last text body next rest a gap first gap' =>
      exact Nat.le_of_lt (round_shorter scan element reads text body next closing rest a gap first gap')
  | more text body next after rest a others gap first gap' _ ih =>
      exact Nat.le_trans ih (Nat.le_of_lt (round_shorter scan element reads text body next ',' after a gap first gap'))

theorem gathers_iff (members : List (String × Json)) (fields : Fields) :
    Gathers members fields ↔ fields = putAll [] members := by
  obtain ⟨rising, found⟩ := Fields.put_all members [] .nil
  constructor
  · intro gathers
    refine Fields.rising_unique fields _ gathers.rising rising fun key => ?_
    rw [gathers.last, putAll, found, Fields.get?, Option.or_none]
  · rintro rfl
    refine ⟨rising, fun key => ?_⟩
    rw [putAll, found, Fields.get?, Option.or_none]

end ShaderKnobs.Literal
