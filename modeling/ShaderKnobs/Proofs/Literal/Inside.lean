import ShaderKnobs.Proofs.Literal.Unicode

set_option autoImplicit false

namespace ShaderKnobs.Literal

def Inner : Nat → List Char → Json → List Char → Prop
  | 0 => fun _ _ _ => False
  | depth + 1 => Nested depth

theorem inner_reads (levels : Nat) : Reads (scanValue levels) (Inner levels) := by
  cases levels with
  | zero => exact nothing_reads
  | succ depth => exact nested_reads depth

-- A sequence up to one of its elements, which need not be whole.
inductive UpTo {α : Type} (element : List Char → α → List Char → Prop) : List Char → List Char → Prop where
  | here (text body : List Char) : Gap text body → UpTo element text body
  | past (text body next after place : List Char) (a : α) : Gap text body → element body a next →
      Gap next (',' :: after) → UpTo element after place → UpTo element text place

-- A value of so many levels up to a string inside it, which is `quote` and what follows it.
inductive Holds (quote : Char) (string : List Char) : Nat → List Char → Prop where
  | here (levels : Nat) : Holds quote string (levels + 1) (quote :: string)
  | item (levels : Nat) (text body : List Char) : UpTo (Inner levels) text body → Holds quote string levels body →
      Holds quote string (levels + 1) ('[' :: text)
  | key (levels : Nat) (text : List Char) : UpTo (Member (Inner levels)) text (quote :: string) →
      Holds quote string (levels + 1) ('\x7b' :: text)
  | field (levels : Nat) (text body between after value : List Char) (key : String) :
      UpTo (Member (Inner levels)) text body → Key body key between → Gap between (':' :: after) → Gap after value →
      Holds quote string levels value → Holds quote string (levels + 1) ('\x7b' :: text)

structure StringIn (text : List Char) (quote : Char) (string : List Char) : Prop where
  quoted : quote = '"' ∨ quote = '\''
  place : ∃ start, Gap text start ∧ Holds quote string (maxDepth + 1) start

theorem quote_begins (quote : Char) (isQuote : quote = '"' ∨ quote = '\'') (string : List Char) :
    Begins (quote :: string) := by
  refine ⟨quote, string, rfl, ?_⟩
  rcases isQuote with rfl | rfl <;> decide

theorem holds_begins (quote : Char) (isQuote : quote = '"' ∨ quote = '\'') (string : List Char) (levels : Nat)
    (text : List Char) (holds : Holds quote string levels text) : Begins text := by
  cases holds with
  | here _ => exact quote_begins quote isQuote string
  | item _ text _ _ _ => exact ⟨'[', text, rfl, by decide⟩
  | key _ text _ => exact ⟨'\x7b', text, rfl, by decide⟩
  | field _ text _ _ _ _ _ _ _ _ _ _ => exact ⟨'\x7b', text, rfl, by decide⟩

-- By induction on the items before the one that is refused.
theorem items_refused (value : List Char → Scan (Json × List Char)) (element : List Char → Json → List Char → Prop)
    (reads : Reads value element) (text body : List Char) (way : UpTo element text body) (begins : Begins body)
    (failure : Failure) (refused : value body = .error failure) (fuel : Nat) (done : List Json)
    (enough : text.length < fuel) : scanItems value fuel done text = .error failure := by
  induction way generalizing fuel done with
  | here text body gap =>
      obtain ⟨fuel, rfl⟩ := Nat.exists_eq_add_one_of_ne_zero (Nat.ne_zero_of_lt enough)
      have skipped := skip_gap text body gap (begins_no_gap body begins)
      obtain ⟨c, tail, rfl, token⟩ := begins
      rw [scanItems, skipped, ok_bind]
      split
      · next shape => exact absurd (List.cons.inj shape).1 (token_open c ']' token rfl)
      · rw [refused]
        rfl
  | past text body next after place a gap first gap' _ ih =>
      obtain ⟨fuel, rfl⟩ := Nat.exists_eq_add_one_of_ne_zero (Nat.ne_zero_of_lt enough)
      obtain ⟨c, tail, token, skipped, read⟩ := reads_before _ _ reads text body next ',' after a gap first gap' rfl
      have round := items_round value fuel done text next c tail a skipped (token_open c ']' token rfl) read
      have shorter := round_shorter _ _ reads text body next ',' after a gap first gap'
      rw [round.1 after (skip_to next ',' after gap' rfl (by decide))]
      exact ih begins refused fuel (a :: done) (Nat.lt_of_lt_of_le shorter (Nat.le_of_lt_succ enough))

theorem members_refused (value : List Char → Scan (Json × List Char)) (element : List Char → Json → List Char → Prop)
    (reads : Reads value element) (text body : List Char) (way : UpTo (Member element) text body) (begins : Begins body)
    (failure : Failure) (refused : scanMember value body = .error failure) (fuel : Nat) (fields : Fields)
    (enough : text.length < fuel) : scanMembers value fuel fields text = .error failure := by
  have members := member_reads value element reads
  induction way generalizing fuel fields with
  | here text body gap =>
      obtain ⟨fuel, rfl⟩ := Nat.exists_eq_add_one_of_ne_zero (Nat.ne_zero_of_lt enough)
      have skipped := skip_gap text body gap (begins_no_gap body begins)
      obtain ⟨c, tail, rfl, token⟩ := begins
      rw [scanMembers, skipped, ok_bind]
      split
      · next shape => exact absurd (List.cons.inj shape).1 (token_open c '\x7d' token rfl)
      · rw [refused]
        rfl
  | past text body next after place a gap first gap' _ ih =>
      obtain ⟨fuel, rfl⟩ := Nat.exists_eq_add_one_of_ne_zero (Nat.ne_zero_of_lt enough)
      obtain ⟨c, tail, token, skipped, read⟩ := reads_before _ _ members text body next ',' after a gap first gap' rfl
      have round := members_round value fuel fields text next c tail a skipped (token_open c '\x7d' token rfl) read
      have shorter := round_shorter _ _ members text body next ',' after a gap first gap'
      rw [round.1 after (skip_to next ',' after gap' rfl (by decide))]
      exact ih begins refused fuel (Fields.put a.1 a.2 fields) (Nat.lt_of_lt_of_le shorter (Nat.le_of_lt_succ enough))

theorem key_refused (value : List Char → Scan (Json × List Char)) (quote : Char)
    (isQuote : quote = '"' ∨ quote = '\'') (string : List Char) (failure : Failure)
    (refused : scanString quote string = .error failure) : scanMember value (quote :: string) = .error failure := by
  rw [scanMember, scanKey, if_pos isQuote, refused]
  rfl

theorem field_refused (value : List Char → Scan (Json × List Char)) (text between after body : List Char) (key : String)
    (keyed : Key text key between) (gap : Gap between (':' :: after)) (gap' : Gap after body) (begins : Begins body)
    (failure : Failure) (refused : value body = .error failure) : scanMember value text = .error failure := by
  rw [member_at_value value text between after body key keyed gap gap' begins, refused]
  rfl

-- By induction on the arrays and objects around the string.
theorem holds_refused (quote : Char) (isQuote : quote = '"' ∨ quote = '\'') (string : List Char) (failure : Failure)
    (refused : scanString quote string = .error failure) (levels : Nat) (text : List Char)
    (holds : Holds quote string levels text) : scanValue levels text = .error failure := by
  have array : ∀ levels text, scanItems (scanValue levels) (text.length + 1) [] text = .error failure →
      scanValue (levels + 1) ('[' :: text) = .error failure := by
    intro levels text items
    rw [scanValue, if_neg (by decide), if_pos rfl, items]
    rfl
  have object : ∀ levels text, scanMembers (scanValue levels) (text.length + 1) [] text = .error failure →
      scanValue (levels + 1) ('\x7b' :: text) = .error failure := by
    intro levels text members
    rw [scanValue, if_pos rfl, members]
    rfl
  induction holds with
  | here levels =>
      have noBrace : quote ≠ '\x7b' := by
        rcases isQuote with rfl | rfl <;> decide
      have noBracket : quote ≠ '[' := by
        rcases isQuote with rfl | rfl <;> decide
      rw [scanValue, if_neg noBrace, if_neg noBracket, if_pos isQuote, refused]
      rfl
  | item levels text body way holds ih =>
      exact array levels text (items_refused _ _ (inner_reads levels) text body way
        (holds_begins quote isQuote string levels body holds) failure ih _ [] (Nat.lt_succ_self _))
  | key levels text way =>
      exact object levels text (members_refused _ _ (inner_reads levels) text _ way
        (quote_begins quote isQuote string) failure (key_refused _ quote isQuote string failure refused) _ []
        (Nat.lt_succ_self _))
  | field levels text body between after value key way keyed gap gap' holds ih =>
      have inside := field_refused (scanValue levels) body between after value key keyed gap gap'
        (holds_begins quote isQuote string levels value holds) failure ih
      exact object levels text (members_refused _ _ (inner_reads levels) text body way (key_begins body key between keyed)
        failure inside _ [] (Nat.lt_succ_self _))

theorem string_refused (text : String) (quote : Char) (string : List Char) (found : StringIn text.toList quote string)
    (failure : Failure) (refused : scanString quote string = .error failure) :
    parse text = .error (failure.within text.toList) := by
  obtain ⟨start, gap, holds⟩ := found.place
  have begins := holds_begins quote found.quoted string _ start holds
  have value := holds_refused quote found.quoted string failure refused _ start holds
  have chars : parseChars text.toList = .error failure := by
    rw [parseChars, skip_gap text.toList start gap (begins_no_gap start begins), ok_bind]
    obtain ⟨c, tail, rfl, _⟩ := begins
    dsimp only
    rw [value]
    rfl
  rw [parse, chars]
  rfl

theorem writes_head (c : Char) (form : List Char) (written : Writes c form) :
    ∃ d rest, form = d :: rest ∧ isHexDigit d = true := by
  have head : ∀ digits n, digits.length = 4 → Text.hexValue? digits = some n →
      ∃ d rest, digits = d :: rest ∧ isHexDigit d = true := by
    intro digits n four value
    cases digits with
    | nil => cases four
    | cons d rest => exact ⟨d, rest, rfl, hex_value_digits (d :: rest) n value d List.mem_cons_self⟩
  cases written with
  | unit _ four value => exact head form c.toNat four value
  | pair digits digits' high low four value _ _ _ _ _ =>
      obtain ⟨d, rest, rfl, digit⟩ := head digits high four value
      exact ⟨d, _, rfl, digit⟩

theorem signed_not_written (c d : Char) (form form' rest rest' : List Char) (signed : Signed c form)
    (written : Writes d form') : form ++ rest ≠ form' ++ rest' := by
  intro same
  obtain ⟨e, tail, rfl, digit⟩ := writes_head d form' written
  cases signed with
  | mk digits _ _ =>
      obtain ⟨rfl, _⟩ := List.cons.inj same
      cases digit

theorem well_formed_unless_signed (after : List Char) :
    (∀ c rest, scanUnicode after = .ok (c, rest) ↔ ∃ form, Writes c form ∧ after = form ++ rest) ↔
      ∀ c form rest, Signed c form → after ≠ form ++ rest := by
  constructor
  · rintro exact_ c form rest signed rfl
    obtain ⟨form', written, same⟩ := (exact_ c rest).mp ((scan_unicode_exact _ c rest).mpr ⟨form, .inr signed, rfl⟩)
    exact signed_not_written c c form form' rest rest signed written same
  · intro unsigned c rest
    rw [scan_unicode_exact]
    constructor
    · rintro ⟨form, written | signed, same⟩
      · exact ⟨form, written, same⟩
      · exact absurd same (unsigned c form rest signed)
    · rintro ⟨form, written, same⟩
      exact ⟨form, .inl written, same⟩

-- The escapes by code of any string of any literal: which are accepted, what they give and how far they
-- go, and that the literal is refused otherwise.
theorem escapes_by_code_exact (text : String) (quote : Char) (string chars after : List Char)
    (found : StringIn text.toList quote string) (way : Partway quote string chars ('\\' :: 'u' :: after)) :
    ((∀ c rest, scanUnicode after = .ok (c, rest) ↔ ∃ form, Writes c form ∧ after = form ++ rest) ↔
      ∀ c form rest, Signed c form → after ≠ form ++ rest) ∧
    (∀ value left, scanString quote string = .ok (value, left) ↔ ∃ c form next tail, (Writes c form ∨ Signed c form) ∧
      after = form ++ next ∧ Body quote next tail left ∧ value = String.ofList (chars ++ c :: tail)) ∧
    ((∀ c form next, Writes c form ∨ Signed c form → after ≠ form ++ next) → ∃ error, parse text = .error error) ∧
    (∀ c, ∃ form, Writes c form) ∧
    ∀ quote chars forms, quote = '"' ∨ quote = '\'' → List.Forall₂ Writes chars forms →
      parse (String.ofList (quote :: (codes forms ++ [quote]))) = .ok (.text (String.ofList chars)) := by
  have exact_ := scan_string_escape quote found.quoted string chars after way
  refine ⟨well_formed_unless_signed after, exact_, fun unwritten => ?_, writable,
    fun quote chars forms isQuote => codes_parsed quote isQuote chars forms⟩
  cases scanned : scanString quote string with
  | error failure => exact ⟨_, string_refused text quote string found failure scanned⟩
  | ok read =>
      obtain ⟨c, form, next, _, accepted, split_, _⟩ := (exact_ read.1 read.2).mp scanned
      exact absurd split_ (unwritten c form next accepted)

theorem lone_surrogate_inside :
    StringIn "\x7bk: [1, 'a\\ud83dq']\x7d".toList '\'' "a\\ud83dq']\x7d".toList where
  quoted := .inr rfl
  place := by
    have first : scanValue 63 "1, 'a\\ud83dq']\x7d".toList = .ok (.whole ⟨1, by decide⟩, ", 'a\\ud83dq']\x7d".toList) := rfl
    have items := UpTo.past _ _ _ _ _ _ (.none _) ((inner_reads 63).sound _ _ _ first) (.none _)
      (.here _ _ (.blank ' ' _ _ rfl (.none "'a\\ud83dq']\x7d".toList)))
    have value := Holds.item 63 _ _ items (.here 62)
    refine ⟨_, .none _, .field maxDepth _ _ _ _ _ _ (.here _ _ (.none _)) (.word 'k' [] _ rfl nofun) (.none _)
      (.blank ' ' _ _ rfl (.none _)) value⟩

theorem lone_surrogate_refused :
    StringIn "\x7bk: [1, 'a\\ud83dq']\x7d".toList '\'' "a\\ud83dq']\x7d".toList ∧
      Partway '\'' "a\\ud83dq']\x7d".toList ['a'] "\\ud83dq']\x7d".toList ∧
      (∃ error, parse "\x7bk: [1, 'a\\ud83dq']\x7d" = .error error) ∧
      List.Forall₂ Writes "é😀".toList ["00E9".toList, "d83d\\uDE00".toList] ∧
      parse "\"\\u00E9\\ud83d\\uDE00\"" = .ok (.text "é😀") := by
  have way : Partway '\'' "a\\ud83dq']\x7d".toList ['a'] "\\ud83dq']\x7d".toList :=
    .plain 'a' _ [] _ (by decide) (by decide) (by decide) (by decide) (.start _)
  have written : List.Forall₂ Writes "é😀".toList ["00E9".toList, "d83d\\uDE00".toList] :=
    .cons (.unit _ rfl rfl) (.cons (.pair "d83d".toList "DE00".toList 0xd83d 0xde00 rfl rfl rfl rfl (by decide) (by decide)
      rfl) .nil)
  obtain ⟨_, _, refuses, _, decodes⟩ := escapes_by_code_exact _ '\'' _ ['a'] "d83dq']\x7d".toList lone_surrogate_inside way
  have text : String.ofList ('"' :: (codes ["00E9".toList, "d83d\\uDE00".toList] ++ ['"'])) = "\"\\u00E9\\ud83d\\uDE00\"" := by
    decide
  have decoded := decodes '"' _ _ (.inl rfl) written
  rw [text] at decoded
  refine ⟨lone_surrogate_inside, way, ?_, written, decoded⟩
  refine refuses ?_
  intro c form next accepted split_
  have scanned := (scan_unicode_exact "d83dq']\x7d".toList c next).mpr ⟨form, accepted, split_⟩
  cases scanned

theorem plus_sign_read :
    parse "'\\u+041'" = .ok (.text "A") ∧ ∀ c form rest, Writes c form → "+041'".toList ≠ form ++ rest := by
  refine ⟨rfl, ?_⟩
  intro c form rest written same
  obtain ⟨d, tail, rfl, digit⟩ := writes_head c form written
  obtain ⟨rfl, _⟩ := List.cons.inj same
  cases digit

end ShaderKnobs.Literal
