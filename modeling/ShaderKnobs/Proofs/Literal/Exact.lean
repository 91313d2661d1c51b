import ShaderKnobs.Proofs.Literal.Sequence

set_option autoImplicit false

namespace ShaderKnobs.Literal

theorem scanned_word (element : List Char → Json → List Char → Prop) (start : List Char) (data : Json)
    (rest : List Char) (scanned : scanWord start = .ok (data, rest)) : Level element start data rest := by
  have parts := List.takeWhile_append_dropWhile (p := isIdentRest) (l := start)
  unfold scanWord spanIdent at scanned
  dsimp only at scanned
  generalize start.takeWhile isIdentRest = word at *
  have spelled : ∀ (text : String) (known : Json), (text, known) ∈ words → String.ofList word = text →
      (.ok (known, start.dropWhile isIdentRest) : Scan (Json × List Char)) = .ok (data, rest) →
      Level element start data rest := by
    rintro _ known member rfl same
    obtain ⟨rfl, rfl⟩ := Prod.mk.inj (Except.ok.inj same)
    have level : Level element _ known _ := .word _ known (start.dropWhile isIdentRest) member
    rw [String.toList_ofList, parts] at level
    exact level
  split at scanned
  · next same => exact spelled "true" (.bool true) (by simp [words]) same scanned
  · next same => exact spelled "false" (.bool false) (by simp [words]) same scanned
  · next same => exact spelled "null" .null (by simp [words]) same scanned
  · next same => exact spelled "undefined" .null (by simp [words]) same scanned
  · cases scanned
  · cases scanned
  · cases scanned

theorem value_word (levels : Nat) (c : Char) (text : List Char) (start : isIdentStart c = true) :
    scanValue (levels + 1) (c :: text) = scanWord (c :: text) := by
  have noBrace : c ≠ '\x7b' := by
    rintro rfl
    cases start
  have noBracket : c ≠ '[' := by
    rintro rfl
    cases start
  have noQuote : ¬(c = '"' ∨ c = '\'') := by
    rintro (rfl | rfl) <;> cases start
  have noNumber : ¬(c.isDigit = true ∨ c = '-' ∨ c = '+' ∨ c = '.') := by
    rintro (digit | rfl | rfl | rfl)
    · exact digit_not_start c digit start
    · cases start
    · cases start
    · cases start
  rw [scanValue, if_neg noBrace, if_neg noBracket, if_neg noQuote, if_neg noNumber, if_pos start]

theorem value_number (levels : Nat) (c : Char) (text : List Char)
    (first : c.isDigit = true ∨ c = '-' ∨ c = '+' ∨ c = '.') :
    scanValue (levels + 1) (c :: text) = scanNumber (c :: text) := by
  have noBrace : c ≠ '\x7b' := by
    rintro rfl
    revert first
    decide
  have noBracket : c ≠ '[' := by
    rintro rfl
    revert first
    decide
  have noQuote : ¬(c = '"' ∨ c = '\'') := by
    rintro (rfl | rfl) <;> revert first <;> decide
  rw [scanValue, if_neg noBrace, if_neg noBracket, if_neg noQuote, if_pos first]

theorem scan_word (word : String) (data : Json) (rest : List Char) (known : (word, data) ∈ words) (ends : Ends rest) :
    scanWord (word.toList ++ rest) = .ok (data, rest) := by
  have inside : ∀ c ∈ word.toList, isIdentRest c = true := by
    simp only [words, List.mem_cons, Prod.mk.injEq, List.not_mem_nil, or_false] at known
    rcases known with ⟨rfl, _⟩ | ⟨rfl, _⟩ | ⟨rfl, _⟩ | ⟨rfl, _⟩ <;> exact List.all_eq_true.mp rfl
  simp only [scanWord]
  rw [ident_span word.toList rest inside ends]
  dsimp only
  rw [String.ofList_toList]
  simp only [words, List.mem_cons, Prod.mk.injEq, List.not_mem_nil, or_false] at known
  rcases known with ⟨rfl, rfl⟩ | ⟨rfl, rfl⟩ | ⟨rfl, rfl⟩ | ⟨rfl, rfl⟩ <;> rfl

theorem word_head (word : String) (data : Json) (known : (word, data) ∈ words) :
    ∃ c tail, word.toList = c :: tail ∧ isIdentStart c = true := by
  simp only [words, List.mem_cons, Prod.mk.injEq, List.not_mem_nil, or_false] at known
  rcases known with ⟨rfl, _⟩ | ⟨rfl, _⟩ | ⟨rfl, _⟩ | ⟨rfl, _⟩ <;> exact ⟨_, _, rfl, rfl⟩

theorem level_sound (levels : Nat) (element : List Char → Json → List Char → Prop)
    (reads : Reads (scanValue levels) element) (text : List Char) (data : Json) (rest : List Char)
    (scanned : scanValue (levels + 1) text = .ok (data, rest)) : Level element text data rest := by
  simp only [scanValue] at scanned
  split at scanned
  · cases scanned
  next c after =>
  split at scanned
  · next brace =>
      obtain ⟨⟨fields, last⟩, members, scanned⟩ := bind_ok _ _ _ scanned
      obtain ⟨rfl, rfl⟩ := Prod.mk.inj (Except.ok.inj scanned)
      obtain ⟨more, spelled, all⟩ := scanned_members _ element reads _ [] after fields last members
      rw [brace]
      exact .object after more fields last spelled ((gathers_iff more fields).mpr all)
  split at scanned
  · next bracket =>
      obtain ⟨⟨items, last⟩, elements, scanned⟩ := bind_ok _ _ _ scanned
      obtain ⟨rfl, rfl⟩ := Prod.mk.inj (Except.ok.inj scanned)
      obtain ⟨more, spelled, all⟩ := scanned_items _ element reads _ [] after items last elements
      obtain rfl : items = more := all
      rw [bracket]
      exact .array after items last spelled
  split at scanned
  · next isQuote =>
      obtain ⟨⟨value, last⟩, quoted, scanned⟩ := bind_ok _ _ _ scanned
      obtain ⟨rfl, rfl⟩ := Prod.mk.inj (Except.ok.inj scanned)
      exact .text _ value last (scanned_quoted c after value last isQuote quoted)
  split at scanned
  · exact .number _ data rest (scanned_number _ rest data scanned)
  split at scanned
  · exact scanned_word element _ data rest scanned
  · cases scanned

theorem scan_object (levels : Nat) (element : List Char → Json → List Char → Prop)
    (reads : Reads (scanValue levels) element) (text : List Char) (members : List (String × Json)) (fields : Fields)
    (rest : List Char) (sequence : Sequence '\x7d' (Member element) text members rest)
    (gathers : Gathers members fields) : scanValue (levels + 1) ('\x7b' :: text) = .ok (.object fields, rest) := by
  have found := scan_members _ element reads text members rest sequence (text.length + 1) [] (Nat.lt_succ_self _)
  rw [← (gathers_iff members fields).mp gathers] at found
  rw [scanValue, if_pos rfl, found]
  rfl

theorem level_complete (levels : Nat) (element : List Char → Json → List Char → Prop)
    (reads : Reads (scanValue levels) element) (text : List Char) (data : Json) (rest : List Char)
    (spelled : Level element text data rest) (ends : Ends rest) :
    scanValue (levels + 1) text = .ok (data, rest) := by
  cases spelled with
  | word word _ _ known =>
      have found := scan_word word data rest known ends
      obtain ⟨c, tail, shape, start⟩ := word_head word data known
      rw [shape, List.cons_append] at found ⊢
      rw [value_word levels c (tail ++ rest) start]
      exact found
  | text _ value _ quoted =>
      cases quoted with
      | mk quote text chars _ isQuote body =>
          have found := scan_quoted quote text _ rest (.mk quote text chars rest isQuote body)
          have noBrace : quote ≠ '\x7b' := by
            rcases isQuote with rfl | rfl <;> decide
          have noBracket : quote ≠ '[' := by
            rcases isQuote with rfl | rfl <;> decide
          rw [scanValue, if_neg noBrace, if_neg noBracket, if_pos isQuote, found]
          rfl
  | number _ _ _ number =>
      have found := scan_number text data rest number ends
      obtain ⟨c, tail, rfl, first⟩ := number_head text data rest number
      rw [value_number levels c tail first]
      exact found
  | array text items _ sequence =>
      have found := scan_items _ element reads text items rest sequence (text.length + 1) [] (Nat.lt_succ_self _)
      rw [scanValue, if_neg (by decide), if_pos rfl, found]
      rfl
  | object text members fields _ sequence gathers =>
      exact scan_object levels element reads text members fields rest sequence gathers

theorem level_begins (element : List Char → Json → List Char → Prop) (text : List Char) (data : Json)
    (rest : List Char) (spelled : Level element text data rest) : Begins text := by
  cases spelled with
  | word word _ _ known =>
      obtain ⟨c, tail, shape, start⟩ := word_head word data known
      rw [shape]
      exact ⟨c, tail ++ rest, rfl, ident_not_separator c (ident_start_rest c start)⟩
  | text _ value _ quoted => exact quoted_begins text value rest quoted
  | number _ _ _ number =>
      obtain ⟨c, tail, rfl, first⟩ := number_head text data rest number
      refine ⟨c, tail, rfl, ?_⟩
      rcases first with digit | rfl | rfl | rfl
      · exact ident_not_separator c (digit_ident c digit)
      · decide
      · decide
      · decide
  | array text items _ _ => exact ⟨'[', text, rfl, by decide⟩
  | object text members fields _ _ _ => exact ⟨'\x7b', text, rfl, by decide⟩

theorem level_shorter (levels : Nat) (element : List Char → Json → List Char → Prop)
    (reads : Reads (scanValue levels) element) (text : List Char) (data : Json) (rest : List Char)
    (spelled : Level element text data rest) : rest.length ≤ text.length := by
  cases spelled with
  | word word _ _ _ =>
      rw [List.length_append]
      omega
  | text _ value _ quoted => exact quoted_shorter text value rest quoted
  | number _ _ _ number => exact number_shorter text data rest number
  | array text items _ sequence =>
      exact Nat.le_succ_of_le (sequence_shorter _ element reads ']' text items rest sequence)
  | object text members fields _ sequence _ =>
      exact Nat.le_succ_of_le
        (sequence_shorter _ _ (member_reads _ element reads) '\x7d' text members rest sequence)

theorem level_reads (levels : Nat) (element : List Char → Json → List Char → Prop)
    (reads : Reads (scanValue levels) element) : Reads (scanValue (levels + 1)) (Level element) where
  sound := level_sound levels element reads
  complete := level_complete levels element reads
  begins := level_begins element
  shorter := level_shorter levels element reads

theorem nothing_reads : Reads (scanValue 0) fun _ _ _ => False where
  sound text data rest scanned := by cases scanned
  complete text data rest absent := absent.elim
  begins text data rest absent := absent.elim
  shorter text data rest absent := absent.elim

-- By induction on the depth: a scanner that allows no value stands under the innermost arrays.
theorem nested_reads (depth : Nat) : Reads (scanValue (depth + 1)) (Nested depth) := by
  induction depth with
  | zero => exact level_reads 0 (fun _ _ _ => False) nothing_reads
  | succ depth ih => exact level_reads (depth + 1) (Nested depth) ih

theorem parse_chars_exact (text : List Char) (data : Json) : parseChars text = .ok data ↔ Spells text data := by
  have reads := nested_reads maxDepth
  constructor
  · intro parsed
    obtain ⟨start, skipped, parsed⟩ := bind_ok _ _ _ parsed
    split at parsed
    · cases parsed
    obtain ⟨⟨value, next⟩, scanned, parsed⟩ := bind_ok _ _ _ parsed
    obtain ⟨stop, skipped', parsed⟩ := bind_ok _ _ _ parsed
    split at parsed
    · obtain rfl := Except.ok.inj parsed
      exact ⟨start, next, skipped_gap text start skipped, reads.sound start value next scanned,
        skipped_gap next [] skipped'⟩
    · cases parsed
  · rintro ⟨start, next, gap, spelled, gap'⟩
    have begins := reads.begins start data next spelled
    have ends := gap_ends next [] gap' fun c head => (by cases head)
    have found := reads.complete start data next spelled ends
    have skipped' := skip_gap next [] gap' fun c head => (by cases head)
    rw [parseChars, skip_gap text start gap (begins_no_gap start begins), ok_bind]
    obtain ⟨c, tail, rfl, _⟩ := begins
    dsimp only
    rw [found, ok_bind]
    dsimp only
    rw [skipped']
    rfl

theorem parse_exact (text : String) (data : Json) : parse text = .ok data ↔ Spells text.toList data := by
  rw [← parse_chars_exact, parse]
  constructor
  · exact map_error_ok _ _ data
  · intro parsed
    rw [parsed]
    rfl

theorem parsed_object (text : String) (fields : Fields) (parsed : parseObject text = .ok fields) :
    parse text = .ok (.object fields) := by
  obtain ⟨data, whole, parsed⟩ := bind_ok _ _ _ parsed
  split at parsed
  · obtain rfl := Except.ok.inj parsed
    exact whole
  · cases parsed

end ShaderKnobs.Literal
