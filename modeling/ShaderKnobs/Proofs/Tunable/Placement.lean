import ShaderKnobs.Proofs.Text.Span
import ShaderKnobs.Proofs.Tunable.Scan

set_option autoImplicit false

namespace ShaderKnobs.Tunable

open Text (Run isBlank isWord)

-- One way to lay an annotation out on a line: each piece of the line in turn, and what it is made of.
structure Placement (line : List Char) where
  before : List Char
  toType : List Char
  type : List Char
  toName : List Char
  name : List Char
  toMark : List Char
  mark : List Char
  toComment : List Char
  toTag : List Char
  literal : List Char
  after : List Char
  spelled : line = before ++ "uniform".toList ++ toType ++ type ++ toName ++ name ++ toMark ++ mark ++ toComment ++
    "//".toList ++ toTag ++ "ts(".toList ++ literal ++ ")".toList ++ after
  apart : toType ≠ [] ∧ toName ≠ []
  blank : Run isBlank toType ∧ Run isBlank toName ∧ Run isBlank toMark ∧ Run isBlank toComment ∧ Run isBlank toTag
  words : type ≠ [] ∧ Run isWord type ∧ name ≠ [] ∧ Run isWord name
  optional : mark = [] ∨ mark = [';']
  some_ : literal ≠ []

namespace Placement

variable {line : List Char}

def parts (p : Placement line) : Parts := ⟨p.type, p.name, p.literal⟩

def First (p : Placement line) : Prop := ∀ q : Placement line, p.before.length ≤ q.before.length

def Full (p : Placement line) : Prop := ')' ∉ p.after

end Placement

theorem after_word (word text rest : List Char) : afterWord? word text = some rest ↔ text = word ++ rest := by
  induction word generalizing text with
  | nil => simp [afterWord?]
  | cons c word ih =>
      cases text with
      | nil => simp [afterWord?]
      | cons d text =>
          by_cases same : c = d
          · simp [afterWord?, same, ih]
          · simp [afterWord?, same, Ne.symm same]

theorem skip_blanks_exact (gap rest : List Char) (blank : Run isBlank gap)
    (stop : ∀ c, rest.head? = some c → isBlank c = false) : skipBlanks (gap ++ rest) = rest :=
  (Text.span_exact isBlank gap rest blank stop).2

theorem skipped_blanks (text : List Char) : ∃ gap, Run isBlank gap ∧ text = gap ++ skipBlanks text :=
  ⟨text.takeWhile isBlank, Text.span_inside isBlank text, List.takeWhile_append_dropWhile.symm⟩

theorem after_blanks_exact (gap rest : List Char) (some_ : gap ≠ []) (blank : Run isBlank gap)
    (stop : ∀ c, rest.head? = some c → isBlank c = false) : afterBlanks? (gap ++ rest) = some rest := by
  cases gap with
  | nil => exact absurd rfl some_
  | cons c gap =>
      have later : Run isBlank gap := fun d member => blank d (List.mem_cons_of_mem c member)
      rw [List.cons_append, afterBlanks?, if_pos (blank c List.mem_cons_self), skip_blanks_exact gap rest later stop]

theorem passed_blanks (text rest : List Char) (passed : afterBlanks? text = some rest) :
    ∃ gap, gap ≠ [] ∧ Run isBlank gap ∧ text = gap ++ rest := by
  cases text with
  | nil => cases passed
  | cons c text =>
      rw [afterBlanks?] at passed
      split at passed
      · next blank =>
          obtain rfl := Option.some.inj passed
          obtain ⟨gap, inside, split_⟩ := skipped_blanks text
          refine ⟨c :: gap, List.cons_ne_nil c gap, ?_, congrArg (List.cons c) split_⟩
          intro d member
          rcases List.mem_cons.mp member with rfl | later
          · exact blank
          · exact inside d later
      · cases passed

theorem take_word_exact (word rest : List Char) (some_ : word ≠ []) (inside : Run isWord word)
    (stop : ∀ c, rest.head? = some c → isWord c = false) : takeWord? (word ++ rest) = some (word, rest) := by
  obtain ⟨front, back⟩ := Text.span_exact isWord word rest inside stop
  rw [takeWord?, front, back]
  cases word with
  | nil => exact absurd rfl some_
  | cons c word => rfl

theorem taken_word (text word rest : List Char) (taken : takeWord? text = some (word, rest)) :
    word ≠ [] ∧ Run isWord word ∧ text = word ++ rest := by
  have parts := List.takeWhile_append_dropWhile (p := isWord) (l := text)
  have inside := Text.span_inside isWord text
  rw [takeWord?] at taken
  split at taken
  · cases taken
  · next some_ =>
      obtain ⟨rfl, rfl⟩ := Prod.mk.inj (Option.some.inj taken)
      exact ⟨some_, inside, parts.symm⟩

theorem skipped_semicolon (text : List Char) :
    ∃ mark, (mark = [] ∨ mark = [';']) ∧ text = mark ++ skipSemicolon text := by
  unfold skipSemicolon
  split
  · exact ⟨[';'], .inr rfl, rfl⟩
  · exact ⟨[], .inl rfl, rfl⟩

theorem skip_mark (toMark mark toComment rest : List Char) (blank : Run isBlank toMark)
    (blank' : Run isBlank toComment) (optional : mark = [] ∨ mark = [';']) :
    skipBlanks (skipSemicolon (skipBlanks (toMark ++ (mark ++ (toComment ++ ("//".toList ++ rest)))))) =
      "//".toList ++ rest := by
  change skipBlanks (skipSemicolon (skipBlanks (toMark ++ (mark ++ (toComment ++ '/' :: '/' :: rest))))) = '/' :: '/' :: rest
  have solid : ∀ c, ('/' :: '/' :: rest).head? = some c → isBlank c = false := by
    intro c head
    obtain rfl := Option.some.inj head
    rfl
  rcases optional with rfl | rfl
  · have gap : Run isBlank (toMark ++ toComment) := fun c member =>
      (List.mem_append.mp member).elim (blank c) (blank' c)
    have first := skip_blanks_exact (toMark ++ toComment) ('/' :: '/' :: rest) gap solid
    rw [List.append_assoc] at first
    rw [List.nil_append, first, skipSemicolon]
    · exact skip_blanks_exact [] ('/' :: '/' :: rest) (fun c member => nomatch member) solid
    · intro _ same
      cases same
  · rw [skip_blanks_exact toMark _ blank, List.singleton_append, skipSemicolon]
    · exact skip_blanks_exact toComment ('/' :: '/' :: rest) blank' solid
    · intro c head
      obtain rfl := Option.some.inj head
      rfl

theorem before_last_paren (text front : List Char) :
    beforeLastParen? text = some front ↔ ∃ after, text = front ++ ')' :: after ∧ ')' ∉ after := by
  have parts := List.takeWhile_append_dropWhile (p := (· ≠ ')')) (l := text.reverse)
  have inside := Text.span_inside (· ≠ ')') text.reverse
  rw [beforeLastParen?]
  constructor
  · intro found
    split at found
    · cases found
    · next c front' stop =>
        obtain rfl := Option.some.inj found
        have closing : c = ')' := by
          have head := List.head?_dropWhile_not (· ≠ ')') text.reverse
          rw [stop] at head
          simpa using head
        rw [stop, closing] at parts
        refine ⟨(text.reverse.takeWhile (· ≠ ')')).reverse, ?_, ?_⟩
        · have whole := congrArg List.reverse parts
          simpa using whole.symm
        · rw [List.mem_reverse]
          intro member
          simpa using inside ')' member
  · rintro ⟨after, rfl, plain⟩
    have run : Run (· ≠ ')') after.reverse := by
      intro c member
      rw [List.mem_reverse] at member
      have other : c ≠ ')' := fun same => plain (same ▸ member)
      simpa using other
    have back := (Text.span_exact (· ≠ ')') after.reverse (')' :: front.reverse) run (by simp)).2
    rw [List.reverse_append, List.reverse_cons, List.append_assoc, List.singleton_append, back]
    simp

theorem take_literal (text literal : List Char) :
    takeLiteral? text = some literal ↔ literal ≠ [] ∧ ∃ after, text = literal ++ ')' :: after ∧ ')' ∉ after := by
  cases text with
  | nil => simp [takeLiteral?]
  | cons c text =>
      rw [takeLiteral?, Option.map_eq_some_iff]
      constructor
      · rintro ⟨front, found, rfl⟩
        obtain ⟨after, rfl, plain⟩ := (before_last_paren text front).mp found
        exact ⟨List.cons_ne_nil c front, after, rfl, plain⟩
      · rintro ⟨some_, after, split_, plain⟩
        cases literal with
        | nil => exact absurd rfl some_
        | cons d front =>
            obtain ⟨rfl, rfl⟩ := List.cons.inj split_
            exact ⟨front, (before_last_paren _ front).mpr ⟨after, rfl, plain⟩, rfl⟩

-- A closing parenthesis after the first character is enough, and the literal then goes beyond the text
-- before it, or stops there.
theorem literal_taken (literal after : List Char) (some_ : literal ≠ []) :
    ∃ taken, takeLiteral? (literal ++ ')' :: after) = some taken ∧ literal <+: taken := by
  have member : ')' ∈ (')' :: after).reverse := by simp
  obtain ⟨tail, front, split_, plain⟩ := List.eq_append_cons_of_mem member
  have whole : ')' :: after = front.reverse ++ ')' :: tail.reverse := by
    have reversed := congrArg List.reverse split_
    simpa using reversed
  refine ⟨literal ++ front.reverse, (take_literal _ _).mpr ⟨?_, tail.reverse, ?_, ?_⟩, List.prefix_append _ _⟩
  · exact fun empty => some_ (List.append_eq_nil_iff.mp empty).1
  · rw [whole, List.append_assoc]
  · rw [List.mem_reverse]
    exact plain

-- What the pattern reads in front of a literal: the type, the name and the text after `ts(`.
def heading? (text : List Char) : Option (List Char × List Char × List Char) := do
  let rest ← afterWord? "uniform".toList text
  let rest ← afterBlanks? rest
  let (type, rest) ← takeWord? rest
  let rest ← afterBlanks? rest
  let (name, rest) ← takeWord? rest
  let rest ← afterWord? "//".toList (skipBlanks (skipSemicolon (skipBlanks rest)))
  let rest ← afterWord? "ts(".toList (skipBlanks rest)
  some (type, name, rest)

theorem match_here (text : List Char) :
    matchHere? text = (heading? text).bind fun found =>
      (takeLiteral? found.2.2).map fun literal => ⟨found.1, found.2.1, literal⟩ := by
  simp only [matchHere?, heading?, Option.bind_eq_bind, Option.bind_assoc, Option.bind_some, Option.map_eq_bind]
  rfl

theorem word_not_gap (word rest : List Char) (some_ : word ≠ []) (inside : Run isWord word) (c : Char)
    (head : (word ++ rest).head? = some c) : isBlank c = false := by
  cases word with
  | nil => exact absurd rfl some_
  | cons d word =>
      obtain rfl := Option.some.inj head
      exact Text.word_not_blank d (inside d List.mem_cons_self)

theorem gap_not_word (gap rest : List Char) (blank : Run isBlank gap)
    (stop : gap = [] → ∀ c, rest.head? = some c → isWord c = false) (c : Char) (head : (gap ++ rest).head? = some c) :
    isWord c = false := by
  cases gap with
  | nil => exact stop rfl c head
  | cons d gap =>
      obtain rfl := Option.some.inj head
      exact Text.blank_not_word d (blank d List.mem_cons_self)

theorem mark_not_word (mark toComment rest : List Char) (optional : mark = [] ∨ mark = [';'])
    (blank : Run isBlank toComment) (c : Char) (head : (mark ++ (toComment ++ ("//".toList ++ rest))).head? = some c) :
    isWord c = false := by
  rcases optional with rfl | rfl
  · refine gap_not_word toComment _ blank (fun _ d first => ?_) c head
    obtain rfl := Option.some.inj first
    decide +kernel
  · obtain rfl := Option.some.inj head
    decide +kernel

-- The pieces of a placement are found where they stand, since each ends where the next cannot go on.
theorem Placement.heading {line : List Char} (p : Placement line) :
    ∃ text, line = p.before ++ text ∧ heading? text = some (p.type, p.name, p.literal ++ ')' :: p.after) := by
  obtain ⟨toType, toName, toMark, toComment, toTag⟩ := p.blank
  obtain ⟨type, typeWord, name, nameWord⟩ := p.words
  have tag : ∀ c, ("ts(".toList ++ (p.literal ++ (")".toList ++ p.after))).head? = some c → isBlank c = false := by
    intro c head
    obtain rfl := Option.some.inj head
    rfl
  have afterType := gap_not_word p.toName (p.name ++ (p.toMark ++ (p.mark ++ (p.toComment ++ ("//".toList ++ (p.toTag ++
    ("ts(".toList ++ (p.literal ++ (")".toList ++ p.after))))))))) toName fun empty => absurd empty p.apart.2
  have afterName := gap_not_word p.toMark _ toMark fun _ => mark_not_word p.mark p.toComment (p.toTag ++ ("ts(".toList ++
    (p.literal ++ (")".toList ++ p.after)))) p.optional toComment
  refine ⟨_, by simpa only [List.append_assoc] using p.spelled, ?_⟩
  simp only [heading?, Option.bind_eq_bind]
  rw [(after_word _ _ _).mpr rfl, Option.bind_some,
    after_blanks_exact _ _ p.apart.1 toType (word_not_gap _ _ type typeWord), Option.bind_some,
    take_word_exact _ _ type typeWord afterType, Option.bind_some,
    after_blanks_exact _ _ p.apart.2 toName (word_not_gap _ _ name nameWord), Option.bind_some,
    take_word_exact _ _ name nameWord afterName, Option.bind_some]
  dsimp only
  rw [skip_mark p.toMark p.mark p.toComment _ toMark toComment p.optional, (after_word _ _ _).mpr rfl, Option.bind_some,
    skip_blanks_exact _ _ toTag tag, (after_word _ _ _).mpr rfl, Option.bind_some]
  rfl

theorem heading_placed (before text type name literal after : List Char)
    (found : heading? text = some (type, name, literal ++ ')' :: after)) (some_ : literal ≠ []) :
    ∃ p : Placement (before ++ text), p.before = before ∧ p.parts = ⟨type, name, literal⟩ ∧ p.after = after := by
  simp only [heading?, Option.bind_eq_bind, Option.bind_eq_some_iff] at found
  obtain ⟨afterUniform, word, atType, gap, ⟨type', afterType⟩, typed, atName, gap', ⟨name', afterName⟩, named, inComment,
    comment, inTag, tag, same⟩ := found
  obtain ⟨rfl, rest⟩ := Prod.mk.inj (Option.some.inj same)
  obtain ⟨rfl, rfl⟩ := Prod.mk.inj rest
  obtain ⟨toType, typeApart, typeBlank, toType_⟩ := passed_blanks _ _ gap
  obtain ⟨toName, nameApart, nameBlank, toName_⟩ := passed_blanks _ _ gap'
  obtain ⟨typeSome, typeWord, type_⟩ := taken_word _ _ _ typed
  obtain ⟨nameSome, nameWord, name_⟩ := taken_word _ _ _ named
  obtain ⟨toMark, markBlank, toMark_⟩ := skipped_blanks afterName
  obtain ⟨mark, optional, mark_⟩ := skipped_semicolon (skipBlanks afterName)
  obtain ⟨toComment, commentBlank, toComment_⟩ := skipped_blanks (skipSemicolon (skipBlanks afterName))
  obtain ⟨toTag, tagBlank, toTag_⟩ := skipped_blanks inComment
  dsimp only at toName_ name_ toMark_ mark_ toComment_
  rw [(after_word _ _ _).mp comment] at toComment_
  rw [(after_word _ _ _).mp tag] at toTag_
  have spelled : text = "uniform".toList ++ (toType ++ (type' ++ (toName ++ (name' ++ (toMark ++ (mark ++ (toComment ++
      ("//".toList ++ (toTag ++ ("ts(".toList ++ (literal ++ ')' :: after))))))))))) := by
    rw [(after_word _ _ _).mp word, toType_, type_, toName_, name_, toMark_, mark_, toComment_, toTag_]
  refine ⟨⟨before, toType, type', toName, name', toMark, mark, toComment, toTag, literal, after, ?_,
    ⟨typeApart, nameApart⟩, ⟨typeBlank, nameBlank, markBlank, commentBlank, tagBlank⟩,
    ⟨typeSome, typeWord, nameSome, nameWord⟩, optional, some_⟩, rfl, rfl, rfl⟩
  rw [spelled]
  simp only [List.append_assoc]
  rfl

theorem Placement.same_heading {line : List Char} (p q : Placement line) (start : p.before.length = q.before.length) :
    p.type = q.type ∧ p.name = q.name ∧ p.literal ++ ')' :: p.after = q.literal ++ ')' :: q.after := by
  obtain ⟨text, split_, found⟩ := p.heading
  obtain ⟨text', split', found'⟩ := q.heading
  obtain ⟨_, rfl⟩ := List.append_inj (split_.symm.trans split') start
  obtain ⟨type, rest⟩ := Prod.mk.inj (Option.some.inj (found.symm.trans found'))
  obtain ⟨name, literal⟩ := Prod.mk.inj rest
  exact ⟨type, name, literal⟩

theorem match_here_placed (before text : List Char) (parts : Parts) (found : matchHere? text = some parts) :
    ∃ p : Placement (before ++ text), p.before = before ∧ p.parts = parts ∧ p.Full := by
  rw [match_here, Option.bind_eq_some_iff] at found
  obtain ⟨⟨type, name, rest⟩, heading, found⟩ := found
  obtain ⟨literal, taken, rfl⟩ := Option.map_eq_some_iff.mp found
  obtain ⟨some_, after, split_, plain⟩ := (take_literal _ _).mp taken
  dsimp only at split_
  rw [split_] at heading
  obtain ⟨p, start, parts, rest⟩ := heading_placed before text type name literal after heading some_
  exact ⟨p, start, parts, fun member => plain (rest ▸ member)⟩

theorem Placement.matched {line : List Char} (p : Placement line) :
    ∃ text, line = p.before ++ text ∧ ∃ literal, p.literal <+: literal ∧
      matchHere? text = some ⟨p.type, p.name, literal⟩ := by
  obtain ⟨text, split_, found⟩ := p.heading
  obtain ⟨literal, taken, longer⟩ := literal_taken p.literal p.after p.some_
  refine ⟨text, split_, literal, longer, ?_⟩
  rw [match_here, found, Option.bind_some, taken]
  rfl

theorem match_leftmost (line : List Char) (parts : Parts) (found : matchLine? line = some parts) :
    ∃ before text, line = before ++ text ∧ matchHere? text = some parts ∧
      ∀ front back, line = front ++ back → front.length < before.length → matchHere? back = none := by
  induction line with
  | nil => cases found
  | cons c line ih =>
      rw [matchLine?] at found
      cases here : matchHere? (c :: line) with
      | some parts' =>
          rw [here, Option.some_or] at found
          exact ⟨[], c :: line, rfl, here.trans found, fun _ _ _ less => absurd less (Nat.not_lt_zero _)⟩
      | none =>
          rw [here, Option.none_or] at found
          obtain ⟨before, text, rfl, matched, earlier⟩ := ih found
          refine ⟨c :: before, text, rfl, matched, ?_⟩
          intro front back split_ less
          cases front with
          | nil => rw [← here, split_, List.nil_append]
          | cons d front =>
              obtain ⟨rfl, same⟩ := List.cons.inj split_
              exact earlier front back same (Nat.lt_of_succ_lt_succ less)

theorem match_anywhere (before text : List Char) (matched : (matchHere? text).isSome) :
    (matchLine? (before ++ text)).isSome := by
  induction before with
  | nil =>
      cases text with
      | nil => cases matched
      | cons c text =>
          rw [List.nil_append, matchLine?, Option.isSome_or, matched, Bool.true_or]
  | cons c before ih => rw [List.cons_append, matchLine?, Option.isSome_or, ih, Bool.or_true]

theorem match_line_placed (line : List Char) : (matchLine? line).isSome ↔ Nonempty (Placement line) := by
  constructor
  · intro found
    obtain ⟨parts, found⟩ := Option.isSome_iff_exists.mp found
    obtain ⟨before, text, rfl, matched, _⟩ := match_leftmost line parts found
    obtain ⟨p, _⟩ := match_here_placed before text parts matched
    exact ⟨p⟩
  · rintro ⟨p⟩
    obtain ⟨text, split_, literal, _, matched⟩ := p.matched
    rw [split_]
    exact match_anywhere p.before text (matched ▸ rfl)

theorem Placement.same_parts {line : List Char} (p q : Placement line) (start : p.before.length = q.before.length)
    (full : p.Full) (full' : q.Full) : p.parts = q.parts := by
  obtain ⟨type, name, rest⟩ := p.same_heading q start
  have literal : p.literal = q.literal := by
    have last := (before_last_paren _ p.literal).mpr ⟨p.after, rfl, full⟩
    rw [rest, (before_last_paren _ q.literal).mpr ⟨q.after, rfl, full'⟩] at last
    exact (Option.some.inj last).symm
  rw [Placement.parts, Placement.parts, type, name, literal]

theorem match_line_parts (line : List Char) (parts : Parts) :
    matchLine? line = some parts ↔ ∃ p : Placement line, p.parts = parts ∧ p.First ∧ p.Full := by
  have sound : ∀ parts, matchLine? line = some parts → ∃ p : Placement line, p.parts = parts ∧ p.First ∧ p.Full := by
    intro parts found
    obtain ⟨before, text, rfl, matched, earlier⟩ := match_leftmost line parts found
    obtain ⟨p, start, same, full⟩ := match_here_placed before text parts matched
    refine ⟨p, same, fun q => ?_, full⟩
    obtain ⟨text', split_, literal, _, matched'⟩ := q.matched
    rw [start]
    by_contra further
    have none_ := earlier q.before text' split_ (Nat.lt_of_not_le further)
    rw [none_] at matched'
    cases matched'
  refine ⟨sound parts, ?_⟩
  rintro ⟨p, rfl, first, full⟩
  obtain ⟨parts, found⟩ := Option.isSome_iff_exists.mp ((match_line_placed line).mpr ⟨p⟩)
  obtain ⟨q, rfl, first', full'⟩ := sound parts found
  rw [found, p.same_parts q (Nat.le_antisymm (first q) (first' p)) full full']

theorem scan_line (line : List Char) (single : '\n' ∉ line) :
    scan (String.ofList line) =
      match matchLine? line with
      | none => .ok []
      | some parts => (ofParts [] 1 parts).map fun tunable => [tunable] := by
  have alone : line ≠ [] → Text.lines line = [line] := by
    intro some_
    have splits := Text.splits_lines line
    generalize Text.lines line = all at splits
    cases splits with
    | done => exact absurd rfl some_
    | last _ _ _ => rfl
    | newline _ _ _ _ _ _ => simp at single
    | carriageReturn _ _ _ _ _ => simp at single
  rw [scan, String.toList_ofList]
  by_cases empty : line = []
  · subst empty
    rfl
  · rw [alone empty, scanLines]
    cases matchLine? line with
    | none => rfl
    | some parts =>
        dsimp only
        rw [List.map_nil]
        cases ofParts [] 1 parts <;> rfl

theorem of_parts_some (parts : Parts) : (ofParts [] 1 parts).map (fun tunable => [tunable]) ≠ .ok [] := by
  cases ofParts [] 1 parts <;> simp [Except.map]

theorem annotation_recognised (line : List Char) (single : '\n' ∉ line) :
    ((matchLine? line).isSome ↔ Nonempty (Placement line)) ∧
      (scan (String.ofList line) ≠ .ok [] ↔ Nonempty (Placement line)) ∧
      (∀ parts, matchLine? line = some parts ↔ ∃ p : Placement line, p.parts = parts ∧ p.First ∧ p.Full) ∧
      (∀ p : Placement line, p.First → p.Full →
        scan (String.ofList line) = (ofParts [] 1 p.parts).map fun tunable => [tunable]) ∧
      ∀ p q : Placement line, p.before.length = q.before.length → p.type = q.type ∧ p.name = q.name := by
  have scanned := scan_line line single
  refine ⟨match_line_placed line, ?_, match_line_parts line, ?_, ?_⟩
  · rw [← match_line_placed line, scanned]
    cases matchLine? line with
    | none => simp
    | some parts => simpa using of_parts_some parts
  · intro p first full
    rw [scanned, (match_line_parts line p.parts).mpr ⟨p, rfl, first, full⟩]
  · intro p q start
    obtain ⟨type, name, _⟩ := p.same_heading q start
    exact ⟨type, name⟩

theorem second_uniform_recognised :
    '\n' ∉ "uniform uniform float gain; // ts({min: (1)}) (a) b".toList ∧
      ∃ p : Placement "uniform uniform float gain; // ts({min: (1)}) (a) b".toList,
        p.parts = ⟨"float".toList, "gain".toList, "{min: (1)}) (a".toList⟩ ∧ p.First ∧ p.Full := by
  have single : '\n' ∉ "uniform uniform float gain; // ts({min: (1)}) (a) b".toList := by decide
  obtain ⟨_, _, pieces, _⟩ := annotation_recognised _ single
  exact ⟨single, (pieces _).mp (by decide +kernel)⟩

end ShaderKnobs.Tunable
