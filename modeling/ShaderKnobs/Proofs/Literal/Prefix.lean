import ShaderKnobs.Proofs.Literal.Exact

set_option autoImplicit false

namespace ShaderKnobs.Literal

-- A relation between a text, what is read at its front and the rest does not look at the rest's end.
def Extends {α : Type} (element : List Char → α → List Char → Prop) : Prop :=
  ∀ text a rest more, element text a rest → element (text ++ more) a (rest ++ more)

-- A gap before something; the last comment of a text would go on into what is added.
theorem gap_extends (text rest more : List Char) (gap : Gap text rest) (some_ : rest ≠ []) :
    Gap (text ++ more) (rest ++ more) := by
  induction gap with
  | none rest => exact .none (rest ++ more)
  | blank c text rest blank _ ih => exact .blank c (text ++ more) (rest ++ more) blank (ih some_)
  | line body text rest plain _ ih =>
      have longer := Gap.line body (text ++ more) (rest ++ more) plain (ih some_)
      simpa only [List.cons_append, List.append_assoc] using longer
  | lastLine body _ => exact absurd rfl some_
  | block body text rest unclosed _ ih =>
      have longer := Gap.block body (text ++ more) (rest ++ more) unclosed (ih some_)
      simpa only [List.cons_append, List.append_assoc] using longer

theorem code_unit_extends : Extends CodeUnit := by
  intro text code rest more unit
  cases unit with
  | digits digits _ _ four value =>
      rw [List.append_assoc]
      exact .digits digits code (rest ++ more) four value
  | plus digits _ _ three value =>
      rw [List.cons_append, List.append_assoc]
      exact .plus digits code (rest ++ more) three value

theorem escape_extends : Extends Escape := by
  intro text c rest more escape
  cases escape with
  | letter c _ other => exact .letter c (rest ++ more) other
  | unicode text _ code unit notHigh notLow =>
      exact .unicode (text ++ more) (rest ++ more) code (code_unit_extends text code rest more unit) notHigh notLow
  | pair text between _ high low first isHigh second isLow =>
      exact .pair (text ++ more) (between ++ more) (rest ++ more) high low (code_unit_extends text high _ more first)
        isHigh (code_unit_extends between low rest more second) isLow

theorem body_extends (quote : Char) : Extends (Body quote) := by
  intro text chars rest more body
  induction body with
  | close rest => exact .close (rest ++ more)
  | plain c text chars rest open_ line carriage backslash _ ih =>
      exact .plain c (text ++ more) chars (rest ++ more) open_ line carriage backslash ih
  | escape c text next chars rest escape _ ih =>
      exact .escape c (text ++ more) (next ++ more) chars (rest ++ more) (escape_extends text c next more escape) ih

theorem quoted_extends : Extends Quoted := by
  intro text value rest more quoted
  cases quoted with
  | mk quote text chars _ isQuote body =>
      exact .mk quote (text ++ more) chars (rest ++ more) isQuote (body_extends quote text chars rest more body)

theorem key_extends : Extends Key := by
  intro text key rest more spelled
  cases spelled with
  | quoted _ _ _ quoted => exact .quoted (text ++ more) key (rest ++ more) (quoted_extends text key rest more quoted)
  | word c name _ start inside =>
      rw [List.cons_append, List.append_assoc]
      exact .word c name (rest ++ more) start inside
  | digits digits _ some_ inside =>
      rw [List.append_assoc]
      exact .digits digits (rest ++ more) some_ inside

theorem sign_extends : Extends Sign := by
  intro text negative rest more sign
  cases sign with
  | none _ => exact .none (text ++ more)
  | plus _ => exact .plus (rest ++ more)
  | minus _ => exact .minus (rest ++ more)

theorem fraction_extends : Extends Fraction := by
  intro text fraction rest more spelled
  cases spelled with
  | none _ => exact .none (text ++ more)
  | point digits _ inside =>
      rw [List.cons_append, List.append_assoc]
      exact .point digits (rest ++ more) inside

theorem exponent_extends : Extends Exponent := by
  intro text exponent rest more spelled
  cases spelled with
  | none _ => exact .none (text ++ more)
  | power mark text digits _ negative isMark sign some_ inside =>
      have longer := sign_extends text negative (digits ++ rest) more sign
      rw [List.append_assoc] at longer
      exact .power mark (text ++ more) digits (rest ++ more) negative isMark longer some_ inside

theorem number_extends : Extends Numerical := by
  intro text data rest more number
  cases number with
  | hex digits _ negative mark magnitude n sign isMark some_ value bound same =>
      have longer := sign_extends text negative _ more sign
      rw [List.cons_append, List.cons_append, List.append_assoc] at longer
      exact .hex (text ++ more) digits (rest ++ more) negative mark magnitude n longer isMark some_ value bound same
  | integer digits _ negative n sign some_ inside same short =>
      have longer := sign_extends text negative _ more sign
      rw [List.append_assoc] at longer
      exact .integer (text ++ more) digits (rest ++ more) negative n longer some_ inside same short
  | real whole after next _ negative fraction exponent x sign inside point power some_ long finite =>
      have longer := sign_extends text negative _ more sign
      rw [List.append_assoc] at longer
      exact .real (text ++ more) whole (after ++ more) (next ++ more) (rest ++ more) negative fraction exponent x longer
        inside (fraction_extends after fraction next more point) (exponent_extends next exponent rest more power) some_
        long finite

theorem begins_some (text : List Char) (begins : Begins text) : text ≠ [] := by
  obtain ⟨c, rest, rfl, _⟩ := begins
  exact List.cons_ne_nil c rest

-- By induction on the elements. Every gap inside stands before an element, a comma or the closing bracket.
theorem sequence_extends {α : Type} (closing : Char) (element : List Char → α → List Char → Prop)
    (extends_ : Extends element) (begins : ∀ text a rest, element text a rest → Begins text) :
    Extends (Sequence closing element) := by
  intro text all rest more sequence
  induction sequence with
  | close text rest gap => exact .close (text ++ more) (rest ++ more) (gap_extends text _ more gap (List.cons_ne_nil _ _))
  | last text body next rest a gap first gap' =>
      have some_ := begins_some body (begins body a next first)
      exact .last (text ++ more) (body ++ more) (next ++ more) (rest ++ more) a (gap_extends text body more gap some_)
        (extends_ body a next more first) (gap_extends next _ more gap' (List.cons_ne_nil _ _))
  | more text body next after rest a others gap first gap' _ ih =>
      have some_ := begins_some body (begins body a next first)
      exact .more (text ++ more) (body ++ more) (next ++ more) (after ++ more) (rest ++ more) a others
        (gap_extends text body more gap some_) (extends_ body a next more first)
        (gap_extends next _ more gap' (List.cons_ne_nil _ _)) ih

theorem member_extends (element : List Char → Json → List Char → Prop) (extends_ : Extends element)
    (begins : ∀ text data rest, element text data rest → Begins text) : Extends (Member element) := by
  intro text member rest more spelled
  cases spelled with
  | mk between after body _ key data keyed gap gap' spelled =>
      have some_ := begins_some body (begins body data rest spelled)
      exact .mk (text ++ more) (between ++ more) (after ++ more) (body ++ more) (rest ++ more) key data
        (key_extends text key between more keyed) (gap_extends between _ more gap (List.cons_ne_nil _ _))
        (gap_extends after body more gap' some_) (extends_ body data rest more spelled)

theorem member_begins (element : List Char → Json → List Char → Prop) (text : List Char) (member : String × Json)
    (rest : List Char) (spelled : Member element text member rest) : Begins text := by
  cases spelled with
  | mk between after body _ key data keyed _ _ _ => exact key_begins text key between keyed

theorem level_extends (element : List Char → Json → List Char → Prop) (extends_ : Extends element)
    (begins : ∀ text data rest, element text data rest → Begins text) : Extends (Level element) := by
  intro text data rest more spelled
  cases spelled with
  | word word _ _ known =>
      rw [List.append_assoc]
      exact .word word data (rest ++ more) known
  | text _ value _ quoted => exact .text (text ++ more) value (rest ++ more) (quoted_extends text value rest more quoted)
  | number _ _ _ number => exact .number (text ++ more) data (rest ++ more) (number_extends text data rest more number)
  | array text items _ sequence =>
      exact .array (text ++ more) items (rest ++ more)
        (sequence_extends ']' element extends_ begins text items rest more sequence)
  | object text members fields _ sequence gathers =>
      exact .object (text ++ more) members fields (rest ++ more)
        (sequence_extends '\x7d' (Member element) (member_extends element extends_ begins) (member_begins element) text
          members rest more sequence) gathers

theorem nested_extends (depth : Nat) : Extends (Nested depth) := by
  induction depth with
  | zero =>
      refine level_extends _ ?_ ?_
      · intro text data rest more absent
        exact absent.elim
      · intro text data rest absent
        exact absent.elim
  | succ depth ih => exact level_extends (Nested depth) ih (nested_reads depth).begins

theorem scan_nested_object (depth : Nat) (text : List Char) (fields : Fields) (rest : List Char)
    (spelled : Nested (depth + 1) text (.object fields) rest) :
    scanValue (depth + 2) text = .ok (.object fields, rest) := by
  cases spelled with
  | word word _ _ known => simp [words] at known
  | number _ _ _ number => cases number
  | object text members _ _ sequence gathers =>
      exact scan_object (depth + 1) (Nested depth) (nested_reads depth) text members fields rest sequence gathers

theorem parse_chars_longer (text more : List Char) (fields : Fields) (data : Json)
    (parsed : parseChars text = .ok (.object fields)) (parsed' : parseChars (text ++ more) = .ok data) :
    data = .object fields := by
  obtain ⟨start, next, gap, spelled, _⟩ := (parse_chars_exact text _).mp parsed
  have begins := (nested_reads maxDepth).begins start _ next spelled
  have longer := nested_extends maxDepth start _ next more spelled
  have begins' := (nested_reads maxDepth).begins _ _ _ longer
  have skipped := skip_gap _ _ (gap_extends text start more gap (begins_some start begins)) (begins_no_gap _ begins')
  have scanned := scan_nested_object 63 (start ++ more) fields (next ++ more) longer
  rw [parseChars, skipped, ok_bind] at parsed'
  split at parsed'
  · cases parsed'
  · obtain ⟨⟨value, last⟩, scanned', parsed'⟩ := bind_ok _ _ _ parsed'
    obtain ⟨same, _⟩ := Prod.mk.inj (Except.ok.inj (scanned'.symm.trans scanned))
    obtain ⟨_, _, parsed'⟩ := bind_ok _ _ _ parsed'
    split at parsed'
    · rw [← Except.ok.inj parsed']
      exact same
    · cases parsed'

theorem parse_object_longer (text longer : String) (fields fields' : Fields) (front : text.toList <+: longer.toList)
    (parsed : parseObject text = .ok fields) (parsed' : parseObject longer = .ok fields') : fields = fields' := by
  obtain ⟨more, same⟩ := front
  have short := map_error_ok _ _ _ (parsed_object text fields parsed)
  have whole := map_error_ok _ _ _ (parsed_object longer fields' parsed')
  rw [← same] at whole
  exact (Json.object.inj (parse_chars_longer text.toList more fields _ short whole)).symm

end ShaderKnobs.Literal
