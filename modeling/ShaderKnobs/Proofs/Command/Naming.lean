import Mathlib.Data.List.TakeWhile
import ShaderKnobs.Command.Assignment
import ShaderKnobs.Proofs.Text.Ranges
import ShaderKnobs.Proofs.Tunable.Placement

set_option autoImplicit false

namespace ShaderKnobs

namespace Text

theorem trim_solid (text : List Char) (solid : ∀ c ∈ text, isBlank c = false) : trimChars text = text := by
  have kept : ∀ cs : List Char, (∀ c ∈ cs, isBlank c = false) → cs.dropWhile isBlank = cs := fun cs none =>
    (span_exact isBlank [] cs (by simp [Run]) fun c first => none c (List.mem_of_head? first)).2
  rw [trimChars, kept text solid, kept text.reverse fun c member => solid c (List.mem_reverse.mp member),
    List.reverse_reverse]

theorem trim_back (text gap : List Char) (blank : Run isBlank gap) : trimChars (text ++ gap) = trimChars text := by
  have gap' : Run isBlank gap.reverse := fun c member => blank c (List.mem_reverse.mp member)
  by_cases nothing : text.dropWhile isBlank = []
  · have all : Run isBlank text := List.dropWhile_eq_nil_iff.mp nothing
    rw [trimChars, trimChars, nothing, List.dropWhile_append_of_pos all, List.dropWhile_eq_nil_iff.mpr blank]
  · have kept : (text ++ gap).dropWhile isBlank = text.dropWhile isBlank ++ gap := by
      rw [List.dropWhile_append, if_neg (by simpa using nothing)]
    rw [trimChars, trimChars, kept, List.reverse_append, List.dropWhile_append_of_pos gap']

theorem trim_padded (front text back : List Char) (blank : Run isBlank front) (blank' : Run isBlank back) :
    trimChars (front ++ text ++ back) = trimChars text := by
  rw [trim_back (front ++ text) back blank', trimChars, List.dropWhile_append_of_pos blank]
  rfl

theorem trim_nothing (text : List Char) (nothing : trimChars text = []) : Run isBlank text := by
  have rest : Run isBlank (text.dropWhile isBlank) := by
    intro c member
    exact List.dropWhile_eq_nil_iff.mp (List.reverse_eq_nil_iff.mp nothing) c (List.mem_reverse.mpr member)
  rw [← List.takeWhile_append_dropWhile (p := isBlank) (l := text)]
  intro c member
  rcases List.mem_append.mp member with front | back
  · exact span_inside isBlank text c front
  · exact rest c back

theorem blank_text_iff (text : String) : isBlankText text = true ↔ Run isBlank text.toList := by
  simp [isBlankText, Run]

end Text

open Text (Run isBlank isWord inRanges)

namespace Tunable

theorem name_word (source : String) (tunables : List Tunable) (scanned : scan source = .ok tunables)
    (tunable : Tunable) (member : tunable ∈ tunables) :
    tunable.name.toList ≠ [] ∧ Run isWord tunable.name.toList := by
  obtain ⟨_, declared⟩ := scan_declares source tunables scanned
  obtain ⟨text, index, _, declares⟩ := declared_member _ tunables declared tunable member
  cases declares with
  | mk parts type attributes matched known read =>
      obtain ⟨before, rest, rfl, here, _⟩ := match_leftmost text parts matched
      obtain ⟨p, _, rfl, _⟩ := match_here_placed before rest parts here
      rw [String.toList_ofList]
      exact p.words.2.2

end Tunable

namespace Assignment

-- The word characters that no assignment takes in a name.
def Foreign (c : Char) : Prop :=
  inRanges Text.otherMarks c = true ∨ inRanges Text.joiners c = true ∨ inRanges Text.connectors c = true ∧ c ≠ '_'

instance foreignDecidable (c : Char) : Decidable (Foreign c) := inferInstanceAs (Decidable (_ ∨ _ ∨ _ ∧ _))

theorem tables_apart : ∀ ranges ∈ [Text.alphabetic, Text.numeric],
    ∀ others ∈ [Text.otherMarks, Text.joiners, Text.connectors],
      Text.rising 0 ranges = true ∧ Text.rising 0 others = true ∧ Text.apart ranges others = true := by
  decide +kernel

theorem alphanumeric_not_foreign (c : Char) (alphanumeric : Text.isAlphanumeric c = true) : ¬Foreign c := by
  have outside : ∀ others ∈ [Text.otherMarks, Text.joiners, Text.connectors], inRanges others c = false := by
    intro others member
    rw [Text.isAlphanumeric, Bool.or_eq_true] at alphanumeric
    rcases alphanumeric with letter | number
    · obtain ⟨order, order', separate⟩ := tables_apart _ List.mem_cons_self others member
      exact Text.in_ranges_apart _ others order order' separate c letter
    · obtain ⟨order, order', separate⟩ := tables_apart _ (List.mem_cons_of_mem _ List.mem_cons_self) others member
      exact Text.in_ranges_apart _ others order order' separate c number
  simp only [List.mem_cons, List.not_mem_nil, or_false, forall_eq_or_imp, forall_eq] at outside
  simp [Foreign, outside]

theorem name_char_iff (c : Char) (word : isWord c = true) : isNameChar c = true ↔ ¬Foreign c := by
  simp only [isNameChar, Bool.or_eq_true, beq_iff_eq]
  constructor
  · rintro (alphanumeric | rfl)
    · exact alphanumeric_not_foreign c alphanumeric
    · unfold Foreign
      decide
  · intro own
    simp only [Foreign, not_or, not_and, not_not, Bool.not_eq_true] at own
    obtain ⟨mark, joiner, connector⟩ := own
    simp only [isWord, mark, joiner, Bool.or_false, Bool.or_eq_true, Bool.and_eq_true] at word
    rcases word with (letter | digit) | connecting
    · exact .inl (by simp [Text.isAlphanumeric, letter.1])
    · exact .inl (by simp [Text.isAlphanumeric, Text.digits_numeric c digit])
    · exact .inr (connector connecting)

theorem equals_not_blank : isBlank '=' = false := by
  decide

theorem equals_not_word : isWord '=' = false := by
  decide +kernel

theorem parse_padded (name literal w₁ w₂ w₃ w₄ : List Char) (some_ : name ≠ []) (word : Run isWord name)
    (given : ¬Run isBlank literal) (blank₁ : Run isBlank w₁) (blank₂ : Run isBlank w₂) (blank₃ : Run isBlank w₃)
    (blank₄ : Run isBlank w₄) :
    parse (String.ofList (w₁ ++ name ++ w₂ ++ '=' :: (w₃ ++ literal ++ w₄))) =
      if name.all isNameChar then .ok ⟨String.ofList name, String.ofList (Text.trimChars literal)⟩
      else .error (.badName (String.ofList name)) := by
  have front : Run (· ≠ '=') (w₁ ++ name ++ w₂) := by
    intro c member
    refine decide_eq_true fun same => ?_
    subst same
    rcases List.mem_append.mp member with early | late
    · rcases List.mem_append.mp early with gap | inside
      · cases equals_not_blank.symm.trans (blank₁ _ gap)
      · cases equals_not_word.symm.trans (word _ inside)
    · cases equals_not_blank.symm.trans (blank₂ _ late)
  obtain ⟨before, after⟩ := Text.span_exact (· ≠ '=') (w₁ ++ name ++ w₂) ('=' :: (w₃ ++ literal ++ w₄)) front
    (by simp)
  have named : Text.trimChars (w₁ ++ name ++ w₂) = name := by
    rw [Text.trim_padded w₁ name w₂ blank₁ blank₂,
      Text.trim_solid name fun c member => Text.word_not_blank c (word c member)]
  have valued : Text.trimChars literal ≠ [] := fun nothing => given (Text.trim_nothing literal nothing)
  simp only [parse, String.toList_ofList, before, after, named, Text.trim_padded w₃ literal w₄ blank₃ blank₄,
    if_neg some_, if_neg valued]
  cases name.all isNameChar <;> rfl

/-- An assignment that names an annotated uniform, with blanks around the name and around a literal that
is not blank itself, is read as the name and the trimmed literal if no character of the name is foreign to
assignments, and refused for its name if one is. -/
theorem annotated_names_assigned (source : String) (tunables : List Tunable)
    (scanned : Tunable.scan source = .ok tunables) (tunable : Tunable) (member : tunable ∈ tunables)
    (literal w₁ w₂ w₃ w₄ : String) (given : Text.isBlankText literal = false)
    (blank : ∀ gap ∈ [w₁, w₂, w₃, w₄], Text.isBlankText gap = true) :
    let text := w₁ ++ tunable.name ++ w₂ ++ "=" ++ w₃ ++ literal ++ w₄
    ((∀ c ∈ tunable.name.toList, ¬Foreign c) → parse text = .ok ⟨tunable.name, Text.trim literal⟩) ∧
      ((∃ c ∈ tunable.name.toList, Foreign c) → parse text = .error (.badName tunable.name)) := by
  intro text
  simp only [List.mem_cons, List.not_mem_nil, or_false, forall_eq_or_imp, forall_eq, Text.blank_text_iff] at blank
  obtain ⟨blank₁, blank₂, blank₃, blank₄⟩ := blank
  have given' : ¬Run isBlank literal.toList := by
    rw [← Text.blank_text_iff, given]
    exact Bool.false_ne_true
  obtain ⟨some_, word⟩ := Tunable.name_word source tunables scanned tunable member
  have spelled : text = String.ofList (w₁.toList ++ tunable.name.toList ++ w₂.toList ++
      '=' :: (w₃.toList ++ literal.toList ++ w₄.toList)) := by
    apply String.toList_injective
    simp [text]
  have answer := parse_padded tunable.name.toList literal.toList _ _ _ _ some_ word given' blank₁ blank₂ blank₃ blank₄
  rw [← spelled, String.ofList_toList] at answer
  constructor
  · intro own
    have valid : tunable.name.toList.all isNameChar = true :=
      List.all_eq_true.mpr fun c inside => (name_char_iff c (word c inside)).mpr (own c inside)
    rw [answer, if_pos valid]
    rfl
  · rintro ⟨c, inside, foreign⟩
    have invalid : ¬tunable.name.toList.all isNameChar = true := fun valid =>
      (name_char_iff c (word c inside)).mp (List.all_eq_true.mp valid c inside) foreign
    rw [answer, if_neg invalid]

theorem gain_assigned_text :
    ∃ tunables tunable, Tunable.scan "uniform float gain; // ts(\x7b\x7d)" = .ok tunables ∧ tunable ∈ tunables ∧
      parse " gain\t= 'a = \x7b' " = .ok ⟨"gain", "'a = \x7b'"⟩ := by
  have names : (Tunable.scan "uniform float gain; // ts(\x7b\x7d)").map (·.map (·.name)) = .ok ["gain"] := by
    decide +kernel
  cases scanned : Tunable.scan "uniform float gain; // ts(\x7b\x7d)" with
  | error error =>
      rw [scanned] at names
      cases names
  | ok tunables =>
      rw [scanned] at names
      obtain ⟨tunable, rfl⟩ :=
        List.length_eq_one_iff.mp ((List.length_map _).symm.trans (congrArg List.length (Except.ok.inj names)))
      have gain : tunable.name = "gain" := by simpa [Except.map] using names
      obtain ⟨taken, _⟩ := annotated_names_assigned _ _ scanned tunable List.mem_cons_self "'a = \x7b'" " " "\t" " " " "
        (by decide) (by decide)
      have letters : "gain".toList.all Text.isAlphanumeric = true := by
        decide +kernel
      rw [gain] at taken
      refine ⟨_, tunable, rfl, List.mem_cons_self, taken fun c inside => ?_⟩
      exact alphanumeric_not_foreign c (List.all_eq_true.mp letters c inside)

-- An accent that is a character of its own is part of a name in a shader and foreign to assignments.
theorem accented_name_refused :
    (Tunable.scan "uniform float e\u0301; // ts(\x7b\x7d)").map (·.map (·.name)) = .ok ["e\u0301"] ∧
      parse "e\u0301=1" = .error (.badName "e\u0301") := by
  decide +kernel

end Assignment

end ShaderKnobs
