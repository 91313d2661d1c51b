import ShaderKnobs.Proofs.Literal.Prefix
import ShaderKnobs.Proofs.Tunable.Placement

set_option autoImplicit false

namespace ShaderKnobs.Tunable

variable {line : List Char}

theorem Placement.literals_overlap (p q : Placement line) (start : p.before.length = q.before.length) :
    p.literal <+: q.literal ∨ q.literal <+: p.literal := by
  obtain ⟨_, _, rest⟩ := p.same_heading q start
  have left : p.literal <+: q.literal ++ ')' :: q.after := rest ▸ List.prefix_append _ _
  exact List.prefix_or_prefix_of_prefix left (List.prefix_append _ _)

theorem Placement.same_attributes (p q : Placement line) (start : p.before.length = q.before.length)
    (attributes attributes' : Attributes) (parsed : Literal.parseObject (String.ofList p.literal) = .ok attributes)
    (parsed' : Literal.parseObject (String.ofList q.literal) = .ok attributes') : attributes = attributes' := by
  rcases p.literals_overlap q start with front | front
  · exact Literal.parse_object_longer _ _ attributes attributes' (by simpa using front) parsed parsed'
  · exact (Literal.parse_object_longer _ _ attributes' attributes (by simpa using front) parsed' parsed).symm

def closedEarly : Placement "uniform int n; // ts(\x7b\x7d) (old)".toList where
  before := []
  toType := [' ']
  type := "int".toList
  toName := [' ']
  name := ['n']
  toMark := []
  mark := [';']
  toComment := [' ']
  toTag := [' ']
  literal := "\x7b\x7d".toList
  after := " (old)".toList
  spelled := rfl
  apart := by decide
  blank := by decide
  words := by decide +kernel
  optional := .inr rfl
  some_ := by decide

theorem closed_early_first : closedEarly.First := fun q => Nat.zero_le q.before.length

theorem closed_late_refused :
    scan "uniform int n; // ts(\x7b\x7d) (old)" = .error (.badLiteral "n" 1 ⟨.trailingInput, 2⟩) := by
  have result : (scan "uniform int n; // ts(\x7b\x7d) (old)").map (·.length) =
      .error (.badLiteral "n" 1 ⟨.trailingInput, 2⟩) := by decide +kernel
  cases answer : scan "uniform int n; // ts(\x7b\x7d) (old)" with
  | error error =>
      rw [answer] at result
      exact congrArg Except.error (Except.error.inj result)
  | ok tunables =>
      rw [answer] at result
      cases result

theorem closing_never_changes_attributes :
    (∀ (text longer : String) (attributes attributes' : Attributes), text.toList <+: longer.toList →
      Literal.parseObject text = .ok attributes → Literal.parseObject longer = .ok attributes' → attributes = attributes') ∧
    (∀ (line : List Char) (p q : Placement line) (attributes attributes' : Attributes),
      p.before.length = q.before.length → Literal.parseObject (String.ofList p.literal) = .ok attributes →
      Literal.parseObject (String.ofList q.literal) = .ok attributes' → attributes = attributes') ∧
    (∀ (line : List Char) (index : Nat) (tunable : Tunable), Declares line index tunable →
      ∀ (q : Placement line) (attributes : Attributes), q.First →
      Literal.parseObject (String.ofList q.literal) = .ok attributes → tunable.attributes = attributes) ∧
    ∃ (line : List Char) (q : Placement line) (attributes : Attributes) (error : ScanError), q.First ∧
      Literal.parseObject (String.ofList q.literal) = .ok attributes ∧ scan (String.ofList line) = .error error := by
  refine ⟨Literal.parse_object_longer, ?_, ?_, _, closedEarly, [], _, closed_early_first, rfl, closed_late_refused⟩
  · intro line p q attributes attributes' start
    exact p.same_attributes q start attributes attributes'
  · intro line index tunable declares q attributes first parsed
    obtain ⟨parts, type, _, matched, _, parsed'⟩ := declares
    obtain ⟨p, rfl, first', _⟩ := (match_line_parts line parts).mp matched
    exact p.same_attributes q (Nat.le_antisymm (first' q) (first p)) _ attributes parsed' parsed

theorem comment_after_brace_ignored :
    ∃ attributes, Literal.parseObject "\x7bn: [1, 0x2], 's': ')'\x7d" = .ok attributes ∧
      ∃ attributes', Literal.parseObject "\x7bn: [1, 0x2], 's': ')'\x7d /* ) */ // )" = .ok attributes' ∧
        attributes = attributes' := by
  obtain ⟨same, _⟩ := closing_never_changes_attributes
  exact ⟨_, rfl, _, rfl, same "\x7bn: [1, 0x2], 's': ')'\x7d" "\x7bn: [1, 0x2], 's': ')'\x7d /* ) */ // )" _ _
    (by decide) rfl rfl⟩

end ShaderKnobs.Tunable
