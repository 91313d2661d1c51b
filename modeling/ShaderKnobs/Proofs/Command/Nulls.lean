import ShaderKnobs.Command.Simulate
import ShaderKnobs.Proofs.Knob.Range
import ShaderKnobs.Proofs.Number.Spelling

set_option autoImplicit false

namespace ShaderKnobs

open Number (Layout Single)

def nullText : List Char := ['n', 'u', 'l', 'l']

namespace Document

mutual
def leaves : Document → List (List Char)
  | .leaf text => [text]
  | .array items => itemLeaves items
  | .object fields => fieldLeaves fields

def itemLeaves : List Document → List (List Char)
  | [] => []
  | item :: rest => leaves item ++ itemLeaves rest

def fieldLeaves : List (String × Document) → List (List Char)
  | [] => []
  | (_, value) :: rest => leaves value ++ fieldLeaves rest
end

theorem item_leaves (text : List Char) (items : List Document) :
    text ∈ itemLeaves items ↔ ∃ item ∈ items, text ∈ item.leaves := by
  induction items with
  | nil => simp [itemLeaves]
  | cons item rest ih => simp [itemLeaves, ih]

theorem quoted_not_null (text : String) : quoted text ≠ nullText := by
  intro same
  cases congrArg List.head? same

end Document

theorem Number.signed_not_null (negative : Bool) (digits rest : List Char) (some_ : digits ≠ [])
    (inside : ∀ c ∈ digits, c.isDigit = true) : (if negative then ['-'] else []) ++ (digits ++ rest) ≠ nullText := by
  intro same
  cases negative with
  | true => cases congrArg List.head? same
  | false =>
      obtain ⟨c, digits, rfl⟩ := List.exists_cons_of_ne_nil some_
      obtain rfl : c = 'n' := Option.some.inj (congrArg List.head? same)
      cases inside 'n' List.mem_cons_self

theorem Number.int_digits_not_null (n : Int) : intDigits n ≠ nullText := by
  have digits := signed_not_null (decide (n < 0)) (natDigits n.natAbs) [] (nat_digits_some _) (nat_digits_digit _)
  rw [List.append_nil] at digits
  unfold intDigits
  by_cases negative : n < 0
  · simpa [negative] using digits
  · simpa [negative] using digits

theorem Number.data_text_null (x : Single) : Layout.dataSingle.dataText x = nullText ↔ x.isFinite = false := by
  cases x with
  | nan => exact iff_of_true rfl rfl
  | infinite _ => exact iff_of_true rfl rfl
  | finite x =>
      obtain ⟨s, written, proper, _⟩ :=
        magnitude_written Layout.dataSingle rfl rfl (-6) 12 rfl (x.shortest Layout.dataSingle.tie)
      refine iff_of_false ?_ nofun
      rw [Layout.dataText, Layout.finite, written]
      exact signed_not_null x.negative s.whole _ proper.some_ proper.whole

theorem SlotValue.null_shown_iff (value : SlotValue) : nullText ∈ value.document.leaves ↔ ¬value.Finite := by
  have type : nullText ≠ Document.quoted value.typeName := (Document.quoted_not_null _).symm
  have number : ∀ x : Single, nullText = Layout.dataSingle.dataText x ↔ x.isFinite = false := fun x => by
    rw [eq_comm, Number.data_text_null]
  have whole : ∀ n : Int, nullText ≠ Number.intDigits n := fun n => (Number.int_digits_not_null n).symm
  have flag : ∀ b : Bool, nullText ≠ if b then "true".toList else "false".toList := by decide
  simp only [SlotValue.document, Document.leaves, Document.fieldLeaves, Document.text, List.append_nil, List.mem_append,
    List.mem_singleton, type, false_or]
  cases value <;>
    simp only [valueDocument, Document.bool, Document.int, Document.single, Document.leaves, Document.itemLeaves,
      List.mem_append, List.mem_singleton, List.not_mem_nil, or_false, Finite, number, whole, flag, not_and_or,
      Bool.not_eq_true, not_true_eq_false]

theorem Simulation.null_shown_iff (values : ValueTable) :
    nullText ∈ (Document.array (values.map row)).leaves ↔ ∃ v ∈ values, ¬v.current.Finite := by
  have each : ∀ v : UniformValue, nullText ∈ (row v).leaves ↔ ¬v.current.Finite := by
    intro v
    have name : nullText ≠ Document.quoted v.name := (Document.quoted_not_null _).symm
    have source : nullText ≠ Document.quoted v.source.name := (Document.quoted_not_null _).symm
    simp only [row, Document.leaves, Document.fieldLeaves, Document.text, List.append_nil, List.mem_append,
      List.mem_singleton, name, source, false_or]
    exact v.current.null_shown_iff
  simp only [Document.leaves, Document.item_leaves, List.mem_map, exists_exists_and_eq_and, each]

end ShaderKnobs
