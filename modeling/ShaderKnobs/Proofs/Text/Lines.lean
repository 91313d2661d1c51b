import ShaderKnobs.Text.Lines

set_option autoImplicit false

namespace ShaderKnobs.Text

-- A text and its lines. A return before a newline ends the line with it; the text after the last
-- newline is a line as it stands, unless it is empty.
inductive Splits : List Char → List (List Char) → Prop where
  | done : Splits [] []
  | last (line : List Char) : line ≠ [] → '\n' ∉ line → Splits line [line]
  | newline (line rest : List Char) (others : List (List Char)) : '\n' ∉ line → line.getLast? ≠ some '\r' →
      Splits rest others → Splits (line ++ '\n' :: rest) (line :: others)
  | carriageReturn (line rest : List Char) (others : List (List Char)) : '\n' ∉ line →
      Splits rest others → Splits (line ++ '\r' :: '\n' :: rest) (line :: others)

theorem splits_drop_return (line rest : List Char) (others : List (List Char)) (plain : '\n' ∉ line)
    (splits : Splits rest others) : Splits (line.reverse ++ '\n' :: rest) ((dropReturn line).reverse :: others) := by
  cases line with
  | nil => exact .newline [] rest others (by simp) (by simp) splits
  | cons c front =>
      have inside : '\n' ∉ front.reverse := by
        rw [List.mem_reverse]
        exact fun member => plain (List.mem_cons_of_mem c member)
      by_cases return_ : c = '\r'
      · subst return_
        rw [List.reverse_cons, List.append_assoc]
        exact .carriageReturn front.reverse rest others inside splits
      · have kept : dropReturn (c :: front) = c :: front := by
          unfold dropReturn
          split
          · next same => exact absurd (List.cons.inj same).1 return_
          · rfl
        rw [kept]
        refine .newline _ rest others ?_ ?_ splits
        · rw [List.mem_reverse]
          exact plain
        · simpa using return_

-- `line` is what has been read of the present line, in reverse.
theorem splits_lines_from (line text : List Char) (plain : '\n' ∉ line) :
    Splits (line.reverse ++ text) (linesFrom line text) := by
  induction text generalizing line with
  | nil =>
      by_cases empty : line = []
      · subst empty
        exact .done
      · rw [linesFrom, if_neg empty, List.append_nil]
        refine .last line.reverse ?_ ?_
        · simpa using empty
        · rw [List.mem_reverse]
          exact plain
  | cons c rest ih =>
      by_cases newline : c = '\n'
      · subst newline
        rw [linesFrom, if_pos rfl]
        exact splits_drop_return line rest _ plain (ih [] (by simp))
      · have longer : '\n' ∉ c :: line := by
          rw [List.mem_cons, not_or]
          exact ⟨Ne.symm newline, plain⟩
        have later := ih (c :: line) longer
        rw [List.reverse_cons, List.append_assoc, List.singleton_append] at later
        rw [linesFrom, if_neg newline]
        exact later

theorem splits_lines (text : List Char) : Splits text (lines text) := splits_lines_from [] text (by simp)

end ShaderKnobs.Text
