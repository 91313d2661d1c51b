import ShaderKnobs.Proofs.Tunable.Placement

set_option autoImplicit false

namespace ShaderKnobs

namespace Text

def withReturns (text : List Char) : List Char :=
  text.flatMap fun c => if c = '\n' then ['\r', '\n'] else [c]

theorem with_returns_newline (rest : List Char) : withReturns ('\n' :: rest) = '\r' :: '\n' :: withReturns rest := rfl

theorem with_returns_other (c : Char) (rest : List Char) (other : c ≠ '\n') :
    withReturns (c :: rest) = c :: withReturns rest := by
  simp [withReturns, other]

def Returned (longer line : List Char) : Prop := longer = line ∨ longer = line ++ ['\r']

theorem drop_return_returned (line : List Char) : Returned line.reverse (dropReturn line).reverse := by
  unfold dropReturn
  split
  · exact .inr List.reverse_cons
  · exact .inl rfl

-- `line` is what has been read of the present line. The return that is new ends it, and so an older one stays.
theorem lines_with_returns (line text : List Char) :
    List.Forall₂ Returned (linesFrom line (withReturns text)) (linesFrom line text) := by
  induction text generalizing line with
  | nil => exact List.forall₂_same.mpr fun _ _ => .inl rfl
  | cons c rest ih =>
      by_cases newline : c = '\n'
      · subst newline
        have ends : linesFrom line ('\r' :: '\n' :: withReturns rest) =
            line.reverse :: linesFrom [] (withReturns rest) := rfl
        rw [with_returns_newline, ends, linesFrom, if_pos rfl]
        exact .cons (drop_return_returned line) (ih [])
      · rw [with_returns_other c rest newline, linesFrom, linesFrom, if_neg newline, if_neg newline]
        exact ih (c :: line)

end Text

namespace Tunable

variable {line : List Char}

def Placement.extend (p : Placement line) (tail : List Char) : Placement (line ++ tail) :=
  { p with
    after := p.after ++ tail
    spelled := (congrArg (· ++ tail) p.spelled).trans (List.append_assoc _ _ _) }

theorem Placement.cut {tail : List Char} (p : Placement (line ++ tail)) (plain : ')' ∉ tail) :
    ∃ q : Placement line, q.before = p.before ∧ q.parts = p.parts ∧ p.after = q.after ++ tail := by
  rcases List.append_eq_append_iff.mp p.spelled with ⟨more, closed, rest⟩ | ⟨after, spelled, rest⟩
  · rcases List.eq_nil_or_concat more with rfl | ⟨front, c, rfl⟩
    · rw [List.append_nil] at closed
      refine ⟨{ p with after := [], spelled := ?_ }, rfl, rfl, rest.symm⟩
      rw [List.append_nil]
      exact closed.symm
    · rw [List.concat_eq_append, ← List.append_assoc] at closed
      obtain ⟨_, last⟩ := List.append_inj' closed rfl
      have closing : ')' ∈ tail := by
        rw [rest, List.concat_eq_append, ← last]
        simp
      exact absurd closing plain
  · exact ⟨{ p with after := after, spelled := spelled }, rfl, rfl, rest⟩

theorem match_line_tail (line tail : List Char) (plain : ')' ∉ tail) : matchLine? (line ++ tail) = matchLine? line := by
  apply Option.ext
  intro parts
  rw [match_line_parts, match_line_parts]
  constructor
  · rintro ⟨p, same, first, full⟩
    obtain ⟨q, start, same', rest⟩ := p.cut plain
    refine ⟨q, same'.trans same, fun other => ?_, fun inside => full ?_⟩
    · rw [start]
      exact first (other.extend tail)
    · rw [rest]
      exact List.mem_append_left tail inside
  · rintro ⟨p, same, first, full⟩
    refine ⟨p.extend tail, same, fun other => ?_, fun inside => ?_⟩
    · obtain ⟨q, start, _⟩ := other.cut plain
      rw [← start]
      exact first q
    · rcases List.mem_append.mp inside with before | behind
      · exact full before
      · exact plain behind

theorem match_line_returned (longer line : List Char) (returned : Text.Returned longer line) :
    matchLine? longer = matchLine? line := by
  rcases returned with rfl | rfl
  · rfl
  · exact match_line_tail line ['\r'] (by decide)

theorem scan_lines_matched (lines lines' : List (List Char))
    (matched : List.Forall₂ (fun text text' => matchLine? text = matchLine? text') lines lines')
    (done : List Tunable) (line : Nat) : scanLines done line lines = scanLines done line lines' := by
  induction matched generalizing done line with
  | nil => rfl
  | cons same _ ih => simp only [scanLines, same, ih]

theorem line_ends_ignored (source : String) :
    scan (String.ofList (Text.withReturns source.toList)) = scan source := by
  have returned : List.Forall₂ Text.Returned (Text.lines (Text.withReturns source.toList)) (Text.lines source.toList) :=
    Text.lines_with_returns [] source.toList
  have matched := returned.imp match_line_returned
  rw [scan, scan, String.toList_ofList]
  exact scan_lines_matched _ _ matched [] 1

end Tunable

end ShaderKnobs
