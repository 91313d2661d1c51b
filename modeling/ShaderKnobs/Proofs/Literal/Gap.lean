import ShaderKnobs.Proofs.Literal.Grammar

set_option autoImplicit false

namespace ShaderKnobs.Literal

def isSeparator (c : Char) : Bool := Text.isAsciiBlank c || [',', ':', ']', '\x7d', '/'].contains c

def Ends (rest : List Char) : Prop := ∀ c, rest.head? = some c → isSeparator c = true

def Begins (text : List Char) : Prop := ∃ c rest, text = c :: rest ∧ isSeparator c = false

def NoGap (text : List Char) : Prop := ∀ c, text.head? = some c → Text.isAsciiBlank c = false ∧ c ≠ '/'

theorem begins_no_gap (text : List Char) (begins : Begins text) : NoGap text := by
  obtain ⟨c, rest, rfl, token⟩ := begins
  intro d head
  obtain rfl := Option.some.inj head
  simp only [isSeparator, Bool.or_eq_false_iff] at token
  refine ⟨token.1, ?_⟩
  rintro rfl
  simp at token

theorem no_gap_cons (c : Char) (rest : List Char) (solid : Text.isAsciiBlank c = false) (slash : c ≠ '/') :
    NoGap (c :: rest) := by
  intro d head
  obtain rfl := Option.some.inj head
  exact ⟨solid, slash⟩

theorem gap_shorter (text rest : List Char) (gap : Gap text rest) : rest.length ≤ text.length := by
  induction gap with
  | none rest => exact Nat.le_refl _
  | blank c text rest blank _ ih => exact Nat.le_succ_of_le ih
  | line body text rest _ _ ih =>
      simp only [List.length_cons, List.length_append]
      omega
  | lastLine body _ => exact Nat.zero_le _
  | block body text rest _ _ ih =>
      simp only [List.length_cons, List.length_append]
      omega

theorem gap_ends (text rest : List Char) (gap : Gap text rest) (ends : Ends rest) : Ends text := by
  have slash : ∀ rest, Ends ('/' :: rest) := by
    intro rest c head
    obtain rfl := Option.some.inj head
    rfl
  cases gap with
  | none rest => exact ends
  | blank c text rest blank _ =>
      intro d head
      obtain rfl := Option.some.inj head
      simp [isSeparator, blank]
  | line body text rest _ _ => exact slash _
  | lastLine body _ => exact slash _
  | block body text rest _ _ => exact slash _

theorem skip_line (body text : List Char) (plain : '\n' ∉ body) :
    skipTriviaFrom .line (body ++ '\n' :: text) = skipTriviaFrom .between text := by
  induction body with
  | nil => simp [skipTriviaFrom]
  | cons c body ih =>
      rw [List.mem_cons, not_or] at plain
      rw [List.cons_append, skipTriviaFrom, if_neg (Ne.symm plain.1)]
      exact ih plain.2

theorem skip_last_line (body : List Char) (plain : '\n' ∉ body) : skipTriviaFrom .line body = .ok [] := by
  induction body with
  | nil => rfl
  | cons c body ih =>
      rw [List.mem_cons, not_or] at plain
      rw [skipTriviaFrom, if_neg (Ne.symm plain.1)]
      exact ih plain.2

theorem skip_block (start body text : List Char) (unclosed : ¬['*', '/'] <:+: body) :
    skipTriviaFrom (.block start) (body ++ '*' :: '/' :: text) = skipTriviaFrom .between text := by
  induction body with
  | nil => simp [skipTriviaFrom]
  | cons c body ih =>
      have later : ¬['*', '/'] <:+: body := fun closed => unclosed (List.infix_cons closed)
      rw [List.cons_append, skipTriviaFrom]
      · exact ih later
      · rintro rest rfl after
        cases body with
        | nil => simp at after
        | cons d body =>
            obtain ⟨rfl, _⟩ := List.cons.inj after
            exact unclosed ⟨[], body, rfl⟩

theorem skip_gap (text rest : List Char) (gap : Gap text rest) (solid : NoGap rest) :
    skipTrivia text = .ok rest := by
  simp only [skipTrivia]
  induction gap with
  | none rest =>
      cases rest with
      | nil => rfl
      | cons c rest =>
          obtain ⟨blank, slash⟩ := solid c rfl
          unfold skipTriviaFrom
          split <;> simp_all
  | blank c text rest blank _ ih =>
      have slash : c ≠ '/' := by
        rintro rfl
        simp [Text.isAsciiBlank] at blank
      unfold skipTriviaFrom
      split <;> simp_all
  | line body text rest plain _ ih =>
      rw [skipTriviaFrom, skip_line body text plain]
      exact ih solid
  | lastLine body plain => rw [skipTriviaFrom, skip_last_line body plain]
  | block body text rest unclosed _ ih =>
      rw [skipTriviaFrom, skip_block _ body text unclosed]
      exact ih solid

-- What a scan in each mode has passed over when it stops.
def Passes : TriviaMode → List Char → List Char → Prop
  | .between, text, rest => Gap text rest
  | .line, text, rest =>
      (∃ body after, text = body ++ '\n' :: after ∧ '\n' ∉ body ∧ Gap after rest) ∨ ('\n' ∉ text ∧ rest = [])
  | .block _, text, rest =>
      ∃ body after, text = body ++ '*' :: '/' :: after ∧ ¬['*', '/'] <:+: body ∧ Gap after rest

theorem skip_passes (mode : TriviaMode) (text rest : List Char) (skipped : skipTriviaFrom mode text = .ok rest) :
    Passes mode text rest := by
  fun_induction skipTriviaFrom mode text with
  | case1 text ih =>
      rcases ih skipped with ⟨body, after, rfl, plain, gap⟩ | ⟨plain, rfl⟩
      · exact .line body after rest plain gap
      · exact .lastLine text plain
  | case2 text ih =>
      obtain ⟨body, after, rfl, unclosed, gap⟩ := ih skipped
      exact .block body after rest unclosed gap
  | case3 c text _ _ blank ih => exact .blank c text rest blank (ih skipped)
  | case4 c text _ _ solid =>
      obtain rfl := Except.ok.inj skipped
      exact .none _
  | case5 text ih => exact .inl ⟨[], text, rfl, by simp, ih skipped⟩
  | case6 c text inside ih =>
      rcases ih skipped with ⟨body, after, rfl, plain, gap⟩ | ⟨plain, rfl⟩
      · exact .inl ⟨c :: body, after, rfl, by simp [plain, Ne.symm inside], gap⟩
      · exact .inr ⟨by simp [plain, Ne.symm inside], rfl⟩
  | case7 start text ih => exact ⟨[], text, rfl, by simp, ih skipped⟩
  | case8 start c text open_ ih =>
      obtain ⟨body, after, rfl, unclosed, gap⟩ := ih skipped
      refine ⟨c :: body, after, rfl, fun closed => ?_, gap⟩
      rcases List.infix_cons_iff.mp closed with ⟨later, here⟩ | inside
      · obtain ⟨star, slash⟩ := List.cons.inj here
        exact open_ (later ++ '*' :: '/' :: after) star.symm (by rw [← slash]; rfl)
      · exact unclosed inside
  | case9 start => cases skipped
  | case10 =>
      obtain rfl := Except.ok.inj skipped
      exact .none []
  | case11 =>
      obtain rfl := Except.ok.inj skipped
      exact .inr ⟨by simp, rfl⟩

theorem skipped_gap (text rest : List Char) (skipped : skipTrivia text = .ok rest) : Gap text rest :=
  skip_passes .between text rest skipped

end ShaderKnobs.Literal
