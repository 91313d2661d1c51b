set_option autoImplicit false

namespace ShaderKnobs

-- Answers of builds and scans can be compared, so that concrete ones can be evaluated.
instance exceptDecidableEq {ε α : Type} [DecidableEq ε] [DecidableEq α] : DecidableEq (Except ε α)
  | .error a, .error b => decidable_of_iff (a = b) ⟨congrArg _, Except.error.inj⟩
  | .ok a, .ok b => decidable_of_iff (a = b) ⟨congrArg _, Except.ok.inj⟩
  | .error _, .ok _ => .isFalse nofun
  | .ok _, .error _ => .isFalse nofun

theorem answer_pair {α β : Type} (result : α × β) (answer : α) (first : result.1 = answer) :
    result = (answer, result.2) := by
  rw [← first]

theorem ok_bind {ε α β : Type} (a : α) (next : α → Except ε β) : ((.ok a : Except ε α) >>= next) = next a := rfl

theorem bind_error {ε α β : Type} (first : Except ε α) (next : α → Except ε β) (error : ε)
    (refused : first >>= next = .error error) :
    first = .error error ∨ ∃ a, first = .ok a ∧ next a = .error error := by
  cases first with
  | error e =>
      obtain rfl := Except.error.inj refused
      exact .inl rfl
  | ok a => exact .inr ⟨a, rfl, refused⟩

theorem bind_ok {ε α β : Type} (first : Except ε α) (next : α → Except ε β) (result : β)
    (done : first >>= next = .ok result) : ∃ a, first = .ok a ∧ next a = .ok result := by
  cases first with
  | error e => cases done
  | ok a => exact ⟨a, rfl, done⟩

theorem map_error_ok {ε δ α : Type} (first : Except ε α) (f : ε → δ) (a : α)
    (done : first.mapError f = .ok a) : first = .ok a := by
  cases first with
  | error e => cases done
  | ok b =>
      obtain rfl := Except.ok.inj done
      rfl

end ShaderKnobs
