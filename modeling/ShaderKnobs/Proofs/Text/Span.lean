import ShaderKnobs.Text.Blank
import ShaderKnobs.Text.Word

set_option autoImplicit false

namespace ShaderKnobs.Text

def Run (p : Char → Bool) (text : List Char) : Prop := ∀ c ∈ text, p c = true

instance (p : Char → Bool) (text : List Char) : Decidable (Run p text) := List.decidableBAll (p · = true) text

theorem span_exact (p : Char → Bool) (body rest : List Char) (inside : Run p body)
    (stop : ∀ c, rest.head? = some c → p c = false) :
    (body ++ rest).takeWhile p = body ∧ (body ++ rest).dropWhile p = rest := by
  rw [List.takeWhile_append_of_pos inside, List.dropWhile_append_of_pos inside]
  cases rest with
  | nil => simp
  | cons c rest => simp [stop c rfl]

theorem span_inside (p : Char → Bool) (text : List Char) : Run p (text.takeWhile p) := by
  induction text with
  | nil => simp [Run]
  | cons c text ih =>
      rw [List.takeWhile_cons]
      split
      · next first =>
          intro d member
          rcases List.mem_cons.mp member with rfl | later
          · exact first
          · exact ih d later
      · simp [Run]

def blanks : List Nat :=
  [0x9, 0xa, 0xb, 0xc, 0xd, 0x20, 0x85, 0xa0, 0x1680, 0x2000, 0x2001, 0x2002, 0x2003, 0x2004, 0x2005, 0x2006,
    0x2007, 0x2008, 0x2009, 0x200a, 0x2028, 0x2029, 0x202f, 0x205f, 0x3000]

theorem blank_listed (c : Char) (blank : isBlank c = true) : c.toNat ∈ blanks := by
  simp only [isBlank, Bool.or_eq_true, Bool.and_eq_true, decide_eq_true_eq, beq_iff_eq] at blank
  simp only [blanks, List.mem_cons, List.not_mem_nil, or_false]
  omega

theorem blank_not_word (c : Char) (blank : isBlank c = true) : isWord c = false := by
  have apart : ∀ n ∈ blanks, isWord (Char.ofNat n) = false := by decide +kernel
  have found := apart c.toNat (blank_listed c blank)
  rwa [Char.ofNat_toNat] at found

theorem word_not_blank (c : Char) (word : isWord c = true) : isBlank c = false := by
  cases blank : isBlank c with
  | false => rfl
  | true =>
      rw [blank_not_word c blank] at word
      cases word

end ShaderKnobs.Text
