import ShaderKnobs.Text.Word

set_option autoImplicit false

namespace ShaderKnobs.Text

def rising (low : Nat) : List (Nat × Nat) → Bool
  | [] => true
  | range :: rest => low ≤ range.1 && range.1 ≤ range.2 && rising (range.2 + 1) rest

-- No two ranges of the tables meet, if both tables rise. Ranges that end before the first one of the left
-- table begins are done with, since the left table only rises.
def apart : List (Nat × Nat) → List (Nat × Nat) → Bool
  | [], _ => true
  | range :: rest, others =>
      match others.dropWhile (·.2 < range.1) with
      | [] => true
      | next :: later => range.2 < next.1 && apart rest (next :: later)

theorem rising_rest (low : Nat) (range : Nat × Nat) (rest : List (Nat × Nat))
    (order : rising low (range :: rest) = true) :
    low ≤ range.1 ∧ range.1 ≤ range.2 ∧ rising (range.2 + 1) rest = true := by
  simpa [rising, and_assoc] using order

theorem rising_above (low : Nat) (ranges : List (Nat × Nat)) (order : rising low ranges = true) :
    ∀ range ∈ ranges, low ≤ range.1 := by
  induction ranges generalizing low with
  | nil => exact fun _ member => nomatch member
  | cons first rest ih =>
      obtain ⟨start, nonempty, later⟩ := rising_rest low first rest order
      intro range member
      rcases List.mem_cons.mp member with rfl | behind
      · exact start
      · have := ih (first.2 + 1) later range behind
        omega

theorem rising_drop (low : Nat) (p : Nat × Nat → Bool) (ranges : List (Nat × Nat)) (order : rising low ranges = true) :
    ∃ low', rising low' (ranges.dropWhile p) = true := by
  induction ranges generalizing low with
  | nil => exact ⟨low, order⟩
  | cons first rest ih =>
      rw [List.dropWhile_cons]
      split
      · exact ih (first.2 + 1) (rising_rest low first rest order).2.2
      · exact ⟨low, order⟩

def Within (n : Nat) (ranges : List (Nat × Nat)) : Prop := ∃ range ∈ ranges, range.1 ≤ n ∧ n ≤ range.2

theorem in_ranges_iff (ranges : List (Nat × Nat)) (c : Char) : inRanges ranges c = true ↔ Within c.toNat ranges := by
  simp [inRanges, Within]

theorem within_drop (n bound : Nat) (ranges : List (Nat × Nat)) (reached : bound ≤ n) (within : Within n ranges) :
    Within n (ranges.dropWhile (·.2 < bound)) := by
  obtain ⟨range, member, start, stop⟩ := within
  induction ranges with
  | nil => cases member
  | cons first rest ih =>
      rw [List.dropWhile_cons]
      split
      · next ended =>
          rcases List.mem_cons.mp member with rfl | behind
          · have := of_decide_eq_true ended
            omega
          · exact ih behind
      · exact ⟨range, member, start, stop⟩

theorem apart_no_common (n low low' : Nat) (ranges others : List (Nat × Nat)) (order : rising low ranges = true)
    (order' : rising low' others = true) (separate : apart ranges others = true) (within : Within n ranges) :
    ¬Within n others := by
  induction ranges generalizing low low' others with
  | nil =>
      obtain ⟨_, member, _⟩ := within
      cases member
  | cons first rest ih =>
      obtain ⟨start, nonempty, later⟩ := rising_rest low first rest order
      have reached : first.1 ≤ n := by
        obtain ⟨range, member, below, _⟩ := within
        rcases List.mem_cons.mp member with rfl | behind
        · exact below
        · have := rising_above (first.2 + 1) rest later range behind
          omega
      intro common
      have remains := within_drop n first.1 others reached common
      obtain ⟨low'', order''⟩ := rising_drop low' (·.2 < first.1) others order'
      rw [apart] at separate
      split at separate
      · next none =>
          rw [none] at remains
          obtain ⟨_, member, _⟩ := remains
          cases member
      · next next_ further some_ =>
          rw [some_] at remains order''
          rw [Bool.and_eq_true, decide_eq_true_eq] at separate
          have beyond : next_.1 ≤ n := by
            obtain ⟨range, member, below, _⟩ := remains
            rcases List.mem_cons.mp member with rfl | behind
            · exact below
            · have := rising_rest low'' next_ further order''
              have := rising_above (next_.2 + 1) further this.2.2 range behind
              omega
          refine ih (first.2 + 1) low'' (next_ :: further) later order'' separate.2 ?_ remains
          obtain ⟨range, member, below, above⟩ := within
          rcases List.mem_cons.mp member with rfl | behind
          · omega
          · exact ⟨range, behind, below, above⟩

theorem in_ranges_apart (ranges others : List (Nat × Nat)) (order : rising 0 ranges = true)
    (order' : rising 0 others = true) (separate : apart ranges others = true) (c : Char)
    (inside : inRanges ranges c = true) : inRanges others c = false := by
  rw [in_ranges_iff] at inside
  have none := apart_no_common c.toNat 0 0 ranges others order order' separate inside
  rw [← in_ranges_iff] at none
  simpa using none

theorem digits_numeric (c : Char) (digit : inRanges decimalDigits c = true) : inRanges numeric c = true := by
  have covered : ∀ d ∈ decimalDigits, ∃ range ∈ numeric, range.1 ≤ d.1 ∧ d.2 ≤ range.2 := by
    decide +kernel
  rw [in_ranges_iff] at digit ⊢
  obtain ⟨d, member, below, above⟩ := digit
  obtain ⟨range, there, start, stop⟩ := covered d member
  exact ⟨range, there, Nat.le_trans start below, Nat.le_trans above stop⟩

end ShaderKnobs.Text
