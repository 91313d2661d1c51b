import ShaderKnobs.Proofs.Json.Reread
import ShaderKnobs.Proofs.Literal.Sequence

set_option autoImplicit false

namespace ShaderKnobs

namespace Json

theorem of_entries_member (entries : List (String × Json)) (field : String × Json)
    (member : field ∈ Fields.ofEntries entries) : field ∈ entries :=
  Literal.gathered_member entries _ ((Literal.gathers_iff entries _).mpr rfl) field member

end Json

namespace Raw

theorem matched_member {α β : Type} {R : α → β → Prop} (as : List α) (bs : List β) (matched : List.Forall₂ R as bs)
    (b : β) (member : b ∈ bs) : ∃ a ∈ as, R a b := by
  induction matched with
  | nil => cases member
  | cons first _ ih =>
      rcases List.mem_cons.mp member with rfl | later
      · exact ⟨_, List.mem_cons_self, first⟩
      · obtain ⟨a, inside, same⟩ := ih later
        exact ⟨a, List.mem_cons_of_mem _ inside, same⟩

theorem fields_members (decode : Raw → Option Json) (entries : List (String × Raw)) (fields : Fields)
    (gathered : fields? decode entries = some fields) :
    Fields.Rising fields ∧ ∀ field ∈ fields, ∃ entry ∈ entries, entry.1 = field.1 ∧ decode entry.2 = some field.2 := by
  obtain ⟨decoded, matched, rfl⟩ := (fields_matched _ _ _).mp gathered
  refine ⟨Fields.of_entries_rising decoded, fun field member => ?_⟩
  exact matched_member _ _ matched field (Json.of_entries_member decoded field member)

theorem number_leaf (real : RealReader) (numeral : Number.Numeral) (isInteger : Bool) (data : Json)
    (made : number? real numeral isInteger = some data) : Json.Within 0 data := by
  have integer : ∀ n, Json.ofInt? n = some data → Json.Within 0 data := by
    intro n whole
    obtain ⟨w, rfl, _⟩ := (Literal.of_int_some n data).mp whole
    trivial
  simp only [number?] at made
  split at made
  · exact integer _ made
  split at made
  · exact integer _ made
  · obtain ⟨x, _, rfl⟩ := Option.map_eq_some_iff.mp made
    trivial

theorem json_within (real : RealReader) (levels : Nat) (raw : Raw) (data : Json)
    (made : json? real levels raw = some data) : Json.Within levels data := by
  induction levels generalizing raw data with
  | zero =>
      cases raw with
      | null => exact Option.some.inj made ▸ trivial
      | bool value => exact Option.some.inj made ▸ trivial
      | number numeral isInteger => exact number_leaf real numeral isInteger data made
      | text pieces =>
          obtain ⟨_, _, rfl⟩ := Option.map_eq_some_iff.mp made
          trivial
      | array items => cases made
      | object entries => cases made
  | succ levels ih =>
      cases raw with
      | null => exact Option.some.inj made ▸ trivial
      | bool value => exact Option.some.inj made ▸ trivial
      | number numeral isInteger =>
          exact Json.within_more 0 _ (Nat.zero_le _) data (number_leaf real numeral isInteger data made)
      | text pieces =>
          obtain ⟨_, _, rfl⟩ := Option.map_eq_some_iff.mp made
          trivial
      | array items =>
          obtain ⟨decoded, each, rfl⟩ := Option.map_eq_some_iff.mp made
          intro item member
          obtain ⟨raw, _, found⟩ := matched_member _ _ ((map_m_matched _ _ _).mp each) item member
          exact ih raw item found
      | object entries =>
          obtain ⟨fields, gathered, rfl⟩ := Option.map_eq_some_iff.mp made
          obtain ⟨keyed, _, gathered⟩ := Option.bind_eq_some_iff.mp gathered
          obtain ⟨rising, members⟩ := fields_members _ _ _ gathered
          refine ⟨rising, fun field member => ?_⟩
          obtain ⟨entry, _, _, found⟩ := members field member
          exact ih entry.2 field.2 found

end Raw

namespace Json

-- The data that its own text gives again, no more and no less.
theorem compact_read_iff (real : RealReader) (data : Json) :
    readWith? real data.compact = some data ↔ Within maxDepth data ∧ ∀ x, Occurs x data → real.Keeps x := by
  have from_text : readWith? real data.compact = some data → Within maxDepth data := by
    intro read
    obtain ⟨raw, _, made⟩ := Option.bind_eq_some_iff.mp read
    exact Raw.json_within real maxDepth raw data made
  have kept : Within maxDepth data →
      (readWith? real data.compact = some data ↔ ∀ x, Occurs x data → real.Keeps x) := by
    intro within
    obtain ⟨raw, back⟩ := within_read maxDepth data within
    rw [readWith?, compact, Raw.read_compact _ _ back.text, Option.bind_some, back.same real]
  exact ⟨fun read => ⟨from_text read, (kept (from_text read)).mp read⟩, fun both => (kept both.1).mpr both.2⟩

end Json

end ShaderKnobs
