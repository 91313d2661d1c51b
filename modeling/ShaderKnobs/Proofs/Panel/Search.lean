import ShaderKnobs.Proofs.Panel.Tidy

set_option autoImplicit false

namespace ShaderKnobs

namespace Panel

structure Binds (panel : Panel) (title key : String) (entry : Section × Control) : Prop where
  present : entry.1 ∈ panel.sections
  title : entry.1.title = title
  live : entry.2 ∈ panel.controls
  home : entry.2.section_ = entry.1.id
  key : entry.2.spec.key = key

-- Numbers are given in rising order, and so an earlier section or control has a smaller one.
def Precedes (one two : Section × Control) : Prop :=
  one.1.id.number < two.1.id.number ∨ (one.1 = two.1 ∧ one.2.id.number < two.2.id.number)

def entriesOf (panel : Panel) (s : Section) : List (Section × Control) := (panel.residents s.id).map (s, ·)

def entries (panel : Panel) : List (Section × Control) := panel.sections.flatMap panel.entriesOf

def wanted (title key : String) (entry : Section × Control) : Bool :=
  decide (entry.1.title = title) && decide (entry.2.spec.key = key)

theorem mem_entries (panel : Panel) (entry : Section × Control) :
    entry ∈ panel.entries ↔ entry.1 ∈ panel.sections ∧ entry.2 ∈ panel.controls ∧ entry.2.section_ = entry.1.id := by
  obtain ⟨s, c⟩ := entry
  simp only [entries, entriesOf, List.mem_flatMap, List.mem_map, mem_residents]
  constructor
  · rintro ⟨_, present, _, resident, same⟩
    obtain ⟨rfl, rfl⟩ := Prod.mk.inj same
    exact ⟨present, resident⟩
  · rintro ⟨present, resident⟩
    exact ⟨s, present, c, resident, rfl⟩

theorem binds_iff (panel : Panel) (title key : String) (entry : Section × Control) :
    panel.Binds title key entry ↔ entry ∈ panel.entries ∧ wanted title key entry = true := by
  rw [mem_entries, wanted, Bool.and_eq_true, decide_eq_true_iff, decide_eq_true_iff]
  constructor
  · exact fun binds => ⟨⟨binds.present, binds.live, binds.home⟩, binds.title, binds.key⟩
  · rintro ⟨⟨present, live, home⟩, title, key⟩
    exact ⟨present, title, live, home, key⟩

theorem Tidy.entries_sorted {panel : Panel} (tidy : panel.Tidy) : panel.entries.Pairwise Precedes := by
  rw [entries, List.pairwise_flatMap]
  constructor
  · intro s _
    rw [entriesOf, List.pairwise_map]
    exact (tidy.controls.filter _).imp fun less => .inr ⟨rfl, less⟩
  · refine tidy.sections.imp fun {a b} less => ?_
    intro first inFirst second inSecond
    obtain ⟨_, _, rfl⟩ := List.mem_map.mp inFirst
    obtain ⟨_, _, rfl⟩ := List.mem_map.mp inSecond
    exact .inl less

theorem Tidy.section_search {panel : Panel} (tidy : panel.Tidy) (key : String) (s : Section)
    (present : s ∈ panel.sections) :
    s.controls.find? (fun id => ((panel.control? id).map fun c => decide (c.spec.key = key)).getD false) =
      ((panel.entriesOf s).find? (wanted s.title key)).map (·.2.id) := by
  rw [tidy.listed s present, entriesOf, List.find?_map, List.find?_map, Option.map_map]
  congr 1
  have same : ∀ c ∈ panel.residents s.id,
      ((panel.control? c.id).map fun c => decide (c.spec.key = key)).getD false = wanted s.title key (s, c) := by
    intro c resident
    have found := (tidy.control_iff c.id c).mpr ⟨((mem_residents s.id panel c).mp resident).1, rfl⟩
    simp [found, wanted]
  generalize panel.residents s.id = controls at same
  induction controls with
  | nil => rfl
  | cons c rest ih =>
      have rest := ih fun c later => same c (List.mem_cons_of_mem _ later)
      simp only [List.find?_cons, Function.comp_apply, same c List.mem_cons_self] at rest ⊢
      rw [rest]

-- The induction is on the sections still to be searched.
theorem Tidy.search_sections {panel : Panel} (tidy : panel.Tidy) (title key : String) (homes : List Section)
    (present : ∀ s ∈ homes, s ∈ panel.sections) :
    ((homes.filter (·.title = title)).flatMap (·.controls)).find?
        (fun id => ((panel.control? id).map fun c => decide (c.spec.key = key)).getD false) =
      ((homes.flatMap panel.entriesOf).find? (wanted title key)).map (·.2.id) := by
  induction homes with
  | nil => rfl
  | cons s rest ih =>
      have later := ih fun s member => present s (List.mem_cons_of_mem _ member)
      rw [List.flatMap_cons, List.find?_append, Option.map_or, ← later]
      by_cases titled : s.title = title
      · have own := tidy.section_search key s (present s List.mem_cons_self)
        rw [titled] at own
        rw [List.filter_cons, if_pos (by simpa using titled), List.flatMap_cons, List.find?_append, own]
      · have none : (panel.entriesOf s).find? (wanted title key) = none := by
          refine List.find?_eq_none.mpr fun entry member fits => ?_
          obtain ⟨c, _, rfl⟩ := List.mem_map.mp member
          rw [wanted, Bool.and_eq_true] at fits
          exact titled (of_decide_eq_true fits.1)
        rw [List.filter_cons, if_neg (by simpa using titled), none, Option.map_none, Option.none_or]

theorem Tidy.find_entries {panel : Panel} (tidy : panel.Tidy) (title key : String) :
    panel.find title key = (panel.entries.find? (wanted title key)).map (·.2.id) :=
  tidy.search_sections title key panel.sections fun _ present => present

theorem find_sorted {α : Type} (precedes : α → α → Prop) (asymmetric : ∀ a b, precedes a b → ¬precedes b a)
    (p : α → Bool) (xs : List α) (sorted : xs.Pairwise precedes) (a : α) :
    xs.find? p = some a ↔ (a ∈ xs ∧ p a = true) ∧ ∀ b, b ∈ xs ∧ p b = true → b = a ∨ precedes a b := by
  have first : ∀ a, xs.find? p = some a → ∀ b, b ∈ xs ∧ p b = true → b = a ∨ precedes a b := by
    rintro a found b ⟨member, fits⟩
    obtain ⟨_, before, after, rfl, misfits⟩ := List.find?_eq_some_iff_append.mp found
    rcases List.mem_append.mp member with early | late
    · have misfit := misfits b early
      rw [fits] at misfit
      cases misfit
    · rcases List.mem_cons.mp late with same | later
      · exact .inl same
      · rw [List.pairwise_append, List.pairwise_cons] at sorted
        exact .inr (sorted.2.1.1 b later)
  constructor
  · exact fun found => ⟨⟨List.mem_of_find?_eq_some found, List.find?_some found⟩, first a found⟩
  · rintro ⟨⟨member, fits⟩, least⟩
    cases found : xs.find? p with
    | none => exact absurd fits (List.find?_eq_none.mp found a member)
    | some b =>
        rcases first b found a ⟨member, fits⟩ with rfl | sooner
        · rfl
        · rcases least b ⟨List.mem_of_find?_eq_some found, List.find?_some found⟩ with rfl | later
          · rfl
          · exact absurd later (asymmetric b a sooner)

theorem precedes_asymmetric (one two : Section × Control) (sooner : Precedes one two) : ¬Precedes two one := by
  intro later
  rcases sooner with less | ⟨same, less⟩ <;> rcases later with more | ⟨same', more⟩
  · omega
  · rw [same'] at less
    omega
  · rw [same] at more
    omega
  · omega

theorem Tidy.find_first {panel : Panel} (tidy : panel.Tidy) (title key : String) (id : ControlId) :
    panel.find title key = some id ↔ ∃ entry, panel.Binds title key entry ∧ entry.2.id = id ∧
      ∀ other, panel.Binds title key other → other = entry ∨ Precedes entry other := by
  have chosen := find_sorted Precedes precedes_asymmetric (wanted title key) panel.entries tidy.entries_sorted
  rw [tidy.find_entries, Option.map_eq_some_iff]
  simp only [chosen, binds_iff]
  constructor
  · rintro ⟨entry, ⟨fits, least⟩, number⟩
    exact ⟨entry, fits, number, least⟩
  · rintro ⟨entry, fits, number, least⟩
    exact ⟨entry, ⟨fits, least⟩, number⟩

theorem Tidy.find_some {panel : Panel} (tidy : panel.Tidy) (title key : String) :
    (panel.find title key).isSome ↔ ∃ entry, panel.Binds title key entry := by
  rw [tidy.find_entries, Option.isSome_map, List.find?_isSome]
  simp only [binds_iff]

end Panel

end ShaderKnobs
