import Mathlib.Data.List.Nodup
import ShaderKnobs.Panel.Basic
import ShaderKnobs.Proofs.Studio.Values

set_option autoImplicit false

namespace ShaderKnobs

namespace Panel

-- The controls whose home a section is.
def residents (home : SectionId) (panel : Panel) : List Control := panel.controls.filter (·.section_ = home)

structure Tidy (panel : Panel) : Prop where
  sections : panel.sections.Pairwise (·.id.number < ·.id.number)
  controls : panel.controls.Pairwise (·.id.number < ·.id.number)
  opened : ∀ s ∈ panel.sections, s.id.number ≤ panel.lastId
  made : ∀ c ∈ panel.controls, c.id.number ≤ panel.lastId
  listed : ∀ s ∈ panel.sections, s.controls = (panel.residents s.id).map (·.id)
  housed : ∀ c ∈ panel.controls, ∃ s ∈ panel.sections, s.id = c.section_
  fits : ∀ c ∈ panel.controls, c.spec.knob.accepts c.setting = true
  shut : panel.disposed = true → panel.sections = [] ∧ panel.controls = []

theorem Tidy.ids {panel : Panel} (tidy : panel.Tidy) : (panel.controls.map (·.id)).Nodup := by
  rw [List.Nodup, List.pairwise_map]
  refine tidy.controls.imp fun {a b} less same => ?_
  rw [same] at less
  exact Nat.lt_irrefl _ less

theorem Tidy.section_ids {panel : Panel} (tidy : panel.Tidy) : (panel.sections.map (·.id)).Nodup := by
  rw [List.Nodup, List.pairwise_map]
  refine tidy.sections.imp fun {a b} less same => ?_
  rw [same] at less
  exact Nat.lt_irrefl _ less

theorem Tidy.control_iff {panel : Panel} (tidy : panel.Tidy) (id : ControlId) (c : Control) :
    panel.control? id = some c ↔ c ∈ panel.controls ∧ c.id = id := by
  constructor
  · intro found
    exact ⟨List.mem_of_find?_eq_some found, by simpa using List.find?_some found⟩
  · rintro ⟨member, rfl⟩
    exact find_key Control.id panel.controls c tidy.ids member

theorem Tidy.section_iff {panel : Panel} (tidy : panel.Tidy) (id : SectionId) (s : Section) :
    panel.section? id = some s ↔ s ∈ panel.sections ∧ s.id = id := by
  constructor
  · intro found
    exact ⟨List.mem_of_find?_eq_some found, by simpa using List.find?_some found⟩
  · rintro ⟨member, rfl⟩
    exact find_key Section.id panel.sections s tidy.section_ids member

theorem mem_residents (home : SectionId) (panel : Panel) (c : Control) :
    c ∈ panel.residents home ↔ c ∈ panel.controls ∧ c.section_ = home := by
  simp [residents]

theorem Tidy.lists_iff {panel : Panel} (tidy : panel.Tidy) (s : Section) (present : s ∈ panel.sections) (c : Control)
    (live : c ∈ panel.controls) : c.id ∈ s.controls ↔ c.section_ = s.id := by
  rw [tidy.listed s present, List.mem_map]
  constructor
  · rintro ⟨other, resident, same⟩
    rw [mem_residents] at resident
    obtain rfl := List.inj_on_of_nodup_map tidy.ids resident.1 live same
    exact resident.2
  · intro home
    exact ⟨c, (mem_residents s.id panel c).mpr ⟨live, home⟩, rfl⟩

theorem tidy_empty : empty.Tidy where
  sections := List.Pairwise.nil
  controls := List.Pairwise.nil
  opened _ member := by cases member
  made _ member := by cases member
  listed _ member := by cases member
  housed _ member := by cases member
  fits _ member := by cases member
  shut _ := ⟨rfl, rfl⟩

theorem tidy_add_section (title : String) (panel : Panel) (tidy : panel.Tidy) : (panel.addSection title).2.Tidy := by
  simp only [addSection]
  by_cases gone : panel.disposed = true
  · rw [if_pos gone]
    exact tidy
  rw [if_neg gone]
  refine ⟨?_, tidy.controls, ?_, ?_, ?_, ?_, tidy.fits, fun shut => absurd shut gone⟩
  · rw [List.pairwise_append]
    refine ⟨tidy.sections, List.pairwise_singleton _ _, fun s old new added => ?_⟩
    rw [List.mem_singleton.mp added]
    exact Nat.lt_succ_of_le (tidy.opened s old)
  · intro s member
    rcases List.mem_append.mp member with old | added
    · exact Nat.le_succ_of_le (tidy.opened s old)
    · obtain rfl := List.mem_singleton.mp added
      exact Nat.le_refl _
  · exact fun c live => Nat.le_succ_of_le (tidy.made c live)
  · intro s member
    rcases List.mem_append.mp member with old | added
    · exact tidy.listed s old
    · rw [List.mem_singleton.mp added]
      have nobody : panel.residents ⟨panel.lastId + 1⟩ = [] := by
        refine List.filter_eq_nil_iff.mpr fun c live home => ?_
        obtain ⟨s, old, housed⟩ := tidy.housed c live
        have bound := tidy.opened s old
        rw [housed, of_decide_eq_true home] at bound
        exact Nat.not_succ_le_self _ bound
      exact (congrArg (List.map Control.id) nobody).symm
  · intro c live
    obtain ⟨s, old, housed⟩ := tidy.housed c live
    exact ⟨s, List.mem_append_left _ old, housed⟩

theorem no_control_fault (home : SectionId) (spec : ControlSpec) (panel : Panel)
    (granted : panel.controlFault? home spec = none) :
    panel.disposed = false ∧ (∃ s ∈ panel.sections, s.id = home) ∧ spec.knob.accepts spec.initial = true := by
  simp only [controlFault?] at granted
  by_cases gone : panel.disposed = true
  · rw [if_pos gone] at granted
    cases granted
  rw [if_neg gone] at granted
  cases found : panel.section? home with
  | none =>
      rw [found] at granted
      cases granted
  | some s =>
      rw [found, if_neg (by simp)] at granted
      by_cases fits : spec.knob.accepts spec.initial = true
      · exact ⟨by simpa using gone, ⟨s, List.mem_of_find?_eq_some found, by simpa using List.find?_some found⟩, fits⟩
      · rw [if_neg fits] at granted
        cases granted

def receive (home : SectionId) (id : ControlId) (s : Section) : Section :=
  if s.id = home then { s with controls := s.controls ++ [id] } else s

theorem receive_id (home : SectionId) (id : ControlId) (s : Section) : (receive home id s).id = s.id := by
  simp only [receive]
  split <;> rfl

def newControl (home : SectionId) (spec : ControlSpec) (panel : Panel) : Control :=
  ⟨⟨panel.lastId + 1⟩, home, spec, spec.initial, []⟩

def withControl (home : SectionId) (spec : ControlSpec) (panel : Panel) : Panel := { panel with
  lastId := panel.lastId + 1
  sections := panel.sections.map (receive home ⟨panel.lastId + 1⟩)
  controls := panel.controls ++ [panel.newControl home spec] }

theorem add_control_granted (home : SectionId) (spec : ControlSpec) (panel : Panel)
    (granted : panel.controlFault? home spec = none) :
    panel.addControl home spec = (.ok ⟨panel.lastId + 1⟩, panel.withControl home spec) := by
  simp only [addControl, granted]
  rfl

theorem with_control_listed (home : SectionId) (spec : ControlSpec) (panel : Panel) (tidy : panel.Tidy) (s : Section)
    (present : s ∈ panel.sections) :
    (receive home ⟨panel.lastId + 1⟩ s).controls = ((panel.withControl home spec).residents s.id).map (·.id) := by
  have before := tidy.listed s present
  simp only [residents] at before
  simp only [residents, withControl, List.filter_append, List.map_append, ← before, receive]
  by_cases here : s.id = home
  · simp [here, newControl]
  · simp [here, Ne.symm here, newControl]

theorem with_control_tidy (home : SectionId) (spec : ControlSpec) (panel : Panel) (tidy : panel.Tidy)
    (alive : panel.disposed = false) (known : ∃ s ∈ panel.sections, s.id = home)
    (fits : spec.knob.accepts spec.initial = true) : (panel.withControl home spec).Tidy := by
  refine ⟨?_, ?_, ?_, ?_, ?_, ?_, ?_, fun shut => ?_⟩
  · simp only [withControl, List.pairwise_map, receive_id]
    exact tidy.sections
  · simp only [withControl]
    rw [List.pairwise_append]
    refine ⟨tidy.controls, List.pairwise_singleton _ _, fun c old new added => ?_⟩
    rw [List.mem_singleton.mp added]
    exact Nat.lt_succ_of_le (tidy.made c old)
  · intro s member
    obtain ⟨old, present, rfl⟩ := List.mem_map.mp member
    rw [receive_id]
    exact Nat.le_succ_of_le (tidy.opened old present)
  · intro c member
    rcases List.mem_append.mp member with old | added
    · exact Nat.le_succ_of_le (tidy.made c old)
    · rw [List.mem_singleton.mp added]
      exact Nat.le_refl _
  · intro s member
    obtain ⟨old, present, rfl⟩ := List.mem_map.mp member
    rw [receive_id]
    exact with_control_listed home spec panel tidy old present
  · intro c member
    have housed : ∃ s ∈ panel.sections, s.id = c.section_ := by
      rcases List.mem_append.mp member with old | added
      · exact tidy.housed c old
      · rw [List.mem_singleton.mp added]
        exact known
    obtain ⟨s, present, isHome⟩ := housed
    exact ⟨receive home ⟨panel.lastId + 1⟩ s, List.mem_map_of_mem present, (receive_id home _ s).trans isHome⟩
  · intro c member
    rcases List.mem_append.mp member with old | added
    · exact tidy.fits c old
    · rw [List.mem_singleton.mp added]
      exact fits
  · rw [show (panel.withControl home spec).disposed = false from alive] at shut
    cases shut

theorem tidy_add_control (home : SectionId) (spec : ControlSpec) (panel : Panel) (tidy : panel.Tidy) :
    (panel.addControl home spec).2.Tidy := by
  cases granted : panel.controlFault? home spec with
  | some error =>
      simp only [addControl, granted]
      exact tidy
  | none =>
      obtain ⟨alive, known, fits⟩ := no_control_fault home spec panel granted
      rw [add_control_granted home spec panel granted]
      exact with_control_tidy home spec panel tidy alive known fits

theorem Tidy.update {panel : Panel} (tidy : panel.Tidy) (id : ControlId) (f : Control → Control)
    (number : ∀ c, (f c).id = c.id) (home : ∀ c, (f c).section_ = c.section_)
    (fits : ∀ c ∈ panel.controls, c.id = id → (f c).spec.knob.accepts (f c).setting = true) :
    (panel.updateControl id f).Tidy := by
  let change (c : Control) : Control := if c.id = id then f c else c
  have sameId : ∀ c, (change c).id = c.id := by
    intro c
    simp only [change]
    split
    · exact number c
    · rfl
  have sameHome : ∀ c, (change c).section_ = c.section_ := by
    intro c
    simp only [change]
    split
    · exact home c
    · rfl
  refine ⟨tidy.sections, ?_, tidy.opened, ?_, ?_, ?_, ?_, fun shut => ?_⟩
  · simp only [updateControl, List.pairwise_map]
    refine tidy.controls.imp fun {a b} less => ?_
    rw [show (change a).id = _ from sameId a, show (change b).id = _ from sameId b]
    exact less
  · intro c member
    obtain ⟨old, live, rfl⟩ := List.mem_map.mp member
    rw [show (change old).id = _ from sameId old]
    exact tidy.made old live
  · intro s present
    refine (tidy.listed s present).trans ?_
    simp only [residents, updateControl]
    rw [List.filter_map, List.map_map]
    have homes : ((fun c : Control => decide (c.section_ = s.id)) ∘ change) = fun c => decide (c.section_ = s.id) := by
      funext c
      rw [Function.comp_apply, sameHome]
    have ids : ((fun c : Control => c.id) ∘ change) = fun c => c.id := by
      funext c
      rw [Function.comp_apply, sameId]
    rw [show ((fun c : Control => decide (c.section_ = s.id)) ∘ fun c => if c.id = id then f c else c) = _ from homes,
      show ((fun c : Control => c.id) ∘ fun c => if c.id = id then f c else c) = _ from ids]
  · intro c member
    obtain ⟨old, live, rfl⟩ := List.mem_map.mp member
    rw [show (change old).section_ = _ from sameHome old]
    exact tidy.housed old live
  · intro c member
    obtain ⟨old, live, rfl⟩ := List.mem_map.mp member
    by_cases here : old.id = id
    · rw [if_pos here]
      exact fits old live here
    · rw [if_neg here]
      exact tidy.fits old live
  · obtain ⟨sections, controls⟩ := tidy.shut shut
    refine ⟨sections, ?_⟩
    simp only [updateControl, controls, List.map_nil]

theorem tidy_listen (id : ControlId) (listener : Listener) (panel : Panel) (tidy : panel.Tidy) :
    (panel.listen id listener).2.Tidy := by
  simp only [listen]
  split
  · exact tidy
  · exact tidy.update id _ (fun _ => rfl) (fun _ => rfl) fun c live _ => tidy.fits c live

theorem edit_frame (id : ControlId) (setting : Setting) (panel after : Panel) (event : ChangeEvent)
    (listeners : List Listener) (accepted : panel.edit id setting = .ok (after, event, listeners)) :
    ∃ c, panel.control? id = some c ∧ c.spec.knob.accepts setting = true ∧
      after = panel.updateControl id ({ · with setting := setting }) ∧ event = ⟨id, c.spec.key, setting⟩ ∧
      listeners = c.listeners := by
  simp only [edit] at accepted
  by_cases gone : panel.disposed = true
  · rw [if_pos gone] at accepted
    cases accepted
  rw [if_neg gone] at accepted
  cases found : panel.control? id with
  | none =>
      rw [found] at accepted
      cases accepted
  | some c =>
      rw [found] at accepted
      dsimp only at accepted
      by_cases fits : c.spec.knob.accepts setting = true
      · rw [if_pos fits] at accepted
        obtain ⟨panelSame, rest⟩ := Prod.mk.inj (Except.ok.inj accepted)
        obtain ⟨eventSame, listenersSame⟩ := Prod.mk.inj rest
        exact ⟨c, rfl, fits, panelSame.symm, eventSame.symm, listenersSame.symm⟩
      · rw [if_neg fits] at accepted
        cases accepted

theorem tidy_edit (id : ControlId) (setting : Setting) (panel after : Panel) (event : ChangeEvent)
    (listeners : List Listener) (tidy : panel.Tidy) (accepted : panel.edit id setting = .ok (after, event, listeners)) :
    after.Tidy := by
  obtain ⟨c, found, fits, rfl, _, _⟩ := edit_frame id setting panel after event listeners accepted
  refine tidy.update id _ (fun _ => rfl) (fun _ => rfl) fun other live own => ?_
  obtain ⟨member, number⟩ := (tidy.control_iff id c).mp found
  obtain rfl := List.inj_on_of_nodup_map tidy.ids live member (own.trans number.symm)
  exact fits

theorem Tidy.dispose_section {panel : Panel} (tidy : panel.Tidy) (id : SectionId) :
    panel.disposeSection id = { panel with
      sections := panel.sections.filter (·.id ≠ id)
      controls := panel.controls.filter (·.section_ ≠ id) } := by
  simp only [disposeSection]
  cases found : panel.section? id with
  | none =>
      have unknown : ∀ s ∈ panel.sections, s.id ≠ id := by
        simpa [section?] using found
      have homeless : ∀ c ∈ panel.controls, c.section_ ≠ id := by
        intro c live home
        obtain ⟨s, present, housed⟩ := tidy.housed c live
        exact unknown s present (housed.trans home)
      rw [List.filter_eq_self.mpr fun s present => decide_eq_true (unknown s present),
        List.filter_eq_self.mpr fun c live => decide_eq_true (homeless c live)]
  | some gone =>
      obtain ⟨present, rfl⟩ := (tidy.section_iff id gone).mp found
      dsimp only
      have residents : panel.controls.filter (fun c => c.id ∉ gone.controls) =
          panel.controls.filter fun c => c.section_ ≠ gone.id := by
        refine List.filter_congr fun c live => ?_
        simp only [tidy.lists_iff gone present c live, ne_eq]
      rw [residents]

theorem tidy_dispose_section (id : SectionId) (panel : Panel) (tidy : panel.Tidy) :
    (panel.disposeSection id).Tidy := by
  rw [tidy.dispose_section id]
  refine ⟨tidy.sections.filter _, tidy.controls.filter _, ?_, ?_, ?_, ?_, ?_, fun shut => ?_⟩
  · exact fun s member => tidy.opened s (List.mem_filter.mp member).1
  · exact fun c member => tidy.made c (List.mem_filter.mp member).1
  · intro s member
    obtain ⟨old, kept⟩ := List.mem_filter.mp member
    rw [tidy.listed s old]
    simp only [residents, List.filter_filter]
    congr 1
    refine List.filter_congr fun c _ => ?_
    by_cases home : c.section_ = s.id
    · simpa [home] using kept
    · simp [home]
  · intro c member
    obtain ⟨live, kept⟩ := List.mem_filter.mp member
    obtain ⟨s, present, housed⟩ := tidy.housed c live
    refine ⟨s, List.mem_filter.mpr ⟨present, ?_⟩, housed⟩
    rw [housed]
    exact kept
  · exact fun c member => tidy.fits c (List.mem_filter.mp member).1
  · obtain ⟨sections, controls⟩ := tidy.shut shut
    simp [sections, controls]

theorem tidy_dispose (panel : Panel) : panel.dispose.Tidy where
  sections := List.Pairwise.nil
  controls := List.Pairwise.nil
  opened _ member := by cases member
  made _ member := by cases member
  listed _ member := by cases member
  housed _ member := by cases member
  fits _ member := by cases member
  shut _ := ⟨rfl, rfl⟩

end Panel

end ShaderKnobs
