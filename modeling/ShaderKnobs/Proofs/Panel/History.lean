import Mathlib.Algebra.Ring.Nat
import ShaderKnobs.Proofs.Panel.Search

set_option autoImplicit false

namespace ShaderKnobs

namespace Panel

inductive Request where
  | addSection (title : String)
  | addControl (home : SectionId) (spec : ControlSpec)
  | listen (control : ControlId) (listener : Listener)
  | edit (control : ControlId) (setting : Setting)
  | disposeSection (id : SectionId)
  | dispose

-- The number with which a request is answered, if it makes a section or a control, and the panel after it.
def serve (panel : Panel) : Request → Option Nat × Panel
  | .addSection title =>
      let (answer, after) := panel.addSection title
      (answer.toOption.map (·.number), after)
  | .addControl home spec =>
      let (answer, after) := panel.addControl home spec
      (answer.toOption.map (·.number), after)
  | .listen control listener => (none, (panel.listen control listener).2)
  | .edit control setting =>
      match panel.edit control setting with
      | .ok (after, _, _) => (none, after)
      | .error _ => (none, panel)
  | .disposeSection id => (none, panel.disposeSection id)
  | .dispose => (none, panel.dispose)

def serveAll : List Request → Panel → List Nat × Panel
  | [], panel => ([], panel)
  | request :: rest, panel =>
      let (number, between) := panel.serve request
      let (numbers, after) := serveAll rest between
      (number.toList ++ numbers, after)

-- What requests can do: numbers are given in rising order, nothing comes that has none of them, and a
-- panel that is disposed of stays so.
structure Served (before : Panel) (issued : List Nat) (after : Panel) : Prop where
  tidy : after.Tidy
  rising : issued.Pairwise (· < ·)
  above : ∀ n ∈ issued, before.lastId < n
  below : ∀ n ∈ issued, n ≤ after.lastId
  lastId : before.lastId ≤ after.lastId
  sections : ∀ s ∈ after.sections, (∃ old ∈ before.sections, old.id = s.id) ∨ before.lastId < s.id.number
  controls : ∀ c ∈ after.controls, (∃ old ∈ before.controls, old.id = c.id) ∨ before.lastId < c.id.number
  disposed : before.disposed = true → after.disposed = true

theorem Served.nothing {panel : Panel} (tidy : panel.Tidy) : Served panel [] panel where
  tidy := tidy
  rising := List.Pairwise.nil
  above _ member := by cases member
  below _ member := by cases member
  lastId := Nat.le_refl _
  sections s present := .inl ⟨s, present, rfl⟩
  controls c live := .inl ⟨c, live, rfl⟩
  disposed gone := gone

theorem Served.trans {first second third : Panel} {one two : List Nat} (early : Served first one second)
    (late : Served second two third) : Served first (one ++ two) third where
  tidy := late.tidy
  rising := by
    rw [List.pairwise_append]
    refine ⟨early.rising, late.rising, fun n given m later => ?_⟩
    exact Nat.lt_of_le_of_lt (early.below n given) (late.above m later)
  above n given := by
    rcases List.mem_append.mp given with sooner | later
    · exact early.above n sooner
    · exact Nat.lt_of_le_of_lt early.lastId (late.above n later)
  below n given := by
    rcases List.mem_append.mp given with sooner | later
    · exact Nat.le_trans (early.below n sooner) late.lastId
    · exact late.below n later
  lastId := Nat.le_trans early.lastId late.lastId
  sections s present := by
    rcases late.sections s present with ⟨between, member, same⟩ | new
    · rw [← same]
      exact early.sections between member
    · exact .inr (Nat.lt_of_le_of_lt early.lastId new)
  controls c live := by
    rcases late.controls c live with ⟨between, member, same⟩ | new
    · rw [← same]
      exact early.controls between member
    · exact .inr (Nat.lt_of_le_of_lt early.lastId new)
  disposed gone := late.disposed (early.disposed gone)

theorem unnumbered_served (before after : Panel) (tidy : after.Tidy) (lastId : after.lastId = before.lastId)
    (sections : ∀ s ∈ after.sections, ∃ old ∈ before.sections, old.id = s.id)
    (controls : ∀ c ∈ after.controls, ∃ old ∈ before.controls, old.id = c.id)
    (disposed : before.disposed = true → after.disposed = true) : Served before [] after where
  tidy := tidy
  rising := List.Pairwise.nil
  above _ member := by cases member
  below _ member := by cases member
  lastId := Nat.le_of_eq lastId.symm
  sections s present := .inl (sections s present)
  controls c live := .inl (controls c live)
  disposed := disposed

theorem numbered_served (before after : Panel) (tidy : after.Tidy) (lastId : after.lastId = before.lastId + 1)
    (sections : ∀ s ∈ after.sections, (∃ old ∈ before.sections, old.id = s.id) ∨ before.lastId < s.id.number)
    (controls : ∀ c ∈ after.controls, (∃ old ∈ before.controls, old.id = c.id) ∨ before.lastId < c.id.number)
    (alive : before.disposed = false) : Served before [before.lastId + 1] after where
  tidy := tidy
  rising := List.pairwise_singleton _ _
  above n given := by
    rw [List.mem_singleton.mp given]
    exact Nat.lt_succ_self _
  below n given := by
    rw [List.mem_singleton.mp given]
    exact Nat.le_of_eq lastId.symm
  lastId := by
    rw [lastId]
    exact Nat.le_succ _
  sections := sections
  controls := controls
  disposed gone := by
    rw [alive] at gone
    cases gone

theorem updated_served (id : ControlId) (f : Control → Control) (panel : Panel) (number : ∀ c, (f c).id = c.id)
    (tidy : (panel.updateControl id f).Tidy) : Served panel [] (panel.updateControl id f) := by
  refine unnumbered_served panel _ tidy rfl (fun s present => ⟨s, present, rfl⟩) ?_ fun gone => gone
  intro c member
  obtain ⟨old, live, rfl⟩ := List.mem_map.mp member
  refine ⟨old, live, ?_⟩
  split
  · exact (number old).symm
  · rfl

theorem add_section_served (title : String) (panel : Panel) (tidy : panel.Tidy) :
    Served panel (panel.serve (.addSection title)).1.toList (panel.serve (.addSection title)).2 := by
  have after := tidy_add_section title panel tidy
  simp only [serve, addSection] at after ⊢
  by_cases gone : panel.disposed = true
  · rw [if_pos gone]
    exact .nothing tidy
  rw [if_neg gone] at after ⊢
  refine numbered_served panel _ after rfl ?_ (fun c live => .inl ⟨c, live, rfl⟩) (by simpa using gone)
  intro s member
  rcases List.mem_append.mp member with old | added
  · exact .inl ⟨s, old, rfl⟩
  · rw [List.mem_singleton.mp added]
    exact .inr (Nat.lt_succ_self _)

theorem add_control_served (home : SectionId) (spec : ControlSpec) (panel : Panel) (tidy : panel.Tidy) :
    Served panel (panel.serve (.addControl home spec)).1.toList (panel.serve (.addControl home spec)).2 := by
  simp only [serve]
  cases granted : panel.controlFault? home spec with
  | some error =>
      simp only [addControl, granted]
      exact .nothing tidy
  | none =>
      obtain ⟨alive, known, fits⟩ := no_control_fault home spec panel granted
      rw [add_control_granted home spec panel granted]
      refine numbered_served panel _ (with_control_tidy home spec panel tidy alive known fits) rfl ?_ ?_ alive
      · intro s member
        obtain ⟨old, present, rfl⟩ := List.mem_map.mp member
        exact .inl ⟨old, present, (receive_id home _ old).symm⟩
      · intro c member
        rcases List.mem_append.mp member with old | added
        · exact .inl ⟨c, old, rfl⟩
        · rw [List.mem_singleton.mp added]
          exact .inr (Nat.lt_succ_self _)

theorem listen_served (id : ControlId) (listener : Listener) (panel : Panel) (tidy : panel.Tidy) :
    Served panel [] (panel.listen id listener).2 := by
  have after := tidy_listen id listener panel tidy
  simp only [listen] at after ⊢
  by_cases absent : (panel.control? id).isNone = true
  · rw [if_pos absent]
    exact .nothing tidy
  · rw [if_neg absent] at after ⊢
    exact updated_served id _ panel (fun _ => rfl) after

theorem edit_served (id : ControlId) (setting : Setting) (panel : Panel) (tidy : panel.Tidy) :
    Served panel (panel.serve (.edit id setting)).1.toList (panel.serve (.edit id setting)).2 := by
  simp only [serve]
  cases answer : panel.edit id setting with
  | error error => exact .nothing tidy
  | ok accepted =>
      obtain ⟨after, event, listeners⟩ := accepted
      have later := tidy_edit id setting panel after event listeners tidy answer
      obtain ⟨c, _, _, rfl, _, _⟩ := edit_frame id setting panel after event listeners answer
      exact updated_served id _ panel (fun _ => rfl) later

theorem dispose_section_served (id : SectionId) (panel : Panel) (tidy : panel.Tidy) :
    Served panel [] (panel.disposeSection id) := by
  have after := tidy_dispose_section id panel tidy
  rw [tidy.dispose_section id] at after ⊢
  refine unnumbered_served panel _ after rfl ?_ ?_ fun gone => gone
  · exact fun s member => ⟨s, (List.mem_filter.mp member).1, rfl⟩
  · exact fun c member => ⟨c, (List.mem_filter.mp member).1, rfl⟩

theorem serve_served (request : Request) (panel : Panel) (tidy : panel.Tidy) :
    Served panel (panel.serve request).1.toList (panel.serve request).2 := by
  cases request with
  | addSection title => exact add_section_served title panel tidy
  | addControl home spec => exact add_control_served home spec panel tidy
  | listen control listener => exact listen_served control listener panel tidy
  | edit control setting => exact edit_served control setting panel tidy
  | disposeSection id => exact dispose_section_served id panel tidy
  | dispose =>
      exact unnumbered_served panel _ (tidy_dispose panel) rfl (fun s member => (by cases member))
        (fun c member => (by cases member)) fun _ => rfl

theorem serve_all_served (requests : List Request) (panel : Panel) (tidy : panel.Tidy) :
    Served panel (serveAll requests panel).1 (serveAll requests panel).2 := by
  induction requests generalizing panel with
  | nil => exact .nothing tidy
  | cons request rest ih =>
      have now := serve_served request panel tidy
      exact now.trans (ih (panel.serve request).2 now.tidy)

theorem Served.control_gone {before after : Panel} {issued : List Nat} (served : Served before issued after)
    (id : ControlId) (old : id.number ≤ before.lastId) (gone : before.control? id = none) : after.control? id = none := by
  have nobody : ∀ c ∈ before.controls, c.id ≠ id := by
    simpa [control?] using gone
  refine List.find?_eq_none.mpr fun c live same => ?_
  rcases served.controls c live with ⟨other, member, shared⟩ | new
  · exact nobody other member (shared.trans (of_decide_eq_true same))
  · rw [of_decide_eq_true same] at new
    omega

theorem Served.section_gone {before after : Panel} {issued : List Nat} (served : Served before issued after)
    (id : SectionId) (old : id.number ≤ before.lastId) (gone : before.section? id = none) : after.section? id = none := by
  have nobody : ∀ s ∈ before.sections, s.id ≠ id := by
    simpa [section?] using gone
  refine List.find?_eq_none.mpr fun s present same => ?_
  rcases served.sections s present with ⟨other, member, shared⟩ | new
  · exact nobody other member (shared.trans (of_decide_eq_true same))
  · rw [of_decide_eq_true same] at new
    omega

theorem edit_unknown (id : ControlId) (setting : Setting) (panel : Panel) (unknown : panel.control? id = none) :
    panel.edit id setting = .error (if panel.disposed then .disposed else .unknownControl id) := by
  simp only [edit, unknown]
  by_cases gone : panel.disposed = true
  · rw [if_pos gone, if_pos gone]
  · rw [if_neg gone, if_neg gone]

theorem serve_all_append (before after : List Request) (panel : Panel) :
    (serveAll (before ++ after) panel).2 = (serveAll after (serveAll before panel).2).2 := by
  induction before generalizing panel with
  | nil => rfl
  | cons request rest ih => exact ih (panel.serve request).2

theorem Tidy.all_listed {panel : Panel} (tidy : panel.Tidy) :
    (panel.sections.flatMap (·.controls)).Perm (panel.controls.map (·.id)) := by
  have apart : (panel.sections.flatMap (·.controls)).Nodup := by
    rw [List.nodup_flatMap]
    constructor
    · intro s present
      rw [tidy.listed s present]
      exact tidy.ids.sublist (List.filter_sublist.map _)
    · refine tidy.section_ids.of_map _ |>.imp_of_mem fun {a b} inA inB different => ?_
      intro id (inFirst : id ∈ a.controls) (inSecond : id ∈ b.controls)
      rw [tidy.listed a inA] at inFirst
      obtain ⟨c, resident, rfl⟩ := List.mem_map.mp inFirst
      obtain ⟨live, home⟩ := (mem_residents a.id panel c).mp resident
      rw [tidy.lists_iff b inB c live, home] at inSecond
      exact different (List.inj_on_of_nodup_map tidy.section_ids inA inB inSecond)
  rw [List.perm_ext_iff_of_nodup apart tidy.ids]
  intro id
  rw [List.mem_flatMap, List.mem_map]
  constructor
  · rintro ⟨s, present, listed⟩
    rw [tidy.listed s present] at listed
    obtain ⟨c, resident, rfl⟩ := List.mem_map.mp listed
    exact ⟨c, ((mem_residents s.id panel c).mp resident).1, rfl⟩
  · rintro ⟨c, live, rfl⟩
    obtain ⟨s, present, housed⟩ := tidy.housed c live
    exact ⟨s, present, (tidy.lists_iff s present c live).mpr housed.symm⟩

theorem Tidy.controls_in {panel : Panel} (tidy : panel.Tidy) (s : Section) (present : s ∈ panel.sections) :
    panel.controlsIn s.id = s.controls := by
  rw [controlsIn, (tidy.section_iff s.id s).mpr ⟨present, rfl⟩]
  rfl

theorem Tidy.count {panel : Panel} (tidy : panel.Tidy) :
    panel.controlCount = (panel.sections.map fun s => (panel.controlsIn s.id).length).sum := by
  have lengths : (panel.sections.map fun s => (panel.controlsIn s.id).length) =
      panel.sections.map fun s => s.controls.length :=
    List.map_congr_left fun s present => congrArg List.length (tidy.controls_in s present)
  rw [lengths, ← List.length_flatMap, tidy.all_listed.length_eq, List.length_map]
  rfl

theorem Tidy.place {panel : Panel} (tidy : panel.Tidy) (id : ControlId) (c : Control)
    (live : panel.control? id = some c) :
    ∃ s ∈ panel.sections, s.id = c.section_ ∧ s.controls.count id = 1 ∧
      ∀ other ∈ panel.sections, id ∈ other.controls → other = s := by
  obtain ⟨member, rfl⟩ := (tidy.control_iff id c).mp live
  obtain ⟨s, present, housed⟩ := tidy.housed c member
  refine ⟨s, present, housed, ?_, ?_⟩
  · have once : s.controls.Nodup := by
      rw [tidy.listed s present]
      exact tidy.ids.sublist (List.filter_sublist.map _)
    rw [once.count, if_pos ((tidy.lists_iff s present c member).mpr housed.symm)]
  · intro other presentToo listed
    have home := (tidy.lists_iff other presentToo c member).mp listed
    exact List.inj_on_of_nodup_map tidy.section_ids presentToo present (home.symm.trans housed.symm)

theorem histories_stay_tidy (requests : List Request) :
    let issued := (serveAll requests empty).1
    let panel := (serveAll requests empty).2
    (∀ id c, panel.control? id = some c → ∃ s ∈ panel.sections, s.id = c.section_ ∧ s.controls.count id = 1 ∧
      ∀ other ∈ panel.sections, id ∈ other.controls → other = s) ∧
    (∀ s ∈ panel.sections, ∀ id ∈ s.controls, ∃ c, panel.control? id = some c) ∧
    panel.controlCount = (panel.sections.map fun s => (panel.controlsIn s.id).length).sum ∧
    (∀ title key, ((panel.find title key).isSome ↔ ∃ entry, panel.Binds title key entry) ∧
      ∀ id, panel.find title key = some id → ∃ entry, panel.Binds title key entry ∧ entry.2.id = id ∧
        ∀ other, panel.Binds title key other → other = entry ∨ Precedes entry other) ∧
    (∀ id c, panel.control? id = some c → c.spec.knob.accepts c.setting = true) ∧
    issued.Pairwise (· < ·) ∧
    (∀ later, let panel' := (serveAll later panel).2
      (∀ id : ControlId, id.number ∈ issued → panel.control? id = none →
        panel'.control? id = none ∧ ∀ setting, ∃ error, panel'.edit id setting = .error error) ∧
      ∀ id : SectionId, id.number ∈ issued → panel.section? id = none → panel'.section? id = none) ∧
    (.dispose ∈ requests → panel.disposed = true ∧ panel.sections = [] ∧ panel.controls = []) := by
  intro issued panel
  have served := serve_all_served requests empty tidy_empty
  have tidy : panel.Tidy := served.tidy
  refine ⟨tidy.place, ?_, tidy.count, ?_, ?_, served.rising, ?_, ?_⟩
  · intro s present id listed
    rw [tidy.listed s present] at listed
    obtain ⟨c, resident, rfl⟩ := List.mem_map.mp listed
    exact ⟨c, (tidy.control_iff c.id c).mpr ⟨((mem_residents s.id panel c).mp resident).1, rfl⟩⟩
  · exact fun title key => ⟨tidy.find_some title key, fun id => (tidy.find_first title key id).mp⟩
  · exact fun id c live => tidy.fits c ((tidy.control_iff id c).mp live).1
  · intro later panel'
    have after := serve_all_served later panel tidy
    refine ⟨fun id given gone => ?_, fun id given gone => ?_⟩
    · have still := after.control_gone id (served.below id.number given) gone
      exact ⟨still, fun setting => ⟨_, edit_unknown id setting panel' still⟩⟩
    · exact after.section_gone id (served.below id.number given) gone
  · intro ended
    obtain ⟨before, after, rfl⟩ := List.append_of_mem ended
    have rest := serve_all_served after (serveAll before empty).2.dispose (tidy_dispose _)
    have whole : panel = (serveAll after (serveAll before empty).2.dispose).2 :=
      serve_all_append before (.dispose :: after) empty
    have disposed : panel.disposed = true := by
      rw [whole]
      exact rest.disposed rfl
    exact ⟨disposed, tidy.shut disposed⟩

-- The first section goes with its own control only.
example :
    let gate : ControlSpec := ⟨"gate", .toggle, .bool true, []⟩
    let made := serveAll [.addSection "a", .addSection "b", .addControl ⟨1⟩ gate, .addControl ⟨2⟩ gate, .disposeSection ⟨1⟩]
      empty
    made.1 = [1, 2, 3, 4] ∧ made.2.find "a" "gate" = none ∧ made.2.find "b" "gate" = some ⟨4⟩ := by
  decide

end Panel

end ShaderKnobs
