import ShaderKnobs.Panel.Basic
import ShaderKnobs.Proofs.Studio.Building

set_option autoImplicit false

namespace ShaderKnobs

-- The controls that a panel has gained, for some of the specs it was asked for.
structure Grown (specs : List ControlSpec) (gained : List Control) (before after : Panel) : Prop where
  controls : after.controls = before.controls ++ gained
  specs : (gained.map (·.spec)).Sublist specs
  untouched : ∀ c ∈ gained, c.setting = c.spec.initial ∧ c.listeners = []
  above : ∀ c ∈ gained, before.lastId < c.id.number
  below : ∀ c ∈ gained, c.id.number ≤ after.lastId
  lastId : before.lastId ≤ after.lastId
  apart : (gained.map (·.id)).Nodup

def Control.entry (c : Control) : String × ControlId := (c.spec.key, c.id)

theorem Grown.nothing (specs : List ControlSpec) (panel : Panel) : Grown specs [] panel panel where
  controls := by simp
  specs := by simp
  untouched := by simp
  above := by simp
  below := by simp
  lastId := Nat.le_refl _
  apart := by simp

theorem Grown.one_more {rest : List ControlSpec} {gained : List Control} {before between after : Panel}
    (later : Grown rest gained between after) (c : Control) (controls : between.controls = before.controls ++ [c])
    (number : c.id.number = before.lastId + 1) (lastId : between.lastId = before.lastId + 1)
    (untouched : c.setting = c.spec.initial ∧ c.listeners = []) :
    Grown (c.spec :: rest) (c :: gained) before after where
  controls := by rw [later.controls, controls, List.append_assoc, List.singleton_append]
  specs := later.specs.cons_cons c.spec
  untouched := by
    intro c' member
    rcases List.mem_cons.mp member with rfl | old
    · exact untouched
    · exact later.untouched c' old
  above := by
    intro c' member
    rcases List.mem_cons.mp member with rfl | old
    · omega
    · have := later.above c' old
      omega
  below := by
    intro c' member
    have := later.lastId
    rcases List.mem_cons.mp member with rfl | old
    · omega
    · exact later.below c' old
  lastId := by
    have := later.lastId
    omega
  apart := by
    rw [List.map_cons, List.nodup_cons]
    refine ⟨fun member => ?_, later.apart⟩
    obtain ⟨c', old, same⟩ := List.mem_map.mp member
    have := later.above c' old
    have sameNumber : c'.id.number = c.id.number := congrArg ControlId.number same
    omega

theorem Grown.id_fresh {specs : List ControlSpec} {gained : List Control} {before after : Panel}
    (grown : Grown specs gained before after) (c : Control) (member : c ∈ gained) (id : ControlId)
    (used : id.number ≤ before.lastId) : c.id ≠ id := by
  intro same
  have above := grown.above c member
  rw [same] at above
  omega

theorem Grown.keys {specs : List ControlSpec} {gained : List Control} {before after : Panel}
    (grown : Grown specs gained before after) (distinct : (specs.map (·.key)).Nodup) :
    (gained.map (·.spec.key)).Nodup := by
  have fewer := distinct.sublist (grown.specs.map (·.key))
  rw [List.map_map] at fewer
  exact fewer

theorem add_control_end (home : SectionId) (spec : ControlSpec) (panel : Panel) :
    (∃ error, panel.addControl home spec = (.error error, panel)) ∨
      ∃ between, panel.addControl home spec = (.ok ⟨panel.lastId + 1⟩, between) ∧
        between.lastId = panel.lastId + 1 ∧
        between.controls = panel.controls ++ [⟨⟨panel.lastId + 1⟩, home, spec, spec.initial, []⟩] := by
  simp only [Panel.addControl]
  split
  · next error _ => exact .inl ⟨error, rfl⟩
  · exact .inr ⟨_, rfl, rfl, rfl⟩

theorem make_controls_grown (home : SectionId) (specs : List ControlSpec) (made : List (String × ControlId))
    (panel : Panel) :
    ∃ gained, (Studio.makeControls home specs made panel).1 = made ++ gained.map Control.entry ∧
      Grown specs gained panel (Studio.makeControls home specs made panel).2 := by
  induction specs generalizing made panel with
  | nil => exact ⟨[], by simp [Studio.makeControls], .nothing [] panel⟩
  | cons spec rest ih =>
      simp only [Studio.makeControls]
      rcases add_control_end home spec panel with ⟨error, refused⟩ | ⟨between, granted, lastId, controls⟩
      · rw [show PanelHost.addControl home spec panel = _ from refused]
        obtain ⟨gained, listed, grown⟩ := ih made panel
        exact ⟨gained, listed, { grown with specs := grown.specs.cons spec }⟩
      · rw [show PanelHost.addControl home spec panel = _ from granted]
        obtain ⟨gained, listed, grown⟩ := ih (made ++ [(spec.key, ⟨panel.lastId + 1⟩)]) between
        refine ⟨_, ?_, grown.one_more _ controls rfl lastId ⟨rfl, rfl⟩⟩
        rw [List.map_cons, ← List.singleton_append, ← List.append_assoc]
        exact listed

theorem add_section_end (title : String) (panel : Panel) :
    (∃ error, panel.addSection title = (.error error, panel)) ∨
      ∃ between, panel.addSection title = (.ok ⟨panel.lastId + 1⟩, between) ∧
        between.lastId = panel.lastId + 1 ∧ between.controls = panel.controls := by
  simp only [Panel.addSection]
  split
  · exact .inl ⟨_, rfl⟩
  · exact .inr ⟨_, rfl, rfl, rfl⟩

theorem make_section_grown (name : String) (specs : List ControlSpec) (panel : Panel) :
    ∃ gained, (Studio.makeSection name specs panel).1.2 = gained.map Control.entry ∧
      Grown specs gained panel (Studio.makeSection name specs panel).2 := by
  simp only [Studio.makeSection]
  rcases add_section_end name panel with ⟨error, refused⟩ | ⟨between, granted, lastId, controls⟩
  · rw [show PanelHost.addSection name panel = _ from refused]
    exact ⟨[], rfl, .nothing specs panel⟩
  · rw [show PanelHost.addSection name panel = _ from granted]
    obtain ⟨gained, listed, grown⟩ := make_controls_grown ⟨panel.lastId + 1⟩ specs [] between
    have opened : panel.lastId ≤ between.lastId := by omega
    refine ⟨gained, listed, { grown with controls := ?_, above := ?_, lastId := Nat.le_trans opened grown.lastId }⟩
    · rw [grown.controls, controls]
    · exact fun c member => Nat.lt_of_le_of_lt opened (grown.above c member)

theorem listen_frame (id : ControlId) (listener : Listener) (panel : Panel) :
    let heard := (panel.listen id listener).2
    heard.lastId = panel.lastId ∧
      heard.controls = panel.controls.map fun c =>
        if c.id = id then { c with listeners := c.listeners ++ [listener] } else c := by
  intro heard
  simp only [heard, Panel.listen]
  split
  · next absent =>
      have nobody : ∀ c ∈ panel.controls, c.id ≠ id := by
        simpa [Panel.control?] using absent
      refine ⟨rfl, ?_⟩
      conv => lhs; rw [← List.map_id panel.controls]
      refine List.map_congr_left fun c member => ?_
      rw [if_neg (nobody c member)]
      rfl
  · exact ⟨rfl, rfl⟩

theorem attach_all_frame (index : Nat) (entries : List (String × ControlId)) (panel : Panel) :
    let attached := Studio.attachAll index entries panel
    attached.lastId = panel.lastId ∧
      attached.controls = panel.controls.map fun c =>
        { c with listeners := c.listeners ++ List.replicate ((entries.map (·.2)).count c.id) (.follow index) } := by
  induction entries generalizing panel with
  | nil => exact ⟨rfl, by simp [Studio.attachAll]⟩
  | cons entry rest ih =>
      obtain ⟨lastId, controls⟩ := listen_frame entry.2 (.follow index) panel
      obtain ⟨lastId', controls'⟩ := ih (panel.listen entry.2 (.follow index)).2
      refine ⟨lastId'.trans lastId, controls'.trans ?_⟩
      rw [controls, List.map_map]
      refine List.map_congr_left fun c member => ?_
      by_cases here : c.id = entry.2
      · simp [here, List.replicate_succ]
      · simp [here, Ne.symm here]

def Control.following (index : Nat) (c : Control) : Control := { c with listeners := [.follow index] }

theorem built_controls (name : String) (index : Nat) (specs : List ControlSpec) (panel : Panel)
    (bounded : ∀ c ∈ panel.controls, c.id.number ≤ panel.lastId) :
    let made := Studio.makeSection name specs panel
    ∃ gained, made.1.2 = gained.map Control.entry ∧ Grown specs gained panel made.2 ∧
      (Studio.attachAll index made.1.2 made.2).lastId = made.2.lastId ∧
      (Studio.attachAll index made.1.2 made.2).controls =
        panel.controls ++ gained.map (Control.following index) := by
  intro made
  obtain ⟨gained, listed, grown⟩ := make_section_grown name specs panel
  obtain ⟨lastId, controls⟩ := attach_all_frame index made.1.2 made.2
  refine ⟨gained, listed, grown, lastId, ?_⟩
  have ids : made.1.2.map (·.2) = gained.map (·.id) := by
    rw [show made.1.2 = _ from listed, List.map_map]
    rfl
  rw [controls, ids, grown.controls, List.map_append]
  congr 1
  · conv => rhs; rw [← List.map_id panel.controls]
    refine List.map_congr_left fun c member => ?_
    have absent : c.id ∉ gained.map (·.id) := by
      intro taken
      obtain ⟨c', new, same⟩ := List.mem_map.mp taken
      exact grown.id_fresh c' new c.id (bounded c member) same
    simp [List.count_eq_zero.mpr absent]
  · refine List.map_congr_left fun c member => ?_
    have once : (gained.map (·.id)).count c.id = 1 := by
      rw [grown.apart.count, if_pos (List.mem_map_of_mem member)]
    simp [Control.following, once, (grown.untouched c member).2]

theorem no_fault_live (home : SectionId) (spec : ControlSpec) (panel : Panel) (alive : panel.disposed = false)
    (known : (panel.section? home).isSome) (accepted : spec.knob.accepts spec.initial = true) :
    panel.controlFault? home spec = none := by
  have present : (panel.section? home).isNone = false := by
    rw [← Option.not_isSome, known]
    rfl
  simp [Panel.controlFault?, alive, present, accepted]

theorem add_control_live (home : SectionId) (spec : ControlSpec) (panel : Panel) (alive : panel.disposed = false)
    (known : (panel.section? home).isSome) (accepted : spec.knob.accepts spec.initial = true) :
    ∃ between, panel.addControl home spec = (.ok ⟨panel.lastId + 1⟩, between) ∧ between.disposed = false ∧
      (between.section? home).isSome := by
  have fault := no_fault_live home spec panel alive known accepted
  simp only [Panel.addControl, fault]
  refine ⟨_, rfl, alive, ?_⟩
  rw [Panel.section?, find_key_map Section.id _ (fun s => by split <;> rfl), Option.isSome_map]
  exact known

theorem make_controls_live (home : SectionId) (specs : List ControlSpec) (made : List (String × ControlId))
    (panel : Panel) (alive : panel.disposed = false) (known : (panel.section? home).isSome)
    (accepted : ∀ spec ∈ specs, spec.knob.accepts spec.initial = true) :
    (Studio.makeControls home specs made panel).1.length = made.length + specs.length ∧
      (Studio.makeControls home specs made panel).2.disposed = false := by
  induction specs generalizing made panel with
  | nil => exact ⟨rfl, alive⟩
  | cons spec rest ih =>
      obtain ⟨between, granted, alive', known'⟩ := add_control_live home spec panel alive known
        (accepted spec List.mem_cons_self)
      obtain ⟨length, alive''⟩ := ih (made ++ [(spec.key, ⟨panel.lastId + 1⟩)]) between alive' known'
        (fun spec member => accepted spec (List.mem_cons_of_mem _ member))
      simp only [Studio.makeControls]
      rw [show PanelHost.addControl home spec panel = _ from granted]
      refine ⟨length.trans ?_, alive''⟩
      simp only [List.length_append, List.length_cons, List.length_nil]
      omega

theorem make_section_live (name : String) (specs : List ControlSpec) (panel : Panel) (alive : panel.disposed = false)
    (accepted : ∀ spec ∈ specs, spec.knob.accepts spec.initial = true) :
    (Studio.makeSection name specs panel).1.2.length = specs.length ∧
      (Studio.makeSection name specs panel).2.disposed = false := by
  let opened : Panel :=
    { panel with lastId := panel.lastId + 1, sections := panel.sections ++ [⟨⟨panel.lastId + 1⟩, name, []⟩] }
  have granted : panel.addSection name = (.ok ⟨panel.lastId + 1⟩, opened) := by
    simp [Panel.addSection, alive, opened]
  have known : (opened.section? ⟨panel.lastId + 1⟩).isSome := by
    simp [opened, Panel.section?]
  obtain ⟨length, alive'⟩ := make_controls_live ⟨panel.lastId + 1⟩ specs [] opened alive known accepted
  simp only [Studio.makeSection]
  rw [show PanelHost.addSection name panel = _ from granted]
  exact ⟨length.trans (Nat.zero_add _), alive'⟩

theorem attach_all_disposed (index : Nat) (entries : List (String × ControlId)) (panel : Panel) :
    (Studio.attachAll index entries panel).disposed = panel.disposed := by
  induction entries generalizing panel with
  | nil => rfl
  | cons entry rest ih =>
      refine (ih (panel.listen entry.2 (.follow index)).2).trans ?_
      simp only [Panel.listen]
      split <;> rfl

theorem make_controls_disposed (home : SectionId) (specs : List ControlSpec) (made : List (String × ControlId))
    (panel : Panel) : (Studio.makeControls home specs made panel).2.disposed = panel.disposed := by
  induction specs generalizing made panel with
  | nil => rfl
  | cons spec rest ih =>
      have kept : (panel.addControl home spec).2.disposed = panel.disposed := by
        simp only [Panel.addControl]
        split <;> rfl
      simp only [Studio.makeControls]
      rcases added : PanelHost.addControl home spec panel with ⟨error | id, between⟩
      · rw [← kept, show panel.addControl home spec = _ from added]
        exact ih made between
      · rw [← kept, show panel.addControl home spec = _ from added]
        exact ih (made ++ [(spec.key, id)]) between

theorem make_section_disposed (name : String) (specs : List ControlSpec) (panel : Panel) :
    (Studio.makeSection name specs panel).2.disposed = panel.disposed := by
  have kept : (panel.addSection name).2.disposed = panel.disposed := by
    simp only [Panel.addSection]
    split <;> rfl
  simp only [Studio.makeSection]
  rcases added : PanelHost.addSection name panel with ⟨error | home, between⟩
  · rw [← kept, show panel.addSection name = _ from added]
  · rw [← kept, show panel.addSection name = _ from added]
    exact make_controls_disposed home specs [] between

end ShaderKnobs
