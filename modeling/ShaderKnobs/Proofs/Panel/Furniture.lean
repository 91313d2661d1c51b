import ShaderKnobs.Proofs.Studio.Homes

set_option autoImplicit false

namespace ShaderKnobs

def madeControls (home : SectionId) (last : Nat) : List ControlSpec → List Control
  | [] => []
  | spec :: rest => ⟨⟨last + 1⟩, home, spec, spec.initial, []⟩ :: madeControls home (last + 1) rest

theorem made_controls_specs (home : SectionId) (specs : List ControlSpec) (last : Nat) :
    (madeControls home last specs).map (·.spec) = specs := by
  induction specs generalizing last with
  | nil => rfl
  | cons spec rest ih => exact congrArg (spec :: ·) (ih (last + 1))

theorem made_controls_fresh (home : SectionId) (specs : List ControlSpec) (last : Nat) (c : Control)
    (member : c ∈ madeControls home last specs) : c.setting = c.spec.initial := by
  induction specs generalizing last with
  | nil => cases member
  | cons spec rest ih =>
      rcases List.mem_cons.mp member with rfl | later
      · rfl
      · exact ih (last + 1) later

namespace Panel

theorem receive_more (home : SectionId) (first : ControlId) (more : List ControlId) (s : Section) :
    (if (receive home first s).id = home then
        { receive home first s with controls := (receive home first s).controls ++ more }
      else receive home first s) =
      if s.id = home then { s with controls := s.controls ++ first :: more } else s := by
  rw [receive_id]
  by_cases here : s.id = home
  · simp [receive, here]
  · simp [receive, here]

def furnish (home : SectionId) (specs : List ControlSpec) (panel : Panel) : Panel :=
  let made := madeControls home panel.lastId specs
  { panel with
    lastId := panel.lastId + specs.length
    sections := panel.sections.map fun s =>
      if s.id = home then { s with controls := s.controls ++ made.map (·.id) } else s
    controls := panel.controls ++ made }

theorem furnish_nothing (home : SectionId) (panel : Panel) : panel.furnish home [] = panel := by
  simp [furnish, madeControls]

theorem furnish_one_more (home : SectionId) (spec : ControlSpec) (rest : List ControlSpec) (panel : Panel) :
    (panel.withControl home spec).furnish home rest = panel.furnish home (spec :: rest) := by
  have sections := fun s => receive_more home ⟨panel.lastId + 1⟩ ((madeControls home (panel.lastId + 1) rest).map (·.id)) s
  simp only [furnish, withControl, List.map_map, madeControls, List.length_cons, List.map_cons, List.append_assoc,
    List.singleton_append, newControl, Function.comp_def, sections]
  rw [Nat.add_assoc, Nat.add_comm 1]

end Panel

def Panel.furnished (title : String) (index : Nat) (specs : List ControlSpec) (panel : Panel) : Panel :=
  let home : SectionId := ⟨panel.lastId + 1⟩
  let made := madeControls home (panel.lastId + 1) specs
  { panel with
    lastId := panel.lastId + 1 + specs.length
    sections := panel.sections ++ [⟨home, title, made.map (·.id)⟩]
    controls := panel.controls ++ made.map (Control.following index) }

def Panel.opened (title : String) (panel : Panel) : Panel :=
  { panel with lastId := panel.lastId + 1, sections := panel.sections ++ [⟨⟨panel.lastId + 1⟩, title, []⟩] }

theorem Panel.add_section_live (title : String) (panel : Panel) (alive : panel.disposed = false) :
    panel.addSection title = (.ok ⟨panel.lastId + 1⟩, panel.opened title) := by
  simp [addSection, alive, opened]

theorem Panel.opened_known (title : String) (panel : Panel) :
    ((panel.opened title).section? ⟨panel.lastId + 1⟩).isSome := by
  simp [opened, section?]

theorem Panel.Tidy.furnish_opened {panel : Panel} (tidy : panel.Tidy) (title : String) (specs : List ControlSpec) :
    ((panel.opened title).furnish ⟨panel.lastId + 1⟩ specs).sections =
      panel.sections ++
        [⟨⟨panel.lastId + 1⟩, title, (madeControls ⟨panel.lastId + 1⟩ (panel.lastId + 1) specs).map (·.id)⟩] := by
  simp only [Panel.furnish, Panel.opened, List.map_append, List.map_cons, List.map_nil, if_pos, List.nil_append]
  congr 1
  conv => rhs; rw [← List.map_id panel.sections]
  refine List.map_congr_left fun s present => if_neg fun same => ?_
  have bound := tidy.opened s present
  rw [same] at bound
  exact Nat.not_succ_le_self _ bound

namespace Studio

theorem make_controls_furnish (home : SectionId) (specs : List ControlSpec) (made : List (String × ControlId))
    (panel : Panel) (alive : panel.disposed = false) (known : (panel.section? home).isSome)
    (accepted : ∀ spec ∈ specs, spec.knob.accepts spec.initial = true) :
    makeControls home specs made panel =
      (made ++ (madeControls home panel.lastId specs).map Control.entry, panel.furnish home specs) := by
  induction specs generalizing made panel with
  | nil => simp [makeControls, madeControls, Panel.furnish_nothing]
  | cons spec rest ih =>
      obtain ⟨between, granted, alive', known'⟩ :=
        add_control_live home spec panel alive known (accepted spec List.mem_cons_self)
      have fault := no_fault_live home spec panel alive known (accepted spec List.mem_cons_self)
      obtain ⟨_, rfl⟩ := Prod.mk.inj ((panel.add_control_granted home spec fault).symm.trans granted)
      have later := ih (made ++ [(spec.key, ⟨panel.lastId + 1⟩)]) (panel.withControl home spec) alive' known'
        fun spec member => accepted spec (List.mem_cons_of_mem _ member)
      simp only [makeControls]
      rw [show PanelHost.addControl home spec panel = _ from granted]
      dsimp only
      rw [later, panel.furnish_one_more home spec rest, List.append_assoc]
      rfl

theorem attach_all_sections (index : Nat) (entries : List (String × ControlId)) (panel : Panel) :
    (attachAll index entries panel).sections = panel.sections := by
  induction entries generalizing panel with
  | nil => rfl
  | cons entry rest ih =>
      refine (ih (panel.listen entry.2 (.follow index)).2).trans ?_
      simp only [Panel.listen]
      split <;> rfl

theorem make_section_furnish (name : String) (specs : List ControlSpec) (panel : Panel)
    (alive : panel.disposed = false) (accepted : ∀ spec ∈ specs, spec.knob.accepts spec.initial = true) :
    let home : SectionId := ⟨panel.lastId + 1⟩
    makeSection name specs panel =
      ((some home, (madeControls home (panel.lastId + 1) specs).map Control.entry),
        (panel.opened name).furnish home specs) := by
  intro home
  simp only [makeSection]
  rw [show PanelHost.addSection name panel = _ from panel.add_section_live name alive]
  dsimp only
  rw [make_controls_furnish home specs [] (panel.opened name) alive (panel.opened_known name) accepted]
  rfl

theorem furnished_panel (name : String) (index : Nat) (specs : List ControlSpec) (panel : Panel) (tidy : panel.Tidy)
    (alive : panel.disposed = false) (accepted : ∀ spec ∈ specs, spec.knob.accepts spec.initial = true) :
    let made := makeSection name specs panel
    attachAll index made.1.2 made.2 = panel.furnished name index specs := by
  intro made
  obtain ⟨gained, listed, grown, lastId, controls⟩ := built_controls name index specs panel tidy.made
  have sections := attach_all_sections index made.1.2 made.2
  have disposed := attach_all_disposed index made.1.2 made.2
  have furnished := make_section_furnish name specs panel alive accepted
  have own : gained = madeControls ⟨panel.lastId + 1⟩ (panel.lastId + 1) specs := by
    have more := grown.controls
    rw [furnished] at more
    exact (List.append_cancel_left more).symm
  rw [own] at controls
  have whole : ∀ one two : Panel, one.lastId = two.lastId → one.sections = two.sections →
      one.controls = two.controls → one.disposed = two.disposed → one = two := by
    rintro ⟨_, _, _, _⟩ ⟨_, _, _, _⟩ rfl rfl rfl rfl
    rfl
  refine whole _ _ (lastId.trans ?_) (sections.trans ?_) controls (disposed.trans ?_)
  · rw [furnished]
    rfl
  · rw [show made = _ from furnished]
    exact tidy.furnish_opened name specs
  · rw [show made = _ from furnished]
    rfl

theorem furnished_tidy (name : String) (index : Nat) (specs : List ControlSpec) (panel : Panel) (tidy : panel.Tidy)
    (alive : panel.disposed = false) (accepted : ∀ spec ∈ specs, spec.knob.accepts spec.initial = true) :
    (panel.furnished name index specs).Tidy := by
  rw [← furnished_panel name index specs panel tidy alive accepted]
  exact attach_all_tidy index _ _ (make_section_homed name specs panel tidy).1

end Studio

end ShaderKnobs
