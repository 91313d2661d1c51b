import ShaderKnobs.Proofs.Knob.Initial
import ShaderKnobs.Proofs.Panel.Furniture
import ShaderKnobs.Proofs.Panel.History

set_option autoImplicit false

namespace ShaderKnobs

namespace Studio

variable {E : Type}

theorem create_controls_quiet (name : String) (home : SectionId) (specs : List ControlSpec)
    (made : List (String × ControlId)) (studio : Studio E Panel) (alive : studio.panel.disposed = false)
    (known : (studio.panel.section? home).isSome)
    (accepted : ∀ spec ∈ specs, spec.knob.accepts spec.initial = true) :
    (createControls name home specs made studio).2.notices = studio.notices := by
  induction specs generalizing made studio with
  | nil => rfl
  | cons spec rest ih =>
      obtain ⟨between, granted, alive', known'⟩ :=
        add_control_live home spec studio.panel alive known (accepted spec List.mem_cons_self)
      rw [createControls, show PanelHost.addControl home spec studio.panel = _ from granted]
      exact ih _ { studio with panel := between } alive' known' fun spec member =>
        accepted spec (List.mem_cons_of_mem _ member)

theorem create_section_quiet (name : String) (specs : List ControlSpec) (studio : Studio E Panel)
    (alive : studio.panel.disposed = false) (accepted : ∀ spec ∈ specs, spec.knob.accepts spec.initial = true) :
    (createSection name specs studio).2.notices = studio.notices := by
  rw [createSection, show PanelHost.addSection name studio.panel = _ from studio.panel.add_section_live name alive]
  exact create_controls_quiet name _ specs [] { studio with panel := studio.panel.opened name } alive
    (studio.panel.opened_known name) accepted

theorem attach_listeners_quiet (name : String) (index : Nat) (entries : List (String × ControlId))
    (studio : Studio E Panel) (present : ∀ entry ∈ entries, (studio.panel.control? entry.2).isSome) :
    (attachListeners name index entries studio).notices = studio.notices := by
  induction entries generalizing studio with
  | nil => rfl
  | cons entry rest ih =>
      obtain ⟨c, found⟩ := Option.isSome_iff_exists.mp (present entry List.mem_cons_self)
      have granted : studio.panel.listen entry.2 (.follow index) = (.ok (),
          studio.panel.updateControl entry.2 fun c => { c with listeners := c.listeners ++ [.follow index] }) := by
        simp [Panel.listen, found]
      rw [attachListeners, show PanelHost.listen entry.2 (.follow index) studio.panel = _ from granted]
      refine ih { studio with panel := _ } fun other member => ?_
      rw [Panel.control?, Panel.updateControl, find_key_map Control.id _ (fun c => by split <;> rfl), Option.isSome_map]
      exact present other (List.mem_cons_of_mem _ member)

theorem assemble_quiet [EngineHost E] (name : String) (scene : SceneId) (plan : Blueprint) (program : ProgramId)
    (material : MaterialHandle) (studio : Studio E Panel) (alive : studio.panel.disposed = false) :
    (assemble name scene plan program material studio).2.notices =
      studio.notices ++ plan.tunables.flatMap (·.notices) := by
  let specs := plan.tunables.map (·.controlSpec)
  have accepted := specs_accepted plan.tunables
  let noted : Studio E Panel := { studio with notices := studio.notices ++ plan.tunables.flatMap (·.notices) }
  have sectioned := create_section_quiet name specs noted alive accepted
  obtain ⟨_, shape⟩ := create_section_eq name specs noted
  let made := createSection name specs noted
  let written := installCounter scene material studio.shaders.length plan.counter
    (writeValues material (initialValues specs) made.2)
  have same : written.notices = made.2.notices ∧ written.panel = made.2.panel := by
    simp only [written, installCounter]
    cases plan.counter <;> exact ⟨rfl, rfl⟩
  have furnished := make_section_furnish name specs studio.panel alive accepted
  simp only [assemble, notices_fold]
  refine (attach_listeners_quiet name studio.shaders.length made.1.2 written ?_).trans (same.1.trans sectioned)
  intro entry member
  rw [same.2, show made = _ from shape, show noted.panel = studio.panel from rfl, furnished]
  rw [show made = _ from shape, show noted.panel = studio.panel from rfl, furnished] at member
  obtain ⟨c, own, rfl⟩ := List.mem_map.mp member
  rw [Panel.control?, List.find?_isSome]
  exact ⟨c, List.mem_append_right _ own, by simp [Control.entry]⟩

theorem build_quiet [EngineHost E] (name : String) (scene : SceneId) (options : Options) (studio built : Studio E Panel)
    (plan : Blueprint) (index : Nat) (alive : studio.panel.disposed = false)
    (drawn : Blueprint.ofOptions options = .ok plan) (success : build name scene options studio = (.ok index, built)) :
    built.notices = (noticeUniformList name options studio).notices ++ plan.tunables.flatMap (·.notices) := by
  have panel : (noticeUniformList name options studio).panel = studio.panel := by
    obtain ⟨notices, noted⟩ := uniform_list_frame name options studio
    rw [noted]
  rw [← panel] at alive
  rw [build] at success
  generalize noticeUniformList name options studio = noted at *
  have kept : (createMaterial name scene options plan noted).2.notices = noted.notices ∧
      (createMaterial name scene options plan noted).2.panel = noted.panel := by
    simp only [createMaterial, freshProgram]
    split
    · exact ⟨rfl, rfl⟩
    · split <;> exact ⟨rfl, rfl⟩
  simp only [drawn] at success
  revert kept success
  rcases createMaterial name scene options plan noted with ⟨error | ⟨program, material⟩, between⟩
  · rintro _ failed
    cases failed
  · rintro ⟨notices, same⟩ success
    obtain ⟨_, rfl⟩ := Prod.mk.inj success
    rw [assemble_quiet name scene plan program material between (same ▸ alive)]
    exact congrArg (· ++ _) notices

structure Fills (tunable : Tunable) (entry : UniformValue) : Prop where
  name : entry.name = tunable.name
  source : entry.source = .knob tunable.knob
  current : tunable.knob.slotValue? tunable.initial = some entry.current

theorem initial_values_fill (tunables : List Tunable) :
    List.Forall₂ Fills tunables (initialValues (tunables.map (·.controlSpec))) := by
  induction tunables with
  | nil => exact .nil
  | cons tunable rest ih =>
      obtain ⟨value, written⟩ := tunable.initial_accepted
      have first : tunable.controlSpec.knob.slotValue? tunable.controlSpec.initial = some value := written
      simp only [initialValues, List.map_cons, List.filterMap_cons, first, Option.map_some] at ih ⊢
      exact .cons ⟨rfl, rfl, written⟩ ih

structure Furnished [EngineHost E] (name : String) (scene : SceneId) (options : Options) (plan : Blueprint)
    (shader : LiveShader) (before after : Studio E Panel) : Prop where
  panel : after.panel = before.panel.furnished name before.shaders.length (plan.tunables.map (·.controlSpec))
  home : shader.section_ = some ⟨before.panel.lastId + 1⟩
  controls : shader.controls = (madeControls ⟨before.panel.lastId + 1⟩ (before.panel.lastId + 1)
    (plan.tunables.map (·.controlSpec))).map Control.entry
  tunables : shader.tunables = plan.tunables
  filled : List.Forall₂ Fills plan.tunables (firstValues plan)
  values : shader.values = firstValues plan ++ (plan.counter.map counterValue).toList
  written : ∃ given, after.engine = equip scene shader.material before.shaders.length plan given
  shaders : after.shaders = before.shaders ++ [shader]
  notices : after.notices = (noticeUniformList name options before).notices ++ plan.tunables.flatMap (·.notices)

theorem build_furnished [EngineHost E] (name : String) (scene : SceneId) (options : Options)
    (studio built : Studio E Panel) (index : Nat) (tidy : studio.panel.Tidy) (alive : studio.panel.disposed = false)
    (success : build name scene options studio = (.ok index, built)) :
    index = studio.shaders.length ∧ ∃ plan shader, Blueprint.ofOptions options = .ok plan ∧
      Furnished name scene options plan shader studio built := by
  have ending := build_end name scene options studio
  rw [success] at ending
  generalize whole : (Except.ok index : Except BuildError Nat) = answer at ending
  generalize same : built = after at ending
  cases ending with
  | noBlueprint error notices drawn => cases whole
  | noProgram plan cause engine notices drawn registered => cases whole
  | noMaterial plan program cause between engine notices drawn registered created => cases whole
  | built plan program material between engine notices drawn registered created =>
      have accepted := specs_accepted plan.tunables
      have made := make_section_furnish name (plan.tunables.map (·.controlSpec)) studio.panel alive accepted
      have quiet := build_quiet name scene options studio built plan index alive drawn success
      subst same
      refine ⟨Except.ok.inj whole, plan, freshShader name plan (.numbered name (studio.lastProgram + 1)) material
        (makeSection name (plan.tunables.map (·.controlSpec)) studio.panel).1, drawn, ?_⟩
      exact {
        panel := furnished_panel name studio.shaders.length _ studio.panel tidy alive accepted
        home := by
          rw [made]
          rfl
        controls := by
          rw [made]
          rfl
        tunables := rfl
        filled := initial_values_fill plan.tunables
        values := rfl
        written := ⟨engine, rfl⟩
        shaders := rfl
        notices := quiet }

section

variable {name : String} {scene : SceneId} {options : Options} {plan : Blueprint} {shader : LiveShader}
  {before after : PlainStudio}

theorem Furnished.control (furnished : Furnished name scene options plan shader before after)
    (distinct : (plan.heads.map (·.1)).Nodup) (tunable : Tunable) (member : tunable ∈ plan.tunables) :
    ∃ c ∈ after.panel.controls, shader.control? tunable.name = some c.id ∧ c.spec = tunable.controlSpec ∧
      c.setting = tunable.initial ∧ c.listeners = [.follow before.shaders.length] := by
  let specs := plan.tunables.map (·.controlSpec)
  let made := madeControls ⟨before.panel.lastId + 1⟩ (before.panel.lastId + 1) specs
  have whole : made.map (·.spec) = specs := made_controls_specs _ specs _
  obtain ⟨c, own, spec⟩ := List.mem_map.mp (whole ▸ List.mem_map_of_mem member : tunable.controlSpec ∈ made.map (·.spec))
  have keys : ((made.map Control.entry).map (·.1)).Nodup := by
    have names := names_distinct plan distinct
    rw [List.map_map, show (Prod.fst ∘ Control.entry) = ControlSpec.key ∘ Control.spec from rfl, ← List.map_map, whole,
      List.map_map]
    exact names
  have found : shader.controls.find? (·.1 = tunable.name) = some c.entry := by
    rw [furnished.controls, show tunable.name = c.entry.1 from (congrArg ControlSpec.key spec).symm]
    exact find_key Prod.fst _ c.entry keys (List.mem_map_of_mem own)
  refine ⟨c.following before.shaders.length, ?_, ?_, spec, ?_, rfl⟩
  · rw [furnished.panel]
    exact List.mem_append_right _ (List.mem_map_of_mem own)
  · rw [LiveShader.control?, found]
    rfl
  · exact (made_controls_fresh _ specs _ c own).trans (congrArg ControlSpec.initial spec)

theorem Furnished.set_again (furnished : Furnished name scene options plan shader before after)
    (tidy : before.panel.Tidy) (alive : before.panel.disposed = false) (distinct : (plan.heads.map (·.1)).Nodup)
    (tunable : Tunable) (member : tunable ∈ plan.tunables) :
    ∃ id again, shader.control? tunable.name = some id ∧ edit id tunable.initial after = (.ok (), again) ∧
      again.panel = after.panel ∧ again.shaders = after.shaders ∧ again.engine.slots = after.engine.slots := by
  obtain ⟨c, present, listed, spec, shown, heard⟩ := furnished.control distinct tunable member
  have accepted := specs_accepted plan.tunables
  have tidy' : after.panel.Tidy := furnished.panel ▸ furnished_tidy name _ _ before.panel tidy alive accepted
  have alive' : after.panel.disposed = false := by
    rw [furnished.panel]
    exact alive
  have live : after.shaders[before.shaders.length]? = some shader := by
    rw [furnished.shaders]
    simp
  obtain ⟨value, written, found⟩ := initial_values_get plan.tunables tunable member (names_distinct plan distinct)
  have entry : ValueTable.get? tunable.name shader.values = some ⟨tunable.name, .knob tunable.knob, value⟩ := by
    rw [furnished.values, ValueTable.get?, List.find?_append, firstValues, show List.find? _ _ = _ from found,
      Option.some_or]
  have done := edit_while_followed true after c.id c alive' ((tidy'.control_iff c.id c).mpr ⟨present, rfl⟩)
    before.shaders.length heard shader live value (spec ▸ entry) tunable.initial value (spec ▸ written)
  rw [← shown, set_control_held after tidy'.ids c present] at done
  have heads : ValueTable.heads shader.values = plan.heads := by
    rw [furnished.values]
    exact blueprint_values_heads plan
  have names : (shader.values.map (·.name)).Nodup := by
    rw [← ValueTable.heads_names, heads]
    exact distinct
  have slot : after.engine.uniform? shader.material tunable.name = some value := by
    obtain ⟨given, engine⟩ := furnished.written
    obtain ⟨uniform, _⟩ := equip_frame scene shader.material before.shaders.length plan given
    have table : ((firstValues plan).map (·.name)).Nodup := by
      rw [← ValueTable.heads_names, firstValues, initial_values_heads, List.map_map]
      exact names_distinct plan distinct
    rw [engine, uniform]
    exact given.uniform_write_table shader.material tunable.name (firstValues plan) _ table found
  have held : shader.value? tunable.name = some value := by
    rw [LiveShader.value?, entry]
    rfl
  obtain ⟨shaders, slots⟩ := deliver_held after before.shaders.length shader tunable.name value live names held slot
  rw [shown, spec] at done
  exact ⟨c.id, _, listed, done, rfl, shaders, slots⟩

end

/-- Every annotation gives its uniform a setting to start with that can be written. A build on a live
panel, whatever has been asked of the panel before, makes one control for each annotated uniform in one
new section and has nothing refused, and an edit with the annotated data then changes nothing. -/
theorem annotations_take_hold (requests : List Panel.Request) (name : String) (scene : SceneId) (options : Options)
    (index : Nat) (alive : (Panel.serveAll requests .empty).2.disposed = false) :
    (∀ tunable : Tunable, tunable.Starts) ∧
    (∀ {E : Type} [EngineHost E] (studio built : Studio E Panel), studio.panel = (Panel.serveAll requests .empty).2 →
      build name scene options studio = (.ok index, built) → index = studio.shaders.length ∧
        ∃ plan shader, Blueprint.ofOptions options = .ok plan ∧
          Furnished name scene options plan shader studio built) ∧
    (∀ studio built : PlainStudio, studio.panel = (Panel.serveAll requests .empty).2 →
      build name scene options studio = (.ok index, built) → ∃ shader, built.shaders[index]? = some shader ∧
        ∀ tunable ∈ shader.tunables, ∀ data setting, Attributes.value? tunable.attributes = some data →
          tunable.knob.setting? data = some setting →
          ∃ id again, shader.control? tunable.name = some id ∧ edit id setting built = (.ok (), again) ∧
            again.panel = built.panel ∧ again.shaders = built.shaders ∧ again.engine.slots = built.engine.slots) := by
  have tidy : (Panel.serveAll requests .empty).2.Tidy := (Panel.serve_all_served requests .empty Panel.tidy_empty).tidy
  refine ⟨Tunable.starts, ?_, ?_⟩
  · intro E _ studio built panel success
    rw [← panel] at tidy alive
    exact build_furnished name scene options studio built index tidy alive success
  · intro studio built panel success
    rw [← panel] at tidy alive
    obtain ⟨rfl, plan, shader, drawn, furnished⟩ :=
      build_furnished name scene options studio built index tidy alive success
    refine ⟨shader, ?_, fun tunable member data setting given read => ?_⟩
    · rw [furnished.shaders]
      simp
    · rw [furnished.tunables] at member
      rw [← tunable.starts.agrees data setting given read]
      exact furnished.set_again tidy alive (blueprint_drawn options plan drawn).heads_distinct tunable member

theorem half_gain_set_again :
    ∃ built id setting again, build "tint" ⟨1⟩ gainOptions (start Engine.empty Panel.empty) = (.ok 0, built) ∧
      edit id setting built = (.ok (), again) ∧ again.shaders = built.shaders ∧
      again.engine.slots = built.engine.slots := by
  have success : (build "tint" ⟨1⟩ gainOptions (start Engine.empty Panel.empty)).1 = .ok 0 := by
    decide +kernel
  obtain ⟨built, whole⟩ : ∃ built, build "tint" ⟨1⟩ gainOptions (start Engine.empty Panel.empty) = (.ok 0, built) :=
    ⟨_, answer_pair _ _ success⟩
  obtain ⟨_, _, edits⟩ := annotations_take_hold [] "tint" ⟨1⟩ gainOptions 0 rfl
  obtain ⟨shader, live, agrees⟩ := edits (start Engine.empty Panel.empty) built rfl whole
  have read : ((build "tint" ⟨1⟩ gainOptions (start Engine.empty Panel.empty)).2.shaders[0]?.map fun shader =>
      shader.tunables.map fun tunable =>
        ((Attributes.value? tunable.attributes).bind tunable.knob.setting?).isSome) = some [true] := by
    decide +kernel
  rw [whole, live, Option.map_some, Option.some.injEq] at read
  obtain ⟨tunable, only⟩ := List.length_eq_one_iff.mp ((List.length_map _).symm.trans (congrArg List.length read))
  rw [only, List.map_singleton, List.singleton_inj] at read
  obtain ⟨setting, fits⟩ := Option.isSome_iff_exists.mp read
  obtain ⟨data, given, fits⟩ := Option.bind_eq_some_iff.mp fits
  obtain ⟨id, again, _, done, _, shaders, slots⟩ :=
    agrees tunable (only ▸ List.mem_singleton_self tunable) data setting given fits
  exact ⟨built, id, setting, again, whole, done, shaders, slots⟩

end Studio

end ShaderKnobs
