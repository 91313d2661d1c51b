import ShaderKnobs.Proofs.Studio.Neighbours

set_option autoImplicit false

namespace ShaderKnobs

/-- Why a panel refuses an edit. No two reasons hold at once: a panel that is gone says nothing of its
controls, and a control that is not there says nothing of the setting. -/
inductive Panel.Refuses (control : ControlId) (setting : Setting) (panel : Panel) : PanelError → Prop where
  | disposed : panel.disposed = true → Refuses control setting panel .disposed
  | unknown : panel.disposed = false → (∀ c ∈ panel.controls, c.id ≠ control) →
      Refuses control setting panel (.unknownControl control)
  | misfit (c : Control) : panel.disposed = false → c ∈ panel.controls → c.id = control →
      c.spec.knob.accepts setting = false → Refuses control setting panel (.cannotBind c.spec.key
        (setting.diagnostic ++ " is not a " ++ c.spec.knob.name ++ " value"))

-- A live control is entered under its key in the list of the shader that follows it, and a list has each
-- key once.
structure Entered (wirings : List Wiring) (panel : Panel) : Prop where
  keys : ∀ wiring ∈ wirings, (wiring.controls.map (·.1)).Nodup
  entered : ∀ c ∈ panel.controls, ∀ (index : Nat) (wiring : Wiring), c.listeners = [.follow index] →
    wirings[index]? = some wiring → c.entry ∈ wiring.controls

theorem Entered.shrink {wirings : List Wiring} {before after : Panel} (entered : Entered wirings before)
    (fewer : after.controls ⊆ before.controls) : Entered wirings after where
  keys := entered.keys
  entered c member := entered.entered c (fewer member)

theorem Entered.update {wirings : List Wiring} {panel : Panel} (entered : Entered wirings panel) (id : ControlId)
    (setting : Setting) : Entered wirings (panel.updateControl id ({ · with setting := setting })) where
  keys := entered.keys
  entered c changed := by
    obtain ⟨old, present, own, rfl⟩ := set_control_old id setting panel c changed
    exact entered.entered old present

namespace Studio

theorem built_entered (name : String) (scene : SceneId) (options : Options) (studio after : PlainStudio) (index : Nat)
    (coherent : Coherent studio) (entered : Entered studio.wirings studio.panel)
    (success : build name scene options studio = (.ok index, after)) : Entered after.wirings after.panel := by
  have ending := build_end name scene options studio
  rw [success] at ending
  cases ending with
  | built plan program material between engine notices drawn registered created =>
      let specs := plan.tunables.map (·.controlSpec)
      let made := makeSection name specs studio.panel
      let fresh := freshShader name plan (.numbered name (studio.lastProgram + 1)) material made.1
      obtain ⟨gained, listed, grown, _, controls⟩ :=
        built_controls name studio.shaders.length specs studio.panel coherent.panel.bounded
      have count : studio.wirings.length = studio.shaders.length := List.length_map ..
      rw [wirings, List.map_append, List.map_singleton]
      change Entered (studio.wirings ++ [fresh.wiring]) (attachAll studio.shaders.length made.1.2 made.2)
      refine ⟨?_, ?_⟩
      · intro wiring member
        rcases List.mem_append.mp member with old | new
        · exact entered.keys wiring old
        · have names : (specs.map (·.key)).Nodup := by
            rw [List.map_map]
            exact names_distinct plan (blueprint_drawn options plan drawn).heads_distinct
          rw [List.mem_singleton.mp new]
          change (made.1.2.map (·.1)).Nodup
          rw [show made.1.2 = _ from listed, List.map_map]
          exact grown.keys names
      · intro c member i wiring heard wired
        rw [controls] at member
        rcases List.mem_append.mp member with old | new
        · obtain ⟨other, wiring', wired', heard', _⟩ := coherent.panel.serves c old
          obtain rfl : other = i := by simpa [heard] using heard'.symm
          rw [wired_grow wired' fresh.wiring] at wired
          obtain rfl := Option.some.inj wired
          exact entered.entered c old other wiring' heard wired'
        · obtain ⟨own, present, rfl⟩ := List.mem_map.mp new
          obtain rfl : studio.shaders.length = i := by simpa [Control.following] using heard
          rw [← count, List.getElem?_append_right (Nat.le_refl _)] at wired
          obtain rfl : fresh.wiring = wiring := by simpa using wired
          change own.entry ∈ made.1.2
          rw [show made.1.2 = _ from listed]
          exact List.mem_map_of_mem present

theorem edit_entered (control : ControlId) (setting : Setting) (studio : PlainStudio) (coherent : Coherent studio)
    (entered : Entered studio.wirings studio.panel) :
    Entered (edit control setting studio).2.wirings (edit control setting studio).2.panel := by
  rcases edit_end studio coherent control setting with ⟨error, refused⟩ | ⟨c, index, wiring, value, takes, done⟩
  · rw [refused]
    exact entered
  · rw [done, wirings_deliver index wiring.material c.spec.key value]
    exact entered.update control setting

theorem dispose_entered (all : Bool) (index : Nat) (studio : PlainStudio) (tidy : studio.panel.Tidy)
    (entered : Entered studio.wirings studio.panel) :
    Entered (studio.dispose true all index).wirings (studio.dispose true all index).panel := by
  rw [wirings_dispose true all index studio]
  unfold dispose
  split
  · exact entered
  split
  · exact entered
  rw [if_neg (by simp)]
  split
  · exact entered.shrink (List.nil_subset _)
  · next shader _ _ _ =>
    cases shader.section_ with
    | none => exact entered
    | some id =>
        change Entered studio.wirings (studio.panel.disposeSection id)
        refine entered.shrink ?_
        rw [tidy.dispose_section id]
        exact List.filter_sublist.subset

theorem step_entered (studio : PlainStudio) (sound : Sound studio) (entered : Entered studio.wirings studio.panel)
    (next : Act) : Entered (step studio next).wirings (step studio next).panel := by
  cases next with
  | build name scene options =>
      cases result : build name scene options studio with
      | mk answer after =>
          rw [step, result]
          cases answer with
          | error error =>
              obtain ⟨panel, shaders, _⟩ := failed_build_frame name scene options error studio after result
              rw [show after.wirings = studio.wirings from congrArg (List.map LiveShader.wiring) shaders, panel]
              exact entered
          | ok index => exact built_entered name scene options studio after index sound.coherent entered result
  | edit control setting => exact edit_entered control setting studio sound.coherent entered
  | frame scene =>
      have kept : (renderFrame scene studio).panel = studio.panel :=
        run_hooks_panel scene studio.wirings studio.engine.hooks studio sound.coherent.engine.ticking
      rw [step, wirings_render_frame scene studio, kept]
      exact entered
  | dispose all shader => exact dispose_entered all shader studio sound.homed.tidy entered

theorem perform_entered (acts : List Act) (studio : PlainStudio) (sound : Sound studio)
    (entered : Entered studio.wirings studio.panel) :
    Sound (perform acts studio) ∧ Entered (perform acts studio).wirings (perform acts studio).panel := by
  induction acts generalizing studio with
  | nil => exact ⟨sound, entered⟩
  | cons next rest ih => exact ih (step studio next) (sound.act next) (step_entered studio sound entered next)

theorem fresh_entered (lastProgram : Nat) : Entered (fresh lastProgram).wirings (fresh lastProgram).panel where
  keys _ member := by cases member
  entered _ member := by cases member

structure Owns (studio : PlainStudio) (index : Nat) (shader : LiveShader) (c : Control) : Prop where
  live : studio.shaders[index]? = some shader
  lists : shader.control? c.spec.key = some c.id
  alone : ∀ (other : Nat) (theirs : LiveShader), studio.shaders[other]? = some theirs →
    c.id ∈ theirs.controls.map (·.2) → other = index

theorem control_owned (studio : PlainStudio) (sound : Sound studio) (entered : Entered studio.wirings studio.panel)
    (c : Control) (member : c ∈ studio.panel.controls) (index : Nat) (shader : LiveShader)
    (live : studio.shaders[index]? = some shader) (heard : c.listeners = [.follow index]) :
    Owns studio index shader c := by
  have wiredAt : ∀ (other : Nat) (theirs : LiveShader), studio.shaders[other]? = some theirs →
      studio.wirings[other]? = some theirs.wiring := by
    intro other theirs there
    rw [wirings, List.getElem?_map, there, Option.map_some]
  have wired := wiredAt index shader live
  have listed := entered.entered c member index shader.wiring heard wired
  have keys := entered.keys shader.wiring (List.mem_of_getElem? wired)
  refine ⟨live, ?_, fun other theirs there lists => ?_⟩
  · have found : shader.controls.find? (·.1 = c.spec.key) = some c.entry :=
      find_key Prod.fst shader.controls c.entry keys listed
    rw [LiveShader.control?, found]
    rfl
  · have theirsHeard := listed_follows sound (wiredAt other theirs there) c.id lists c member rfl
    simpa [heard] using theirsHeard.symm

def valueAt? (index : Nat) (name : String) (studio : PlainStudio) : Option SlotValue :=
  studio.shaders[index]?.bind (·.value? name)

structure Touches (index : Nat) (shader : LiveShader) (c : Control) (setting : Setting) (value : SlotValue)
    (before after : PlainStudio) : Prop where
  log : after.engine.log.toList = before.engine.log.toList ++ [⟨shader.material, c.spec.key, value⟩]
  slots : ∀ material name, after.engine.uniform? material name =
    if material = shader.material ∧ name = c.spec.key then some value else before.engine.uniform? material name
  values : ∀ other name, after.valueAt? other name =
    if other = index ∧ name = c.spec.key then some value else before.valueAt? other name
  controls : ∀ id, after.panel.control? id =
    if id = c.id then some { c with setting := setting } else before.panel.control? id
  shaders : after.shaders = before.shaders.modify index (·.assign c.spec.key value)
  panel : after.panel = before.panel.updateControl c.id ({ · with setting := setting })
  rest : after = { before with
    engine := { before.engine with slots := after.engine.slots, log := after.engine.log }
    panel := after.panel
    shaders := after.shaders }

theorem delivery_touches (studio : PlainStudio) (c : Control) (found : studio.panel.control? c.id = some c)
    (index : Nat) (shader : LiveShader) (live : studio.shaders[index]? = some shader) (setting : Setting)
    (old value : SlotValue) (held : shader.value? c.spec.key = some old) :
    Touches index shader c setting value studio
      (deliver index shader.material c.spec.key value (setControl c.id setting studio)) where
  log := Engine.log_write shader.material c.spec.key value studio.engine
  slots material name := Engine.uniform_write material shader.material name c.spec.key value studio.engine
  values other name := by
    simp only [valueAt?, deliver, setControl, List.getElem?_modify]
    by_cases here : index = other
    · subst here
      by_cases same : name = c.spec.key
      · simp [live, LiveShader.value_assign, same, held]
      · simp [live, LiveShader.value_assign, same]
    · simp [here, Ne.symm here]
  controls id := by
    refine (control_set c.id id setting studio.panel).trans ?_
    by_cases here : id = c.id
    · subst here
      simp [found]
    · rw [if_neg here]
      cases other : studio.panel.control? id with
      | none => rfl
      | some c' =>
          have number : c'.id = id := by simpa using List.find?_some other
          rw [Option.map_some, if_neg (number ▸ here)]
  shaders := rfl
  panel := rfl
  rest := rfl

structure Repeats (record : SlotWrite) (before after : PlainStudio) : Prop where
  panel : after.panel = before.panel
  shaders : after.shaders = before.shaders
  slots : after.engine.slots = before.engine.slots
  log : after.engine.log.toList = before.engine.log.toList ++ [record]

theorem edit_again (studio : PlainStudio) (coherent : Coherent studio) (alive : studio.panel.disposed = false)
    (c : Control) (present : studio.panel.control? c.id = some c) (setting : Setting) (index : Nat) (wiring : Wiring)
    (value : SlotValue) (takes : Takes studio c.id setting c index wiring value) :
    let after := deliver index wiring.material c.spec.key value (setControl c.id setting studio)
    ∃ again, edit c.id setting after = (.ok (), again) ∧ Repeats ⟨wiring.material, c.spec.key, value⟩ after again := by
  intro after
  have coherent' : Coherent after := (taken_onward studio coherent c.id setting c index wiring value takes).coherent
  have kept : after.wirings = studio.wirings :=
    wirings_deliver index wiring.material c.spec.key value (setControl c.id setting studio)
  have shown : after.panel.control? c.id = some { c with setting := setting } := by
    refine (control_set c.id c.id setting studio.panel).trans ?_
    simp [present]
  obtain ⟨index', wiring', takes', done⟩ :=
    edit_live after coherent' alive c.id { c with setting := setting } shown setting value takes.written
  obtain rfl : index' = index := by simpa [takes.heard] using takes'.heard.symm
  obtain rfl : wiring' = wiring := Option.some.inj (takes'.wired.symm.trans (kept ▸ takes.wired))
  have same : setControl c.id setting after = after :=
    set_control_held after coherent'.panel.ids { c with setting := setting } (List.mem_of_find?_eq_some shown)
  rw [same] at done
  obtain ⟨shader, live, rfl⟩ := wirings_get after index' wiring' (kept ▸ takes.wired)
  have declared := coherent.declared shader.wiring (List.mem_of_getElem? takes.wired)
  obtain ⟨shader', held, live', has, slot⟩ :=
    mirrors_delivered (setControl c.id setting studio) index' shader.wiring takes.wired declared c.spec.key _ takes.head
      value
  obtain rfl : shader' = shader := Option.some.inj (live'.symm.trans live)
  have distinct : (shader'.values.map (·.name)).Nodup := by
    rw [← ValueTable.heads_names]
    exact declared.distinct
  have written : after.engine.uniform? shader'.material c.spec.key = some value :=
    (Engine.uniform_write shader'.material shader'.material c.spec.key c.spec.key value studio.engine).trans
      (if_pos ⟨rfl, rfl⟩)
  obtain rfl : held = value := Option.some.inj (slot.symm.trans written)
  obtain ⟨shaders, slots⟩ := deliver_held after index' shader' c.spec.key held live distinct has written
  exact ⟨_, done, rfl, shaders, slots, Engine.log_write shader'.material c.spec.key held after.engine⟩

theorem refused_edit (control : ControlId) (setting : Setting) (studio : PlainStudio) (tidy : studio.panel.Tidy)
    (error : PanelError) (refuses : studio.panel.Refuses control setting error) :
    edit control setting studio = (.error error, studio) := by
  have answer : studio.panel.edit control setting = .error error := by
    cases refuses with
    | disposed gone => simp [Panel.edit, gone]
    | unknown alive absent =>
        have none : studio.panel.control? control = none := List.find?_eq_none.mpr (by simpa using absent)
        simp [Panel.edit, alive, none]
    | misfit c alive member own misfit =>
        have present : studio.panel.control? control = some c := (tidy.control_iff control c).mpr ⟨member, own⟩
        simp [Panel.edit, alive, present, misfit]
  simp only [edit, editWhile]
  rw [show EditHost.edit control setting studio.panel = studio.panel.edit control setting from rfl, answer]

theorem accepted_edit (control : ControlId) (setting : Setting) (studio : PlainStudio) (tidy : studio.panel.Tidy)
    (accepted : ∀ error, ¬studio.panel.Refuses control setting error) :
    studio.panel.disposed = false ∧ ∃ c value, studio.panel.control? control = some c ∧ c ∈ studio.panel.controls ∧
      c.id = control ∧ c.spec.knob.slotValue? setting = some value := by
  have alive : studio.panel.disposed = false := by
    cases gone : studio.panel.disposed with
    | false => rfl
    | true => exact absurd (.disposed gone) (accepted .disposed)
  refine ⟨alive, ?_⟩
  cases found : studio.panel.control? control with
  | none =>
      have absent : ∀ c ∈ studio.panel.controls, c.id ≠ control := by
        simpa [Panel.control?] using found
      exact absurd (.unknown alive absent) (accepted _)
  | some c =>
      obtain ⟨member, own⟩ := (tidy.control_iff control c).mp found
      cases fits : c.spec.knob.accepts setting with
      | false => exact absurd (.misfit c alive member own fits) (accepted _)
      | true =>
          obtain ⟨value, written⟩ := Option.isSome_iff_exists.mp fits
          exact ⟨c, value, rfl, member, own, written⟩

/-- Whatever has been done with a fresh studio, an edit that the panel refuses changes nothing, and any
other edit touches one uniform; made again it adds its record to the log and nothing else. -/
theorem edits_all_or_nothing (lastProgram : Nat) (acts : List Act) (control : ControlId) (setting : Setting) :
    let studio := perform acts (fresh lastProgram)
    (∀ error, studio.panel.Refuses control setting error → edit control setting studio = (.error error, studio)) ∧
    ((∀ error, ¬studio.panel.Refuses control setting error) →
      ∃ c index shader value after again, c ∈ studio.panel.controls ∧ c.id = control ∧
        c.spec.knob.slotValue? setting = some value ∧ Owns studio index shader c ∧
        edit control setting studio = (.ok (), after) ∧ Touches index shader c setting value studio after ∧
        edit control setting after = (.ok (), again) ∧ Repeats ⟨shader.material, c.spec.key, value⟩ after again) := by
  intro studio
  obtain ⟨sound, entered⟩ := perform_entered acts (fresh lastProgram) ⟨fresh_coherent lastProgram, fresh_homed lastProgram⟩
    (fresh_entered lastProgram)
  have tidy := sound.homed.tidy
  refine ⟨refused_edit control setting studio tidy, fun accepted => ?_⟩
  obtain ⟨alive, c, value, present, member, rfl, written⟩ := accepted_edit control setting studio tidy accepted
  obtain ⟨index, wiring, takes, done⟩ :=
    edit_live studio sound.coherent alive c.id c present setting value written
  have declared := sound.coherent.declared wiring (List.mem_of_getElem? takes.wired)
  obtain ⟨shader, old, live, rfl, entry⟩ := wired_value studio index wiring takes.wired declared _ _ takes.head
  have held : shader.value? c.spec.key = some old := by
    rw [LiveShader.value?, entry, Option.map_some]
  obtain ⟨again, repeated, repeats⟩ :=
    edit_again studio sound.coherent alive c present setting index shader.wiring value takes
  exact ⟨c, index, shader, value, _, again, member, rfl, written,
    control_owned studio sound entered c member index shader live takes.heard, done,
    delivery_touches studio c present index shader live setting old value held, repeated, repeats⟩

theorem gain_takes_numbers_only :
    let studio := perform [.build "tint" ⟨1⟩ gainOptions] (fresh 0)
    (edit ⟨2⟩ (.bool true) studio).2 = studio ∧ ∃ index shader c after again,
      c.spec.key = "gain" ∧ edit ⟨2⟩ (.int 3) studio = (.ok (), after) ∧
      Touches index shader c (.int 3) (.float (Number.Binary.ofInt Number.single 3)) studio after ∧
      edit ⟨2⟩ (.int 3) after = (.ok (), again) ∧ again.shaders = after.shaders := by
  have whole := edits_all_or_nothing 0 [.build "tint" ⟨1⟩ gainOptions] ⟨2⟩
  have alive : (perform [.build "tint" ⟨1⟩ gainOptions] (fresh 0)).panel.disposed = false := by
    decide +kernel
  have listed : (perform [.build "tint" ⟨1⟩ gainOptions] (fresh 0)).panel.controls.map
      (fun c => (c.id, c.spec.key, c.spec.knob)) = [(⟨2⟩, "gain", .scalar)] := by
    decide +kernel
  dsimp only at whole ⊢
  generalize perform [.build "tint" ⟨1⟩ gainOptions] (fresh 0) = studio at *
  obtain ⟨gain, only⟩ := List.length_eq_one_iff.mp ((List.length_map _).symm.trans (congrArg List.length listed))
  obtain ⟨id, key, knob⟩ : gain.id = ⟨2⟩ ∧ gain.spec.key = "gain" ∧ gain.spec.knob = .scalar := by
    simpa [only] using listed
  have mine : ∀ c ∈ studio.panel.controls, c = gain := by
    intro c member
    rw [only] at member
    exact List.mem_singleton.mp member
  have present : gain ∈ studio.panel.controls := only ▸ List.mem_singleton_self gain
  refine ⟨?_, ?_⟩
  · have misfit : gain.spec.knob.accepts (.bool true) = false := by
      rw [knob]
      rfl
    exact congrArg (·.2) ((whole (.bool true)).1 _ (.misfit gain alive present id misfit))
  · obtain ⟨c, index, shader, value, after, again, member, _, written, _, done, touches, repeated, repeats⟩ :=
      (whole (.int 3)).2 (by
        intro error refuses
        cases refuses with
        | disposed gone => cases gone.symm.trans alive
        | unknown _ absent => exact absent gain present id
        | misfit c _ member _ misfit =>
            rw [mine c member, knob] at misfit
            cases misfit)
    obtain rfl := mine c member
    rw [knob] at written
    obtain rfl := Option.some.inj written
    exact ⟨index, shader, c, after, again, key, done, touches, repeated, repeats.shaders⟩

end Studio

end ShaderKnobs
