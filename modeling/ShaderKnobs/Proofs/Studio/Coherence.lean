import ShaderKnobs.Proofs.Studio.Delivery

set_option autoImplicit false

namespace ShaderKnobs

def Engine.installed (engine : Engine) : List (SceneId × FrameHook) :=
  engine.hooks.map fun entry => (entry.1, entry.2.atFirst)

namespace Studio

structure Onward (before after : PlainStudio) : Prop where
  coherent : Coherent after
  wirings : ∀ (index : Nat) (wiring : Wiring), before.wirings[index]? = some wiring → after.wirings[index]? = some wiring
  mirrors : ∀ index name, Mirrors before index name → Mirrors after index name
  installed : ∀ entry ∈ before.engine.installed, entry ∈ after.engine.installed

theorem Onward.still {studio : PlainStudio} (coherent : Coherent studio) : Onward studio studio :=
  ⟨coherent, fun _ _ wired => wired, fun _ _ mirrors => mirrors, fun _ member => member⟩

theorem Onward.trans {first second third : PlainStudio} (early : Onward first second) (late : Onward second third) :
    Onward first third where
  coherent := late.coherent
  wirings index wiring wired := late.wirings index wiring (early.wirings index wiring wired)
  mirrors index name mirrors := late.mirrors index name (early.mirrors index name mirrors)
  installed entry member := late.installed entry (early.installed entry member)

theorem kept_onward (before after : PlainStudio) (coherent : Coherent before) (kept : after.wirings = before.wirings)
    (lastHandle : before.engine.lastHandle ≤ after.engine.lastHandle)
    (hooks : after.engine.hooks = before.engine.hooks) (panel : PanelLinked before.wirings after.panel)
    (ledger : after.engine.Ledger) (mirrors : ∀ index name, Mirrors before index name → Mirrors after index name)
    (shows : ∀ c ∈ after.panel.controls, Shows after.shaders c) : Onward before after := by
  have installed : after.engine.installed = before.engine.installed := congrArg (List.map _) hooks
  refine ⟨⟨?_, ?_, ?_, ledger, ?_, shows⟩, ?_, mirrors, ?_⟩
  · rw [kept]
    exact coherent.declared
  · rw [kept]
    exact coherent.engine.same lastHandle hooks
  · rw [kept]
    exact panel
  · intro index wiring wired tunable member
    rw [kept] at wired
    exact mirrors index tunable.name (coherent.mirrors index wiring wired tunable member)
  · intro index wiring wired
    rw [kept]
    exact wired
  · rw [installed]
    exact fun _ member => member

-- The tick of a counter is delivered to a uniform that no control serves.
theorem tick_onward (studio : PlainStudio) (coherent : Coherent studio) (index : Nat) (wiring : Wiring)
    (wired : studio.wirings[index]? = some wiring) (name : String) (head : (name, .frameCounter) ∈ wiring.heads)
    (value : SlotValue) : Onward studio (deliver index wiring.material name value studio) := by
  have kept := wirings_deliver index wiring.material name value studio
  have mirrors := fun other key => mirrors_deliver studio coherent.engine index wiring wired name value other key
  have ledger := Engine.ledger_write wiring.material name value studio.engine coherent.ledger
  refine kept_onward studio _ coherent kept (Nat.le_refl _) rfl coherent.panel ledger mirrors ?_
  intro c member
  refine shows_deliver studio index wiring.material name value c (coherent.shows c member) fun slot => ?_
  obtain ⟨other, wiring', wired', heard, tunable, annotated, key, _⟩ := coherent.panel.serves c member
  obtain ⟨listeners, served⟩ := Prod.mk.inj slot
  rw [heard] at listeners
  obtain rfl : other = index := by simpa using listeners
  obtain rfl : wiring' = wiring := Option.some.inj (wired'.symm.trans wired)
  have declared := coherent.declared wiring' (List.mem_of_getElem? wired)
  have own := declared.annotated tunable annotated
  rw [key, served] at own
  cases head_unique wiring'.heads name _ _ declared.distinct own head

theorem run_hooks_onward (scene : SceneId) (hooks : List (SceneId × FrameHook)) (studio : PlainStudio)
    (coherent : Coherent studio) (ticking : ∀ entry ∈ hooks, Ticks studio.wirings entry.2) :
    let ran := runHooks scene hooks studio
    Onward studio ran.2 ∧
      ran.1.map (fun entry => (entry.1, entry.2.atFirst)) = hooks.map (fun entry => (entry.1, entry.2.atFirst)) ∧
      ∀ index material name, (scene, .counter index material name 0) ∈
        hooks.map (fun entry => (entry.1, entry.2.atFirst)) → Mirrors ran.2 index name := by
  induction hooks generalizing studio with
  | nil => exact ⟨.still coherent, rfl, by simp⟩
  | cons entry rest ih =>
      obtain ⟨home, hook⟩ := entry
      have later : ∀ entry ∈ rest, Ticks studio.wirings entry.2 :=
        fun entry member => ticking entry (List.mem_cons_of_mem _ member)
      simp only [runHooks]
      split
      · next here =>
          obtain ⟨index, wiring, name, shape, wired, head⟩ := ticking (home, hook) List.mem_cons_self
          cases hook with
          | script _ _ => cases shape
          | counter index' material name' frame =>
              obtain ⟨rfl, rfl, rfl, _⟩ := FrameHook.counter.inj shape
              let value : SlotValue := .float (Number.Binary.ofInt Number.single frame.toNat)
              have now := tick_onward studio coherent index' wiring wired name' head value
              have kept := wirings_deliver index' wiring.material name' value studio
              obtain ⟨onward, same, counted⟩ := ih (deliver index' wiring.material name' value studio) now.coherent
                (by rw [kept]; exact later)
              refine ⟨now.trans onward, ?_, ?_⟩
              · exact congrArg ((home, FrameHook.counter index' wiring.material name' 0) :: ·) same
              · intro index material name member
                rcases List.mem_cons.mp member with first | others
                · obtain ⟨rfl, rfl, rfl, _⟩ := FrameHook.counter.inj (Prod.mk.inj first).2
                  have declared := coherent.declared wiring (List.mem_of_getElem? wired)
                  exact onward.mirrors index name
                    (mirrors_delivered studio index wiring wired declared name _ head value)
                · exact counted index material name others
      · next elsewhere =>
          obtain ⟨onward, same, counted⟩ := ih studio coherent later
          refine ⟨onward, congrArg ((home, hook.atFirst) :: ·) same, ?_⟩
          intro index material name member
          rcases List.mem_cons.mp member with first | others
          · exact absurd (Prod.mk.inj first).1.symm elsewhere
          · exact counted index material name others

theorem frame_onward (scene : SceneId) (studio : PlainStudio) (coherent : Coherent studio) :
    Onward studio (renderFrame scene studio) ∧
      ∀ index material name, (scene, .counter index material name 0) ∈ studio.engine.installed →
        Mirrors (renderFrame scene studio) index name := by
  obtain ⟨onward, same, counted⟩ := run_hooks_onward scene studio.engine.hooks studio coherent coherent.engine.ticking
  have kept : (renderFrame scene studio).wirings = (runHooks scene studio.engine.hooks studio).2.wirings := rfl
  have hooks : (renderFrame scene studio).engine.installed = studio.engine.installed := same
  refine ⟨⟨⟨?_, ?_, ?_, ?_, ?_, ?_⟩, ?_, ?_, ?_⟩, counted⟩
  · exact onward.coherent.declared
  · refine ⟨onward.coherent.engine.issued, onward.coherent.engine.apart, ?_⟩
    intro entry member
    have first : (entry.1, entry.2.atFirst) ∈ studio.engine.installed := by
      rw [← hooks]
      exact List.mem_map_of_mem member
    obtain ⟨entry', member', same'⟩ := List.mem_map.mp first
    obtain ⟨index, wiring, name, shape, wired, head⟩ := coherent.engine.ticking entry' member'
    exact ⟨index, wiring, name, (Prod.mk.inj same').2.symm.trans shape, onward.wirings index wiring wired, head⟩
  · exact onward.coherent.panel
  · exact onward.coherent.ledger
  · exact onward.coherent.mirrors
  · exact onward.coherent.shows
  · exact onward.wirings
  · exact onward.mirrors
  · rw [hooks]
    exact fun _ member => member

-- The control that an edit changes, the shader that follows it and the value that the shader takes.
structure Takes (studio : PlainStudio) (control : ControlId) (setting : Setting) (c : Control) (index : Nat)
    (wiring : Wiring) (value : SlotValue) : Prop where
  member : c ∈ studio.panel.controls
  own : c.id = control
  wired : studio.wirings[index]? = some wiring
  heard : c.listeners = [.follow index]
  head : (c.spec.key, .knob c.spec.knob) ∈ wiring.heads
  written : c.spec.knob.slotValue? setting = some value

def setControl (control : ControlId) (setting : Setting) (studio : PlainStudio) : PlainStudio :=
  { studio with panel := studio.panel.updateControl control ({ · with setting := setting }) }

theorem set_control_held (studio : PlainStudio) (ids : (studio.panel.controls.map (·.id)).Nodup) (c : Control)
    (member : c ∈ studio.panel.controls) : setControl c.id c.setting studio = studio := by
  have same : studio.panel.controls.map (fun other =>
      if other.id = c.id then { other with setting := c.setting } else other) = studio.panel.controls := by
    conv => rhs; rw [← List.map_id studio.panel.controls]
    refine List.map_congr_left fun other present => ?_
    by_cases own : other.id = c.id
    · obtain rfl := List.inj_on_of_nodup_map ids present member own
      rw [if_pos rfl]
      rfl
    · rw [if_neg own]
      rfl
  rw [setControl, Panel.updateControl, same]

theorem edit_while_followed (engineFree : Bool) (studio : PlainStudio) (control : ControlId) (c : Control)
    (alive : studio.panel.disposed = false) (present : studio.panel.control? control = some c) (index : Nat)
    (heard : c.listeners = [.follow index]) (shader : LiveShader) (live : studio.shaders[index]? = some shader)
    (old : SlotValue) (entry : ValueTable.get? c.spec.key shader.values = some ⟨c.spec.key, .knob c.spec.knob, old⟩)
    (setting : Setting) (value : SlotValue) (written : c.spec.knob.slotValue? setting = some value) :
    editWhile engineFree control setting studio = (.ok (),
      if engineFree then deliver index shader.material c.spec.key value (setControl control setting studio)
      else notice (.engineBusy shader.name c.spec.key)
        (updateShader index (·.assign c.spec.key value) (setControl control setting studio))) := by
  have fits : c.spec.knob.accepts setting = true := Option.isSome_iff_exists.mpr ⟨value, written⟩
  have granted : EditHost.edit control setting studio.panel =
      .ok (studio.panel.updateControl control ({ · with setting := setting }), ⟨control, c.spec.key, setting⟩,
        c.listeners) := by
    change studio.panel.edit control setting = _
    simp only [Panel.edit, alive, present, fits]
    rfl
  simp only [editWhile, granted, heard, List.foldl_cons, List.foldl_nil, hear, follow, live, LiveShader.reaction, entry,
    written, Engine.apply_write]
  cases engineFree <;> rfl

theorem edit_while_live (engineFree : Bool) (studio : PlainStudio)
    (declared : ∀ wiring ∈ studio.wirings, Declared wiring) (panel : PanelLinked studio.wirings studio.panel)
    (alive : studio.panel.disposed = false) (control : ControlId) (c : Control)
    (present : studio.panel.control? control = some c) (setting : Setting) (value : SlotValue)
    (written : c.spec.knob.slotValue? setting = some value) :
    ∃ index wiring, Takes studio control setting c index wiring value ∧
      editWhile engineFree control setting studio = (.ok (),
        if engineFree then deliver index wiring.material c.spec.key value (setControl control setting studio)
        else notice (.engineBusy wiring.name c.spec.key)
          (updateShader index (·.assign c.spec.key value) (setControl control setting studio))) := by
  have member : c ∈ studio.panel.controls := List.mem_of_find?_eq_some present
  have own : c.id = control := by simpa using List.find?_some present
  obtain ⟨index, wiring, wired, heard, tunable, annotated, key, knob⟩ := panel.serves c member
  have declared := declared wiring (List.mem_of_getElem? wired)
  have head := declared.annotated tunable annotated
  rw [key, knob] at head
  obtain ⟨shader, old, live, rfl, entry⟩ := wired_value studio index wiring wired declared _ _ head
  exact ⟨index, shader.wiring, ⟨member, own, wired, heard, head, written⟩,
    edit_while_followed engineFree studio control c alive present index heard shader live old entry setting value written⟩

theorem edit_while_end (engineFree : Bool) (studio : PlainStudio) (declared : ∀ wiring ∈ studio.wirings, Declared wiring)
    (panel : PanelLinked studio.wirings studio.panel) (control : ControlId) (setting : Setting) :
    (∃ error, editWhile engineFree control setting studio = (.error error, studio)) ∨
      ∃ c index wiring value, Takes studio control setting c index wiring value ∧
        editWhile engineFree control setting studio = (.ok (),
          if engineFree then deliver index wiring.material c.spec.key value (setControl control setting studio)
          else notice (.engineBusy wiring.name c.spec.key)
            (updateShader index (·.assign c.spec.key value) (setControl control setting studio))) := by
  have refused : ∀ error, studio.panel.edit control setting = .error error →
      editWhile engineFree control setting studio = (.error error, studio) := by
    intro error answer
    rw [editWhile, show EditHost.edit control setting studio.panel = .error error from answer]
  by_cases gone : studio.panel.disposed
  · exact .inl ⟨_, refused _ (if_pos gone)⟩
  have alive : studio.panel.disposed = false := by simpa using gone
  cases found : studio.panel.control? control with
  | none => exact .inl ⟨_, refused (.unknownControl control) (by simp [Panel.edit, alive, found])⟩
  | some c =>
      cases fits : c.spec.knob.slotValue? setting with
      | some value =>
          obtain ⟨index, wiring, taken⟩ :=
            edit_while_live engineFree studio declared panel alive control c found setting value fits
          exact .inr ⟨c, index, wiring, value, taken⟩
      | none =>
          have misfit : c.spec.knob.accepts setting = false := by
            rw [Knob.accepts, fits]
            rfl
          exact .inl ⟨_, refused (.cannotBind c.spec.key
            (setting.diagnostic ++ " is not a " ++ c.spec.knob.name ++ " value")) (by
              simp [Panel.edit, alive, found, misfit])⟩

theorem edit_end (studio : PlainStudio) (coherent : Coherent studio) (control : ControlId) (setting : Setting) :
    (∃ error, edit control setting studio = (.error error, studio)) ∨
      ∃ c index wiring value, Takes studio control setting c index wiring value ∧
        edit control setting studio =
          (.ok (), deliver index wiring.material c.spec.key value (setControl control setting studio)) :=
  edit_while_end true studio coherent.declared coherent.panel control setting

theorem edit_live (studio : PlainStudio) (coherent : Coherent studio) (alive : studio.panel.disposed = false)
    (id : ControlId) (c : Control) (present : studio.panel.control? id = some c) (setting : Setting) (value : SlotValue)
    (written : c.spec.knob.slotValue? setting = some value) :
    ∃ index wiring, Takes studio id setting c index wiring value ∧ studio.edit id setting =
      (.ok (), deliver index wiring.material c.spec.key value (setControl id setting studio)) :=
  edit_while_live true studio coherent.declared coherent.panel alive id c present setting value written

theorem taken_onward (studio : PlainStudio) (coherent : Coherent studio) (control : ControlId) (setting : Setting)
    (c : Control) (index : Nat) (wiring : Wiring) (value : SlotValue)
    (takes : Takes studio control setting c index wiring value) :
    Onward studio (deliver index wiring.material c.spec.key value (setControl control setting studio)) := by
  obtain ⟨member, own, wired, heard, head, written⟩ := takes
  let set := setControl control setting studio
  have kept : (deliver index wiring.material c.spec.key value set).wirings = studio.wirings :=
    wirings_deliver index wiring.material c.spec.key value set
  have declared := coherent.declared wiring (List.mem_of_getElem? wired)
  have mirrors : ∀ other key, Mirrors studio other key →
      Mirrors (deliver index wiring.material c.spec.key value set) other key :=
    fun other key => mirrors_deliver set coherent.engine index wiring wired c.spec.key value other key
  have ledger := Engine.ledger_write wiring.material c.spec.key value studio.engine coherent.ledger
  refine kept_onward studio _ coherent kept (Nat.le_refl _) rfl (coherent.panel.update control setting) ledger
    mirrors ?_
  intro changed present
  obtain ⟨before, member', rfl⟩ := List.mem_map.mp present
  by_cases here : before.id = control
  · obtain rfl : before = c := List.inj_on_of_nodup_map coherent.panel.ids member' member (here.trans own.symm)
    rw [if_pos here]
    intro other heard'
    obtain rfl : other = index := by simpa [heard] using heard'.symm
    obtain ⟨shader, old, live, _, entry⟩ := wired_value studio other wiring wired declared _ _ head
    refine ⟨_, value, deliver_shader other other wiring.material before.spec.key value set shader live, ?_, written⟩
    rw [if_pos rfl, LiveShader.value_assign, if_pos rfl, LiveShader.value?, entry]
    rfl
  · rw [if_neg here]
    refine shows_deliver set index wiring.material c.spec.key value before (coherent.shows before member') ?_
    intro same
    have slot : before.slot = c.slot := same.trans (by rw [Control.slot, heard])
    obtain rfl := List.inj_on_of_nodup_map coherent.panel.slots member' member slot
    exact here own

theorem edit_onward (studio : PlainStudio) (coherent : Coherent studio) (control : ControlId) (setting : Setting) :
    Onward studio (edit control setting studio).2 := by
  rcases edit_end studio coherent control setting with ⟨error, refused⟩ | ⟨c, index, wiring, value, takes, done⟩
  · rw [refused]
    exact .still coherent
  · rw [done]
    exact taken_onward studio coherent control setting c index wiring value takes

theorem shrink_onward (studio : PlainStudio) (coherent : Coherent studio) (panel : Panel)
    (lastId : panel.lastId = studio.panel.lastId) (fewer : panel.controls.Sublist studio.panel.controls) (index : Nat)
    (mark : LiveShader → LiveShader) (wiring : ∀ shader, (mark shader).wiring = shader.wiring)
    (values : ∀ shader, (mark shader).values = shader.values) :
    Onward studio (updateShader index mark { studio with panel := panel }) := by
  let after : PlainStudio := updateShader index mark { studio with panel := panel }
  have kept : after.wirings = studio.wirings := wirings_update index mark { studio with panel := panel } wiring
  have marked : ∀ (other : Nat) (shader : LiveShader), studio.shaders[other]? = some shader →
      ∃ shader', after.shaders[other]? = some shader' ∧ shader'.wiring = shader.wiring ∧
        shader'.values = shader.values := by
    intro other shader live
    refine ⟨if index = other then mark shader else shader, ?_, ?_, ?_⟩
    · simp only [after, updateShader, List.getElem?_modify, live]
      rfl
    · split
      · exact wiring shader
      · rfl
    · split
      · exact values shader
      · rfl
  have mirrors : ∀ other name, Mirrors studio other name → Mirrors after other name := by
    rintro other name ⟨shader, held, live, has, slot⟩
    obtain ⟨shader', live', sameWiring, sameValues⟩ := marked other shader live
    have material : shader'.material = shader.material := congrArg Wiring.material sameWiring
    refine ⟨shader', held, live', ?_, ?_⟩
    · rw [LiveShader.value?, sameValues]
      exact has
    · rw [material]
      exact slot
  refine kept_onward studio after coherent kept (Nat.le_refl _) rfl (coherent.panel.shrink lastId fewer)
    coherent.ledger mirrors ?_
  intro c member other heard
  obtain ⟨shader, held, live, has, shown⟩ := coherent.shows c (fewer.subset member) other heard
  obtain ⟨shader', live', _, sameValues⟩ := marked other shader live
  refine ⟨shader', held, live', ?_, shown⟩
  rw [LiveShader.value?, sameValues]
  exact has

theorem dispose_onward (studio : PlainStudio) (coherent : Coherent studio) (all : Bool) (index : Nat) :
    Onward studio (studio.dispose true all index) := by
  simp only [dispose]
  split
  · exact .still coherent
  next shader live =>
  split
  · exact .still coherent
  rw [if_neg (by simp)]
  split
  · exact shrink_onward studio coherent studio.panel.dispose rfl (List.nil_sublist _) index _ (fun _ => rfl)
      (fun _ => rfl)
  · refine shrink_onward studio coherent _ ?_ ?_ index _ (fun _ => rfl) (fun _ => rfl)
    · cases shader.section_ with
      | none => rfl
      | some id =>
          change (studio.panel.disposeSection id).lastId = _
          simp only [Panel.disposeSection]
          split <;> rfl
    · cases shader.section_ with
      | none => exact List.Sublist.refl _
      | some id =>
          change (studio.panel.disposeSection id).controls.Sublist _
          simp only [Panel.disposeSection]
          split
          · exact List.Sublist.refl _
          · exact List.filter_sublist

theorem quiet_onward (studio after : PlainStudio) (coherent : Coherent studio)
    (quiet : studio.engine.NoWrites after.engine) (panel : after.panel = studio.panel)
    (shaders : after.shaders = studio.shaders) : Onward studio after := by
  have kept : after.wirings = studio.wirings := congrArg (List.map LiveShader.wiring) shaders
  have mirrors : ∀ index name, Mirrors studio index name → Mirrors after index name := by
    rintro index name ⟨shader, held, live, has, slot⟩
    refine ⟨shader, held, ?_, has, ?_⟩
    · rw [shaders]
      exact live
    · rw [quiet.uniform]
      exact slot
  have linked : PanelLinked studio.wirings after.panel := panel ▸ coherent.panel
  refine kept_onward studio after coherent kept quiet.lastHandle quiet.hooks linked (quiet.ledger coherent.ledger)
    mirrors ?_
  rw [panel, shaders]
  exact coherent.shows

end Studio

end ShaderKnobs
