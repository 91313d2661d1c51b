import ShaderKnobs.Proofs.Studio.Twin

set_option autoImplicit false

namespace ShaderKnobs.Studio

theorem paired_agree (studio : PlainStudio) (twin : Engine) (paired : Twin studio twin) (index : Nat)
    (shader : LiveShader) (live : studio.shaders[index]? = some shader) (tunable : Tunable)
    (member : tunable ∈ shader.tunables)
    (same : studio.engine.uniform? shader.material tunable.name = twin.uniform? shader.material tunable.name) :
    ∃ value, Agrees studio shader tunable.name value := by
  have wired : studio.wirings[index]? = some shader.wiring := by
    rw [wirings, List.getElem?_map, live, Option.map_some]
  obtain ⟨shader', value, live', held, slot⟩ := paired.coherent.mirrors index shader.wiring wired tunable member
  obtain rfl : shader' = shader := Option.some.inj (live'.symm.trans live)
  have heard := same.trans slot
  exact ⟨value, held, heard, (paired.ledger _ _).symm.trans heard⟩

theorem agree_paired (studio : PlainStudio) (twin : Engine) (paired : Twin studio twin) (index : Nat)
    (shader : LiveShader) (live : studio.shaders[index]? = some shader) (tunable : Tunable)
    (member : tunable ∈ shader.tunables) (value : SlotValue) (agrees : Agrees studio shader tunable.name value) :
    studio.engine.uniform? shader.material tunable.name = twin.uniform? shader.material tunable.name := by
  have wired : studio.wirings[index]? = some shader.wiring := by
    rw [wirings, List.getElem?_map, live, Option.map_some]
  obtain ⟨shader', value', live', held, slot⟩ := paired.coherent.mirrors index shader.wiring wired tunable member
  obtain rfl : shader' = shader := Option.some.inj (live'.symm.trans live)
  rw [agrees.slot, slot, ← agrees.held, held]

-- An accepted edit: the shader takes the value whether or not the engine is free, and the engine
-- only if it is; otherwise a notice tells of it.
structure Accepted (engineFree : Bool) (before after : PlainStudio) (setting : Setting) (index : Nat)
    (shader : LiveShader) (tunable : Tunable) (value : SlotValue) : Prop where
  live : before.shaders[index]? = some shader
  member : tunable ∈ shader.tunables
  written : tunable.knob.slotValue? setting = some value
  taken : after.shaders[index]? = some (shader.assign tunable.name value)
  held : (shader.assign tunable.name value).value? tunable.name = some value
  free : engineFree = true → Agrees after (shader.assign tunable.name value) tunable.name value
  busy : engineFree = false → after.engine = before.engine ∧
    after.notices = before.notices ++ [.engineBusy shader.name tunable.name]

theorem edit_while_accepted (engineFree : Bool) (studio : PlainStudio) (twin : Engine) (paired : Twin studio twin)
    (control : ControlId) (setting : Setting) :
    (∃ error, editWhile engineFree control setting studio = (.error error, studio)) ∨
      ∃ after index shader tunable value, editWhile engineFree control setting studio = (.ok (), after) ∧
        Accepted engineFree studio after setting index shader tunable value := by
  rcases edit_while_end engineFree studio paired.coherent.declared paired.coherent.panel control setting with
    refused | ⟨c, index, wiring, value, takes, done⟩
  · exact .inl refused
  obtain ⟨index', wiring', wired', heard', tunable, member, key, knob⟩ := paired.coherent.panel.serves c takes.member
  obtain rfl : index' = index := by simpa [takes.heard] using heard'.symm
  obtain rfl : wiring' = wiring := Option.some.inj (wired'.symm.trans takes.wired)
  have declared := paired.coherent.declared wiring' (List.mem_of_getElem? takes.wired)
  obtain ⟨shader, old, live, rfl, found⟩ := wired_value studio index' wiring' takes.wired declared _ _ takes.head
  have taken := deliver_shader index' index' shader.material c.spec.key value (setControl control setting studio) shader live
  have held : (shader.assign c.spec.key value).value? c.spec.key = some value := by
    rw [LiveShader.value_assign, if_pos rfl, LiveShader.value?, found]
    rfl
  rw [if_pos rfl] at taken
  have accepted : ∀ (after : PlainStudio), editWhile engineFree control setting studio = (.ok (), after) →
      after.shaders[index']? = some (shader.assign c.spec.key value) →
      (engineFree = true → Agrees after (shader.assign c.spec.key value) c.spec.key value) →
      (engineFree = false → after.engine = studio.engine ∧
        after.notices = studio.notices ++ [.engineBusy shader.name c.spec.key]) →
      ∃ after index shader tunable value, editWhile engineFree control setting studio = (.ok (), after) ∧
        Accepted engineFree studio after setting index shader tunable value := by
    intro after edited present free busy
    rw [← key] at present free busy held
    exact ⟨after, index', shader, tunable, value, edited, live, member, knob ▸ takes.written, present, held, free, busy⟩
  refine .inr (accepted _ done ?_ ?_ ?_)
  · cases engineFree <;> exact taken
  · rintro rfl
    have slot : (studio.engine.write shader.material c.spec.key value).uniform? shader.material c.spec.key = some value := by
      rw [Engine.uniform_write, if_pos ⟨rfl, rfl⟩]
    have ledger := Engine.ledger_write shader.material c.spec.key value studio.engine paired.ledger
    exact ⟨held, slot, (ledger shader.material c.spec.key).symm.trans slot⟩
  · rintro rfl
    exact ⟨rfl, rfl⟩

theorem dropped_until_edited (lastProgram : Nat) (before after : List Move) :
    let studio := play before (fresh lastProgram)
    let later := play after studio
    (∀ engineFree control setting,
      (∃ error, editWhile engineFree control setting studio = (.error error, studio)) ∨
        ∃ edited index shader tunable value, editWhile engineFree control setting studio = (.ok (), edited) ∧
          Accepted engineFree studio edited setting index shader tunable value) ∧
    (∀ name scene options index built, build name scene options studio = (.ok index, built) →
      ∃ plan shader, Blueprint.ofOptions options = .ok plan ∧ built.shaders[index]? = some shader ∧
        shader.tunables = plan.tunables ∧ ∀ tunable ∈ plan.tunables, ∃ value, Agrees built shader tunable.name value) ∧
    ∃ given, later.notices = studio.notices ++ given ∧
      ∀ (index : Nat) (shader : LiveShader) (tunable : Tunable) (value : SlotValue),
        studio.shaders[index]? = some shader → tunable ∈ shader.tunables →
        Agrees studio shader tunable.name value → .engineBusy shader.name tunable.name ∉ given →
          ∃ shader' value', later.shaders[index]? = some shader' ∧ Agrees later shader' tunable.name value' := by
  intro studio later
  obtain ⟨twin, _, first⟩ := play_tracks before (fresh lastProgram) Engine.empty (fresh_paired lastProgram)
  have paired := first.paired
  obtain ⟨twin', given, tracks⟩ := play_tracks after studio twin paired
  refine ⟨fun engineFree => edit_while_accepted engineFree studio twin paired, ?_, given, tracks.notices, ?_⟩
  · intro name scene options index built success
    obtain ⟨twin'', _, tracks', born⟩ := build_tracks name scene options studio twin paired
    rw [success] at tracks' born
    obtain ⟨plan, wiring, drawn, wired, tunables, same⟩ := born index rfl
    obtain ⟨shader, live, rfl⟩ := wirings_get built index wiring wired
    refine ⟨plan, shader, drawn, live, tunables, fun tunable member => ?_⟩
    have annotated : tunable ∈ shader.tunables := by
      rw [show shader.tunables = plan.tunables from tunables]
      exact member
    exact paired_agree built twin'' tracks'.paired index shader live tunable annotated (same tunable member)
  · intro index shader tunable value live member agrees silent
    have wired : studio.wirings[index]? = some shader.wiring := by
      rw [wirings, List.getElem?_map, live, Option.map_some]
    obtain ⟨shader', live', same⟩ := wirings_get later index shader.wiring (tracks.wirings index _ wired)
    have material : shader'.material = shader.material := congrArg Wiring.material same
    have annotated : tunable ∈ shader'.tunables := by
      rw [show shader'.tunables = shader.tunables from congrArg Wiring.tunables same]
      exact member
    have agree := tracks.agree shader.wiring (List.mem_of_getElem? wired) tunable.name silent
      (agree_paired studio twin paired index shader live tunable member value agrees)
    obtain ⟨value', agrees'⟩ := paired_agree later twin' tracks.paired index shader' live' tunable annotated
      (by rw [material]; exact agree)
    exact ⟨shader', value', live', agrees'⟩

-- A hook that sets the gain to one: the shader says one from the first frame on, the engine still has a half.
theorem pulse_splits_gain :
    let built := (build "tint" ⟨1⟩ gainOptions (fresh 0)).2
    let hook : FrameHook := .script (fun _ => [.call (.apply ⟨2⟩ "pulse" (.bool true)), .edit ⟨2⟩ (.int 1)]) 0
    let studio := renderFrame ⟨1⟩ { built with engine := built.engine.onBeforeRender ⟨1⟩ hook }
    (studio.shaders[0]?.bind (·.value? "gain")) = some (.float (Number.Binary.ofInt Number.single 1)) ∧
      studio.engine.writesTo ⟨2⟩ "gain" ≠ [] ∧
      (studio.engine.writesTo ⟨2⟩ "gain").getLast? ≠ some (.float (Number.Binary.ofInt Number.single 1)) ∧
      studio.notices.map (·.message) = ["render engine busy; uniform update dropped"] := by
  decide +kernel

theorem pulsed_gain_heard_again :
    let pulse : List Move :=
      [.act (.build "tint" ⟨1⟩ gainOptions), .hookEdits ⟨1⟩ fun _ => [(⟨2⟩, .int 1)], .act (.frame ⟨1⟩)]
    ∃ after shader tunable value, edit ⟨2⟩ (.int 3) (play pulse (fresh 0)) = (.ok (), after) ∧
      shader ∈ after.shaders ∧ Agrees after shader tunable value := by
  intro pulse
  have done : (edit ⟨2⟩ (.int 3) (play pulse (fresh 0))).1 = .ok () := by
    decide +kernel
  obtain ⟨edits, _⟩ := dropped_until_edited 0 pulse []
  rcases edits true ⟨2⟩ (.int 3) with ⟨error, refused⟩ | ⟨after, index, shader, tunable, value, edited, accepted⟩
  · rw [edit, refused] at done
    cases done
  · exact ⟨after, _, tunable.name, value, edited, List.mem_of_getElem? accepted.taken, accepted.free rfl⟩

end ShaderKnobs.Studio
