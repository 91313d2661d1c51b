import ShaderKnobs.Proofs.Studio.Linkage

set_option autoImplicit false

namespace ShaderKnobs

abbrev PlainStudio := Studio Engine Panel

theorem LiveShader.value_assign (name other : String) (value : SlotValue) (shader : LiveShader) :
    (shader.assign other value).value? name =
      if name = other then (shader.value? name).map fun _ => value else shader.value? name := by
  simp only [value?, assign]
  rw [ValueTable.get_assign, Option.map_map]
  by_cases same : name = other
  · simp [same, Function.comp_def]
  · simp [same, Function.comp_def]

namespace Studio

def deliver (index : Nat) (material : MaterialHandle) (name : String) (value : SlotValue)
    (studio : PlainStudio) : PlainStudio :=
  { studio with
    shaders := studio.shaders.modify index (·.assign name value)
    engine := studio.engine.write material name value }

-- A shader's value of a uniform and the engine's slot are both there, and equal.
def Mirrors (studio : PlainStudio) (index : Nat) (name : String) : Prop :=
  ∃ shader value, studio.shaders[index]? = some shader ∧ shader.value? name = some value ∧
    studio.engine.uniform? shader.material name = some value

-- A control shows the setting that the shader which follows it has taken.
def Shows (shaders : List LiveShader) (c : Control) : Prop :=
  ∀ index, c.listeners = [.follow index] →
    ∃ shader value, shaders[index]? = some shader ∧ shader.value? c.spec.key = some value ∧
      c.spec.knob.slotValue? c.setting = some value

structure Coherent (studio : PlainStudio) : Prop where
  declared : ∀ wiring ∈ studio.wirings, Declared wiring
  engine : EngineLinked studio.wirings studio.engine
  panel : PanelLinked studio.wirings studio.panel
  ledger : studio.engine.Ledger
  mirrors : ∀ index wiring, studio.wirings[index]? = some wiring →
    ∀ tunable ∈ wiring.tunables, Mirrors studio index tunable.name
  shows : ∀ c ∈ studio.panel.controls, Shows studio.shaders c

theorem wirings_deliver (index : Nat) (material : MaterialHandle) (name : String) (value : SlotValue)
    (studio : PlainStudio) : (deliver index material name value studio).wirings = studio.wirings :=
  wirings_update index _ studio (LiveShader.wiring_assign name value)

theorem deliver_shader (index other : Nat) (material : MaterialHandle) (name : String) (value : SlotValue)
    (studio : PlainStudio) (shader : LiveShader) (live : studio.shaders[other]? = some shader) :
    (deliver index material name value studio).shaders[other]? =
      some (if index = other then shader.assign name value else shader) := by
  simp only [deliver, List.getElem?_modify, live]
  rfl

theorem wired_value (studio : PlainStudio) (index : Nat) (wiring : Wiring)
    (wired : studio.wirings[index]? = some wiring) (declared : Declared wiring) (name : String) (source : ValueSource)
    (head : (name, source) ∈ wiring.heads) :
    ∃ shader old, studio.shaders[index]? = some shader ∧ shader.wiring = wiring ∧
      ValueTable.get? name shader.values = some ⟨name, source, old⟩ := by
  obtain ⟨shader, live, rfl⟩ := wirings_get studio index wiring wired
  obtain ⟨old, found⟩ := ValueTable.get_of_head name source shader.values declared.distinct head
  exact ⟨shader, old, live, rfl, found⟩

theorem mirrors_deliver (studio : PlainStudio) (linked : EngineLinked studio.wirings studio.engine) (index : Nat)
    (wiring : Wiring) (wired : studio.wirings[index]? = some wiring) (name : String) (value : SlotValue) (other : Nat)
    (key : String) (mirrors : Mirrors studio other key) :
    Mirrors (deliver index wiring.material name value studio) other key := by
  obtain ⟨shader, held, live, has, slot⟩ := mirrors
  have live' := deliver_shader index other wiring.material name value studio shader live
  have wired' : studio.wirings[other]? = some shader.wiring := by
    rw [wirings, List.getElem?_map, live, Option.map_some]
  have slot' := studio.engine.uniform_write shader.material wiring.material key name value
  by_cases here : index = other
  · have own : shader.material = wiring.material := by
      rw [here, wired'] at wired
      exact congrArg Wiring.material (Option.some.inj wired)
    rw [if_pos here] at live'
    by_cases same : key = name
    · refine ⟨_, value, live', ?_, ?_⟩
      · rw [LiveShader.value_assign, if_pos same, has, Option.map_some]
      · rw [if_pos ⟨own, same⟩] at slot'
        exact slot'
    · refine ⟨_, held, live', ?_, ?_⟩
      · rw [LiveShader.value_assign, if_neg same, has]
      · rw [if_neg (fun both => same both.2), slot] at slot'
        exact slot'
  · have apart : shader.material ≠ wiring.material := by
      intro same
      exact here (linked.material_apart index other wiring shader.wiring wired wired' same.symm)
    rw [if_neg here] at live'
    rw [if_neg (fun both => apart both.1), slot] at slot'
    exact ⟨shader, held, live', has, slot'⟩

theorem mirrors_delivered (studio : PlainStudio) (index : Nat) (wiring : Wiring)
    (wired : studio.wirings[index]? = some wiring) (declared : Declared wiring) (name : String) (source : ValueSource)
    (head : (name, source) ∈ wiring.heads) (value : SlotValue) :
    Mirrors (deliver index wiring.material name value studio) index name := by
  obtain ⟨shader, old, live, rfl, found⟩ := wired_value studio index wiring wired declared name source head
  have live' := deliver_shader index index shader.material name value studio shader live
  rw [if_pos rfl] at live'
  refine ⟨_, value, live', ?_, ?_⟩
  · rw [LiveShader.value_assign, if_pos rfl, LiveShader.value?, found]
    rfl
  · have slot := studio.engine.uniform_write shader.material shader.material name name value
    rw [if_pos ⟨rfl, rfl⟩] at slot
    exact slot

theorem shows_deliver (studio : PlainStudio) (index : Nat) (material : MaterialHandle) (name : String)
    (value : SlotValue) (c : Control) (shows : Shows studio.shaders c) (apart : c.slot ≠ ([.follow index], name)) :
    Shows (deliver index material name value studio).shaders c := by
  intro other heard
  obtain ⟨shader, held, live, has, shown⟩ := shows other heard
  refine ⟨_, held, deliver_shader index other material name value studio shader live, ?_, shown⟩
  split
  · next here =>
      have different : c.spec.key ≠ name := by
        intro same
        exact apart (by rw [Control.slot, heard, here, same])
      rw [LiveShader.value_assign, if_neg different, has]
  · exact has

theorem deliver_held (studio : PlainStudio) (index : Nat) (shader : LiveShader) (name : String) (value : SlotValue)
    (live : studio.shaders[index]? = some shader) (distinct : (shader.values.map (·.name)).Nodup)
    (held : shader.value? name = some value) (slot : studio.engine.uniform? shader.material name = some value) :
    let after := deliver index shader.material name value studio
    after.shaders = studio.shaders ∧ after.engine.slots = studio.engine.slots := by
  refine ⟨?_, Slots.put_held _ _ _ slot⟩
  apply List.ext_getElem?
  intro other
  have same : shader.assign name value = shader := by
    rw [LiveShader.assign, ValueTable.assign_held name value shader.values distinct held]
  simp only [deliver, List.getElem?_modify]
  by_cases here : index = other
  · subst here
    simp [live, same]
  · simp [here]

end Studio

end ShaderKnobs
