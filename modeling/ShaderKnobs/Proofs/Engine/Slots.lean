import ShaderKnobs.Engine.Basic
import ShaderKnobs.Proofs.Studio.Values

set_option autoImplicit false

namespace ShaderKnobs

theorem Slots.get_put (slot other : MaterialHandle × String) (value : SlotValue) (slots : Slots) :
    get? slot (put other value slots) = if slot = other then some value else get? slot slots := by
  induction slots with
  | nil => simp [put, get?]
  | cons entry rest ih =>
      obtain ⟨key, old⟩ := entry
      by_cases here : other = key <;> by_cases same : slot = other <;> by_cases first : slot = key <;>
        simp_all [put, get?]

theorem Slots.put_held (slot : MaterialHandle × String) (value : SlotValue) (slots : Slots)
    (held : get? slot slots = some value) : put slot value slots = slots := by
  induction slots with
  | nil => cases held
  | cons entry rest ih =>
      obtain ⟨key, old⟩ := entry
      by_cases here : slot = key
      · rw [get?, if_pos here] at held
        rw [put, if_pos here, here, Option.some.inj held]
      · rw [get?, if_neg here] at held
        rw [put, if_neg here, ih held]

def TargetCall.slotWrite : TargetCall → SlotWrite
  | .setBool material name value => ⟨material, name, .bool value⟩
  | .setInt material name value => ⟨material, name, .int value⟩
  | .setFloat material name value => ⟨material, name, .float value⟩
  | .setVec2 material name x y => ⟨material, name, .vec2 x y⟩
  | .setVec3 material name x y z => ⟨material, name, .vec3 x y z⟩
  | .setColor3 material name r g b => ⟨material, name, .color r g b⟩
  | .apply material name value => ⟨material, name, value⟩

namespace Engine

theorem apply_write (material : MaterialHandle) (name : String) (value : SlotValue) (engine : Engine) :
    UniformTarget.apply material name value engine = engine.write material name value := by
  cases value <;> rfl

theorem call_write (call : TargetCall) (engine : Engine) :
    call.run engine = engine.write call.slotWrite.material call.slotWrite.name call.slotWrite.value := by
  cases call with
  | apply material name value => exact apply_write material name value engine
  | _ => rfl

theorem uniform_write (material other : MaterialHandle) (name key : String) (value : SlotValue) (engine : Engine) :
    (engine.write other key value).uniform? material name =
      if material = other ∧ name = key then some value else engine.uniform? material name := by
  simp only [uniform?, write]
  rw [Slots.get_put]
  simp only [Prod.mk.injEq]

theorem writes_write (material other : MaterialHandle) (name key : String) (value : SlotValue) (engine : Engine) :
    (engine.write other key value).writesTo material name =
      engine.writesTo material name ++ if material = other ∧ name = key then [value] else [] := by
  by_cases same : other = material ∧ key = name
  · obtain ⟨rfl, rfl⟩ := same
    simp [writesTo, write]
  · have different : ¬(material = other ∧ name = key) := fun both => same ⟨both.1.symm, both.2.symm⟩
    simp [writesTo, write, same, different]

theorem log_write (material : MaterialHandle) (name : String) (value : SlotValue) (engine : Engine) :
    (engine.write material name value).log.toList = engine.log.toList ++ [⟨material, name, value⟩] := Array.toList_push

-- Slots and log tell the same story.
def Ledger (engine : Engine) : Prop :=
  ∀ (material : MaterialHandle) (name : String),
    engine.uniform? material name = (engine.writesTo material name).getLast?

theorem ledger_empty : Ledger empty := fun _ _ => rfl

theorem ledger_write (material : MaterialHandle) (name : String) (value : SlotValue) (engine : Engine)
    (ledger : Ledger engine) : Ledger (engine.write material name value) := by
  intro other key
  rw [uniform_write, writes_write]
  split
  · simp
  · rw [List.append_nil]
    exact ledger other key

-- All that writes leave alone, and all that requests for programs and materials leave alone.
structure OnlyWrites (before after : Engine) : Prop where
  lastHandle : after.lastHandle = before.lastHandle
  hooks : after.hooks = before.hooks

structure NoWrites (before after : Engine) : Prop where
  slots : after.slots = before.slots
  log : after.log = before.log
  hooks : after.hooks = before.hooks
  lastHandle : before.lastHandle ≤ after.lastHandle

theorem NoWrites.trans {first second third : Engine} (early : NoWrites first second) (late : NoWrites second third) :
    NoWrites first third where
  slots := late.slots.trans early.slots
  log := late.log.trans early.log
  hooks := late.hooks.trans early.hooks
  lastHandle := Nat.le_trans early.lastHandle late.lastHandle

theorem NoWrites.uniform {before after : Engine} (quiet : NoWrites before after) (material : MaterialHandle)
    (name : String) : after.uniform? material name = before.uniform? material name := by
  simp only [uniform?]
  rw [quiet.slots]

theorem NoWrites.ledger {before after : Engine} (quiet : NoWrites before after) (ledger : Ledger before) :
    Ledger after := by
  intro material name
  rw [quiet.uniform, ledger]
  simp only [writesTo]
  rw [quiet.log]

theorem register_program_quiet (id : ProgramId) (vertex fragment : String) (engine : Engine) :
    NoWrites engine (engine.registerProgram id vertex fragment).2 := by
  simp only [registerProgram]
  split
  · exact ⟨rfl, rfl, rfl, Nat.le_refl _⟩
  · exact ⟨rfl, rfl, rfl, Nat.le_succ _⟩

theorem create_material_quiet (name : String) (scene : SceneId) (program : ProgramHandle)
    (descriptor : MaterialDescriptor) (engine : Engine) :
    NoWrites engine (engine.createMaterial name scene program descriptor).2 := by
  simp only [createMaterial]
  split
  · exact ⟨rfl, rfl, rfl, Nat.le_refl _⟩
  · exact ⟨rfl, rfl, rfl, Nat.le_succ _⟩

theorem create_material_fresh (name : String) (scene : SceneId) (program : ProgramHandle)
    (descriptor : MaterialDescriptor) (engine after : Engine) (material : MaterialHandle)
    (created : engine.createMaterial name scene program descriptor = (.ok material, after)) :
    engine.lastHandle < material.number ∧ material.number = after.lastHandle := by
  simp only [createMaterial] at created
  split at created
  · cases (Prod.mk.inj created).1
  · obtain ⟨answer, rfl⟩ := Prod.mk.inj created
    obtain rfl := Except.ok.inj answer
    exact ⟨Nat.lt_succ_self _, rfl⟩

theorem register_unknown (id : ProgramId) (vertex fragment : String) (engine : Engine)
    (unknown : id ∉ engine.registered) :
    engine.registerProgram id vertex fragment = (.ok ⟨engine.lastHandle + 1⟩, { engine with
      lastHandle := engine.lastHandle + 1
      registered := engine.registered ++ [id]
      programs := engine.programs ++ [⟨⟨engine.lastHandle + 1⟩, id, vertex, fragment⟩] }) :=
  if_neg unknown

theorem register_known (id : ProgramId) (vertex fragment : String) (engine : Engine) (known : id ∈ engine.registered) :
    engine.registerProgram id vertex fragment = (.error (.programExists id), engine) :=
  if_pos known

theorem create_for_known (name : String) (scene : SceneId) (program : Program) (descriptor : MaterialDescriptor)
    (engine : Engine) (known : program ∈ engine.programs) :
    engine.createMaterial name scene program.handle descriptor = (.ok ⟨engine.lastHandle + 1⟩, { engine with
      lastHandle := engine.lastHandle + 1
      materials := engine.materials ++
        [⟨⟨engine.lastHandle + 1⟩, name, scene, program.handle, descriptor⟩] }) := by
  have found : ¬(engine.program? program.handle).isNone = true := by
    rw [Option.isNone_iff_eq_none, program?, List.find?_eq_none]
    exact fun absent => absent program known (decide_eq_true rfl)
  rw [createMaterial, if_neg found]

theorem create_for_unknown (name : String) (scene : SceneId) (program : ProgramHandle) (descriptor : MaterialDescriptor)
    (engine : Engine) (unknown : ∀ other ∈ engine.programs, other.handle ≠ program) :
    engine.createMaterial name scene program descriptor = (.error (.unknownProgram program), engine) := by
  have absent : (engine.program? program).isNone = true := by
    rw [Option.isNone_iff_eq_none, program?, List.find?_eq_none]
    exact fun other member same => unknown other member (of_decide_eq_true same)
  rw [createMaterial, if_pos absent]

def writeTable (material : MaterialHandle) (table : ValueTable) (engine : Engine) : Engine :=
  table.foldl (fun engine entry => engine.write material entry.name entry.current) engine

theorem apply_table (material : MaterialHandle) (table : ValueTable) (engine : Engine) :
    table.foldl (fun engine entry => UniformTarget.apply material entry.name entry.current engine) engine =
      engine.writeTable material table := by
  simp only [apply_write]
  rfl

theorem write_table_only_writes (material : MaterialHandle) (table : ValueTable) (engine : Engine) :
    OnlyWrites engine (engine.writeTable material table) := by
  induction table generalizing engine with
  | nil => exact ⟨rfl, rfl⟩
  | cons entry rest ih =>
      obtain ⟨lastHandle, hooks⟩ := ih (engine.write material entry.name entry.current)
      exact ⟨lastHandle, hooks⟩

theorem ledger_write_table (material : MaterialHandle) (table : ValueTable) (engine : Engine)
    (ledger : Ledger engine) : Ledger (engine.writeTable material table) := by
  induction table generalizing engine with
  | nil => exact ledger
  | cons entry rest ih => exact ih _ (ledger_write material entry.name entry.current engine ledger)

theorem uniform_write_table_other (material other : MaterialHandle) (name : String) (table : ValueTable)
    (engine : Engine) (apart : material ≠ other ∨ name ∉ table.map (·.name)) :
    (engine.writeTable other table).uniform? material name = engine.uniform? material name := by
  induction table generalizing engine with
  | nil => rfl
  | cons entry rest ih =>
      have later : material ≠ other ∨ name ∉ rest.map (·.name) :=
        apart.imp_right fun absent member => absent (List.mem_cons_of_mem _ member)
      have now : ¬(material = other ∧ name = entry.name) := by
        rintro ⟨sameMaterial, rfl⟩
        rcases apart with different | absent
        · exact different sameMaterial
        · exact absent List.mem_cons_self
      have step : (engine.writeTable other (entry :: rest)).uniform? material name =
          (engine.write other entry.name entry.current).uniform? material name := ih _ later
      rw [step, uniform_write, if_neg now]

theorem uniform_write_table (material : MaterialHandle) (name : String) (table : ValueTable) (entry : UniformValue)
    (engine : Engine) (distinct : (table.map (·.name)).Nodup) (found : ValueTable.get? name table = some entry) :
    (engine.writeTable material table).uniform? material name = some entry.current := by
  induction table generalizing engine with
  | nil => cases found
  | cons first rest ih =>
      rw [List.map_cons, List.nodup_cons] at distinct
      by_cases here : first.name = name
      · simp only [ValueTable.get?, List.find?_cons, here, decide_true, Option.some.injEq] at found
        obtain rfl := found
        have absent : name ∉ rest.map (·.name) := here ▸ distinct.1
        have step : (engine.writeTable material (first :: rest)).uniform? material name =
            (engine.write material first.name first.current).uniform? material name :=
          uniform_write_table_other material material name rest _ (.inr absent)
        rw [step, uniform_write, if_pos ⟨rfl, here.symm⟩]
      · simp only [ValueTable.get?, List.find?_cons, here, decide_false] at found
        exact ih _ distinct.2 found

end Engine

end ShaderKnobs
