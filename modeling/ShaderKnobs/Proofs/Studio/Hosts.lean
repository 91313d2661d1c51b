import ShaderKnobs.Proofs.Studio.Routine

set_option autoImplicit false

namespace ShaderKnobs

-- The mark that stands last settles where two texts are split.
theorem split_at_last_mark {α : Type} (mark : α) (one two rest other : List α) (clear : mark ∉ rest)
    (clear' : mark ∉ other) (same : one ++ mark :: rest = two ++ mark :: other) : one = two ∧ rest = other := by
  rcases List.append_eq_append_iff.mp same with ⟨between, rfl, tail⟩ | ⟨between, rfl, tail⟩
  · cases between with
    | nil => exact ⟨(List.append_nil one).symm, List.tail_eq_of_cons_eq tail⟩
    | cons first between =>
        rw [List.cons_append, List.cons.injEq] at tail
        exact absurd (tail.2 ▸ List.mem_append_right between List.mem_cons_self) clear
  · cases between with
    | nil => exact ⟨List.append_nil two, (List.tail_eq_of_cons_eq tail).symm⟩
    | cons first between =>
        rw [List.cons_append, List.cons.injEq] at tail
        exact absurd (tail.2 ▸ List.mem_append_right between List.mem_cons_self) clear'

namespace ProgramId

-- Names may hold marks and digits themselves: what follows the last mark is the number.
theorem numbered_inj (name other : String) (number count : Nat) :
    numbered name number = numbered other count ↔ name = other ∧ number = count := by
  refine ⟨fun same => ?_, fun ⟨sameName, sameNumber⟩ => by rw [sameName, sameNumber]⟩
  have unmarked (n : Nat) : '#' ∉ Nat.toDigits 10 n := by
    intro member
    have digit := Nat.isDigit_of_mem_toDigits (by decide) (by decide) member
    exact absurd digit (by decide)
  have texts := congrArg (fun id => id.text.toList) same
  simp only [numbered, String.toList_append, Nat.toString_eq_ofList_toDigits, String.toList_ofList,
    List.append_assoc] at texts
  obtain ⟨names, digits⟩ := split_at_last_mark '#' _ _ _ _ (unmarked number) (unmarked count) texts
  refine ⟨String.toList_injective names, ?_⟩
  have counts := congrArg (Nat.ofDigitChars 10 · 0) digits
  simpa only [Nat.ofDigitChars_ten_toDigits] using counts

-- The id may have been given out when the last number was the given one.
def Issued (last : Nat) (id : ProgramId) : Prop := ∃ name number, id = numbered name number ∧ number ≤ last

theorem Issued.mono {last later : Nat} {id : ProgramId} (issued : Issued last id) (grown : last ≤ later) :
    Issued later id := by
  obtain ⟨name, number, rfl, bound⟩ := issued
  exact ⟨name, number, rfl, Nat.le_trans bound grown⟩

theorem Issued.next {last : Nat} {id : ProgramId} (issued : Issued last id) (name : String) :
    id ≠ numbered name (last + 1) := by
  obtain ⟨other, number, rfl, bound⟩ := issued
  intro same
  have := ((numbered_inj other name number (last + 1)).mp same).2
  omega

end ProgramId

namespace Engine

theorem write_table_programs (material : MaterialHandle) (table : ValueTable) (engine : Engine) :
    (engine.writeTable material table).programs = engine.programs ∧
      (engine.writeTable material table).registered = engine.registered := by
  induction table generalizing engine with
  | nil => exact ⟨rfl, rfl⟩
  | cons entry rest ih => exact ih (engine.write material entry.name entry.current)

end Engine

namespace Studio

variable {P : Type}

theorem equip_programs (scene : SceneId) (material : MaterialHandle) (index : Nat) (plan : Blueprint)
    (engine : Engine) : (equip scene material index plan engine).programs = engine.programs ∧
      (equip scene material index plan engine).registered = engine.registered := by
  have programs := engine.write_table_programs material (firstValues plan)
  simp only [equip_engine]
  cases plan.counter with
  | none => exact programs
  | some name => exact programs

structure Erected (name : String) (scene : SceneId) (options : Options) (plan : Blueprint) (shader : LiveShader)
    (before after : Studio Engine P) : Prop where
  program : shader.program = .numbered name (before.lastProgram + 1)
  material : shader.material = ⟨before.engine.lastHandle + 2⟩
  uniforms : shader.uniforms = plan.uniforms
  values : shader.values = firstValues plan ++ (plan.counter.map counterValue).toList
  shaders : after.shaders = before.shaders ++ [shader]
  lastProgram : after.lastProgram = before.lastProgram + 1
  lastHandle : after.engine.lastHandle = before.engine.lastHandle + 2
  registered : after.engine.registered = before.engine.registered ++ [shader.program]
  programs : after.engine.programs = before.engine.programs ++
    [⟨⟨before.engine.lastHandle + 1⟩, shader.program, plan.vertex, plan.fragment⟩]
  materials : after.engine.materials = before.engine.materials ++
    [⟨shader.material, name, scene, ⟨before.engine.lastHandle + 1⟩, ⟨plan.uniforms, options.material⟩⟩]
  log : after.engine.log.toList = before.engine.log.toList ++
    (firstValues plan).map fun entry => ⟨shader.material, entry.name, entry.current⟩
  hooks : after.engine.hooks = before.engine.hooks ++ (plan.counter.map fun time =>
    (scene, FrameHook.counter before.shaders.length shader.material time 0)).toList

-- Programs and materials are numbered, and a hook is either a shader's counter or a host's.
structure Orderly (studio : Studio Engine P) : Prop where
  apart : (studio.wirings.map (·.material)).Nodup
  issued : ∀ wiring ∈ studio.wirings, wiring.material.number ≤ studio.engine.lastHandle
  recorded : ∀ material ∈ studio.engine.materials, material.handle.number ≤ studio.engine.lastHandle
  registered : ∀ id ∈ studio.engine.registered, id.Issued studio.lastProgram
  owned : ∀ entry ∈ studio.engine.installed, Owned studio.wirings entry.2

theorem build_of_undrawn {E : Type} [EngineHost E] [PanelHost P] (name : String) (scene : SceneId)
    (options : Options) (studio : Studio E P) (error : BuildError)
    (undrawn : Blueprint.ofOptions options = .error error) :
    ∃ notices, build name scene options studio = (.error error, { studio with notices := notices }) := by
  obtain ⟨notices, noted⟩ := uniform_list_frame name options studio
  refine ⟨notices, ?_⟩
  rw [build, noted]
  dsimp only
  rw [undrawn]

theorem build_of_drawn [PanelHost P] (name : String) (scene : SceneId) (options : Options)
    (studio : Studio Engine P) (orderly : Orderly studio) (plan : Blueprint)
    (drawn : Blueprint.ofOptions options = .ok plan) :
    ∃ shader after, build name scene options studio = (.ok studio.shaders.length, after) ∧
      Erected name scene options plan shader studio after := by
  let program : Program :=
    ⟨⟨studio.engine.lastHandle + 1⟩, .numbered name (studio.lastProgram + 1), plan.vertex, plan.fragment⟩
  let registered : Engine := { studio.engine with
    lastHandle := studio.engine.lastHandle + 1
    registered := studio.engine.registered ++ [program.id]
    programs := studio.engine.programs ++ [program] }
  have registers : EngineHost.registerProgram program.id plan.vertex plan.fragment studio.engine =
      (.ok program.handle, registered) :=
    studio.engine.register_unknown program.id plan.vertex plan.fragment
      fun known => (orderly.registered _ known).next name rfl
  have creates := registered.create_for_known name scene program ⟨plan.uniforms, options.material⟩
    (List.mem_append_right _ List.mem_cons_self)
  have ending := build_end name scene options studio
  generalize built : build name scene options studio = result at ending
  obtain ⟨answer, after⟩ := result
  cases ending with
  | noBlueprint error notices undrawn =>
      rw [drawn] at undrawn
      cases undrawn
  | noProgram plan' cause engine notices drawn' refused =>
      obtain rfl := Except.ok.inj (drawn.symm.trans drawn')
      cases registers.symm.trans refused
  | noMaterial plan' handle cause between engine notices drawn' granted refused =>
      obtain rfl := Except.ok.inj (drawn.symm.trans drawn')
      obtain ⟨answer, rfl⟩ := Prod.mk.inj (registers.symm.trans granted)
      obtain rfl := Except.ok.inj answer
      cases creates.symm.trans refused
  | built plan' handle material between engine notices drawn' granted created =>
      obtain rfl := Except.ok.inj (drawn.symm.trans drawn')
      obtain ⟨answer, rfl⟩ := Prod.mk.inj (registers.symm.trans granted)
      obtain rfl := Except.ok.inj answer
      obtain ⟨answer, rfl⟩ := Prod.mk.inj (creates.symm.trans created)
      obtain rfl := Except.ok.inj answer
      obtain ⟨_, _, lastHandle, hooks⟩ := equip_frame scene ⟨studio.engine.lastHandle + 2⟩ studio.shaders.length plan
        { registered with
          lastHandle := registered.lastHandle + 1
          materials := registered.materials ++
            [⟨⟨registered.lastHandle + 1⟩, name, scene, program.handle, ⟨plan.uniforms, options.material⟩⟩] }
      obtain ⟨log, materials⟩ := equip_log scene ⟨studio.engine.lastHandle + 2⟩ studio.shaders.length plan _
      obtain ⟨programs, ids⟩ := equip_programs scene ⟨studio.engine.lastHandle + 2⟩ studio.shaders.length plan _
      exact ⟨_, _, rfl, rfl, rfl, rfl, rfl, rfl, rfl, lastHandle, ids, programs, materials, log, hooks⟩

section

variable {name : String} {scene : SceneId} {options : Options} {plan : Blueprint} {shader : LiveShader}
  {before after : Studio Engine P}

theorem Erected.heads (erected : Erected name scene options plan shader before after) :
    shader.wiring.heads = plan.heads := by
  rw [LiveShader.wiring, erected.values]
  exact blueprint_values_heads plan

theorem Erected.wirings (erected : Erected name scene options plan shader before after) :
    after.wirings = before.wirings ++ [shader.wiring] := by
  rw [Studio.wirings, erected.shaders, List.map_append, List.map_singleton]
  rfl

theorem Erected.newest (erected : Erected name scene options plan shader before after) :
    after.wirings[before.shaders.length]? = some shader.wiring := by
  rw [erected.wirings, List.getElem?_append_right (by simp [Studio.wirings])]
  simp [Studio.wirings]

theorem Erected.installed (erected : Erected name scene options plan shader before after) :
    after.engine.installed = before.engine.installed ++ (plan.counter.map fun time =>
      (scene, FrameHook.counter before.shaders.length shader.material time 0)).toList := by
  rw [Engine.installed, erected.hooks, List.map_append]
  cases plan.counter <;> rfl

theorem Erected.orderly (erected : Erected name scene options plan shader before after) (orderly : Orderly before) :
    Orderly after := by
  have unused : ∀ wiring ∈ before.wirings, wiring.material ≠ shader.material := by
    intro wiring member same
    have bound := orderly.issued wiring member
    rw [same, erected.material] at bound
    dsimp only at bound
    omega
  refine ⟨?_, ?_, ?_, ?_, ?_⟩
  · rw [erected.wirings, List.map_append, List.nodup_append]
    refine ⟨orderly.apart, by simp, ?_⟩
    intro material old other new
    obtain ⟨wiring, member, rfl⟩ := List.mem_map.mp old
    obtain rfl : other = shader.material := List.mem_singleton.mp new
    exact unused wiring member
  · intro wiring member
    rw [erected.wirings] at member
    rw [erected.lastHandle]
    rcases List.mem_append.mp member with old | new
    · exact Nat.le_add_right_of_le (orderly.issued wiring old)
    · rw [List.mem_singleton.mp new]
      exact Nat.le_of_eq (congrArg MaterialHandle.number erected.material)
  · intro material member
    rw [erected.materials] at member
    rw [erected.lastHandle]
    rcases List.mem_append.mp member with old | new
    · exact Nat.le_add_right_of_le (orderly.recorded material old)
    · rw [List.mem_singleton.mp new]
      exact Nat.le_of_eq (congrArg MaterialHandle.number erected.material)
  · intro id member
    rw [erected.registered] at member
    rw [erected.lastProgram]
    rcases List.mem_append.mp member with old | new
    · exact (orderly.registered id old).mono (Nat.le_succ _)
    · rw [List.mem_singleton.mp new]
      exact ⟨name, before.lastProgram + 1, erected.program, Nat.le_refl _⟩
  · intro entry member
    rw [erected.installed] at member
    rcases List.mem_append.mp member with old | new
    · rw [erected.wirings]
      exact (orderly.owned entry old).grow shader.wiring
    · obtain ⟨time, counter, rfl⟩ := Option.map_eq_some_iff.mp (Option.mem_toList.mp new)
      have head : (time, .frameCounter) ∈ shader.wiring.heads := by
        rw [erected.heads]
        exact plan.counter_head time counter
      exact .inl ⟨before.shaders.length, shader.wiring, time, rfl, erected.newest, head⟩

theorem Routine.orderly (routine : Routine before after) (orderly : Orderly before) : Orderly after where
  apart := by
    rw [routine.wirings]
    exact orderly.apart
  issued := by
    rw [routine.wirings, routine.lastHandle]
    exact orderly.issued
  recorded := by
    rw [routine.materials, routine.lastHandle]
    exact orderly.recorded
  registered := by
    rw [routine.registered, routine.lastProgram]
    exact orderly.registered
  owned := by
    rw [routine.wirings, routine.installed]
    exact orderly.owned

end

theorem step_erects [EditHost P] (studio : Studio Engine P) (orderly : Orderly studio) (next : Act) :
    Routine studio (step studio next) ∨ ∃ name scene options plan shader, Blueprint.ofOptions options = .ok plan ∧
      Erected name scene options plan shader studio (step studio next) := by
  cases next with
  | build name scene options =>
      cases drawn : Blueprint.ofOptions options with
      | error error =>
          obtain ⟨notices, failed⟩ := build_of_undrawn name scene options studio error drawn
          rw [step, failed]
          exact .inl (.aside rfl rfl rfl)
      | ok plan =>
          obtain ⟨shader, after, built, erected⟩ := build_of_drawn name scene options studio orderly plan drawn
          rw [step, built]
          exact .inr ⟨name, scene, options, plan, shader, drawn, erected⟩
  | edit control setting => exact .inl (edit_while_routine true control setting studio)
  | frame scene => exact .inl (frame_routine scene studio orderly.owned)
  | dispose all shader => exact .inl (dispose_routine true all shader studio)

/-- What happens to a studio between two builds: an act, or something that its host does by itself. A host
puts a panel in place, numbers a program, registers one under a number that was given out, makes a
material, drives a slot from a hook or writes into it. -/
inductive Use (P : Type) where
  | act (next : Act)
  | panel (panel : P)
  | number (name : String)
  | register (name : String) (number : Nat) (vertex fragment : String)
  | material (name : String) (scene : SceneId) (program : ProgramHandle) (descriptor : MaterialDescriptor)
  | hook (scene : SceneId) (deeds : Nat → List HookDeed)
  | target (call : TargetCall)

-- A studio with the ids that its host has asked for.
structure Hosted (P : Type) where
  studio : Studio Engine P
  numbered : List ProgramId

namespace Hosted

def start (panel : P) (lastProgram : Nat) : Hosted P := ⟨blank panel lastProgram, []⟩

def onEngine (f : Engine → Engine) (hosted : Hosted P) : Hosted P :=
  { hosted with studio := { hosted.studio with engine := f hosted.studio.engine } }

def use [EditHost P] (hosted : Hosted P) : Use P → Hosted P
  | .act next => { hosted with studio := step hosted.studio next }
  | .panel panel => { hosted with studio := { hosted.studio with panel := panel } }
  | .number name =>
      let (id, studio) := hosted.studio.freshProgram name
      ⟨studio, id :: hosted.numbered⟩
  | .register name number vertex fragment =>
      if number ≤ hosted.studio.lastProgram then
        hosted.onEngine fun engine => (engine.registerProgram (.numbered name number) vertex fragment).2
      else hosted
  | .material name scene program descriptor =>
      hosted.onEngine fun engine => (engine.createMaterial name scene program descriptor).2
  | .hook scene deeds => hosted.onEngine (·.onBeforeRender scene (.script deeds 0))
  | .target call => hosted.onEngine call.run

def useAll [EditHost P] (uses : List (Use P)) (hosted : Hosted P) : Hosted P := uses.foldl use hosted

def ids (hosted : Hosted P) : List ProgramId := hosted.numbered ++ hosted.studio.wirings.map (·.program)

structure Accounted (hosted : Hosted P) : Prop where
  orderly : Orderly hosted.studio
  issued : ∀ id ∈ hosted.ids, id.Issued hosted.studio.lastProgram
  distinct : hosted.ids.Nodup

theorem start_accounted (panel : P) (lastProgram : Nat) : Accounted (start panel lastProgram) where
  orderly := ⟨List.nodup_nil, fun _ member => (by cases member), fun _ member => (by cases member),
    fun _ member => (by cases member), fun _ member => (by cases member)⟩
  issued _ member := by cases member
  distinct := List.nodup_nil

theorem Accounted.on_engine {hosted : Hosted P} (accounted : Accounted hosted) (f : Engine → Engine)
    (orderly : Orderly (hosted.onEngine f).studio) : Accounted (hosted.onEngine f) :=
  ⟨orderly, accounted.issued, accounted.distinct⟩

theorem register_orderly (studio : Studio Engine P) (orderly : Orderly studio) (id : ProgramId)
    (issued : id.Issued studio.lastProgram) (vertex fragment : String) :
    Orderly { studio with engine := (studio.engine.registerProgram id vertex fragment).2 } := by
  simp only [Engine.registerProgram]
  by_cases known : id ∈ studio.engine.registered
  · rw [if_pos known]
    exact orderly
  rw [if_neg known]
  refine ⟨orderly.apart, ?_, ?_, ?_, orderly.owned⟩
  · exact fun wiring member => Nat.le_succ_of_le (orderly.issued wiring member)
  · exact fun material member => Nat.le_succ_of_le (orderly.recorded material member)
  · intro id member
    rcases List.mem_append.mp member with old | new
    · exact orderly.registered id old
    · rw [List.mem_singleton.mp new]
      exact issued

theorem material_orderly (studio : Studio Engine P) (orderly : Orderly studio) (name : String) (scene : SceneId)
    (program : ProgramHandle) (descriptor : MaterialDescriptor) :
    Orderly { studio with engine := (studio.engine.createMaterial name scene program descriptor).2 } := by
  simp only [Engine.createMaterial]
  by_cases unknown : (studio.engine.program? program).isNone = true
  · rw [if_pos unknown]
    exact orderly
  rw [if_neg unknown]
  refine ⟨orderly.apart, ?_, ?_, orderly.registered, orderly.owned⟩
  · exact fun wiring member => Nat.le_succ_of_le (orderly.issued wiring member)
  · intro material member
    rcases List.mem_append.mp member with old | new
    · exact Nat.le_succ_of_le (orderly.recorded material old)
    · obtain rfl := List.mem_singleton.mp new
      exact Nat.le_refl _

theorem hook_orderly (studio : Studio Engine P) (orderly : Orderly studio) (scene : SceneId)
    (deeds : Nat → List HookDeed) :
    Orderly { studio with engine := studio.engine.onBeforeRender scene (.script deeds 0) } := by
  refine ⟨orderly.apart, orderly.issued, orderly.recorded, orderly.registered, ?_⟩
  intro entry member
  rw [Engine.installed, Engine.onBeforeRender, List.map_append] at member
  rcases List.mem_append.mp member with old | new
  · exact orderly.owned entry old
  · rw [List.mem_singleton.mp new]
    exact .inr ⟨deeds, 0, rfl⟩

-- One more id: its number has not been given out before.
theorem Accounted.next {hosted : Hosted P} (accounted : Accounted hosted) (name : String) :
    ∀ id ∈ hosted.ids, id ≠ .numbered name (hosted.studio.lastProgram + 1) :=
  fun id member => (accounted.issued id member).next name

theorem number_accounted (hosted : Hosted P) (accounted : Accounted hosted) (name : String) :
    Accounted ⟨(hosted.studio.freshProgram name).2, (hosted.studio.freshProgram name).1 :: hosted.numbered⟩ where
  orderly := ⟨accounted.orderly.apart, accounted.orderly.issued, accounted.orderly.recorded,
    fun id member => (accounted.orderly.registered id member).mono (Nat.le_succ _), accounted.orderly.owned⟩
  issued id member := by
    rcases List.mem_cons.mp member with rfl | old
    · exact ⟨name, hosted.studio.lastProgram + 1, rfl, Nat.le_refl _⟩
    · exact (accounted.issued id old).mono (Nat.le_succ _)
  distinct := List.nodup_cons.mpr ⟨fun member => accounted.next name _ member rfl, accounted.distinct⟩

theorem act_accounted [EditHost P] (hosted : Hosted P) (accounted : Accounted hosted) (next : Act) :
    Accounted { hosted with studio := step hosted.studio next } := by
  rcases step_erects hosted.studio accounted.orderly next with
    routine | ⟨name, scene, options, plan, shader, _, erected⟩
  · refine ⟨routine.orderly accounted.orderly, ?_, ?_⟩
    · rw [ids, routine.wirings, routine.lastProgram]
      exact accounted.issued
    · rw [ids, routine.wirings]
      exact accounted.distinct
  · have grown : ids { hosted with studio := step hosted.studio next } = hosted.ids ++ [shader.program] := by
      rw [ids, ids, erected.wirings, List.map_append, List.append_assoc]
      rfl
    refine ⟨erected.orderly accounted.orderly, ?_, ?_⟩
    · intro id member
      rw [grown] at member
      rw [erected.lastProgram]
      rcases List.mem_append.mp member with old | new
      · exact (accounted.issued id old).mono (Nat.le_succ _)
      · rw [List.mem_singleton.mp new]
        exact ⟨name, hosted.studio.lastProgram + 1, erected.program, Nat.le_refl _⟩
    · rw [grown, List.nodup_append]
      refine ⟨accounted.distinct, List.nodup_singleton _, ?_⟩
      intro id member other new
      rw [List.mem_singleton.mp new, erected.program]
      exact accounted.next name id member

theorem use_accounted [EditHost P] (hosted : Hosted P) (accounted : Accounted hosted) (next : Use P) :
    Accounted (hosted.use next) := by
  have orderly := accounted.orderly
  cases next with
  | act next => exact act_accounted hosted accounted next
  | panel panel =>
      exact ⟨⟨orderly.apart, orderly.issued, orderly.recorded, orderly.registered, orderly.owned⟩, accounted.issued,
        accounted.distinct⟩
  | number name => exact number_accounted hosted accounted name
  | register name number vertex fragment =>
      rw [use]
      by_cases given : number ≤ hosted.studio.lastProgram
      · rw [if_pos given]
        exact accounted.on_engine _ (register_orderly hosted.studio orderly _ ⟨name, number, rfl, given⟩ _ _)
      · rw [if_neg given]
        exact accounted
  | material name scene program descriptor =>
      exact accounted.on_engine (fun engine => (engine.createMaterial name scene program descriptor).2)
        (material_orderly hosted.studio orderly name scene program descriptor)
  | hook scene deeds => exact accounted.on_engine _ (hook_orderly hosted.studio orderly scene deeds)
  | target call =>
      refine accounted.on_engine call.run ?_
      rw [Hosted.onEngine, Engine.call_write]
      exact ⟨orderly.apart, orderly.issued, orderly.recorded, orderly.registered, orderly.owned⟩

theorem uses_accounted [EditHost P] (uses : List (Use P)) (hosted : Hosted P) (accounted : Accounted hosted) :
    Accounted (hosted.useAll uses) := by
  induction uses generalizing hosted with
  | nil => exact accounted
  | cons next rest ih => exact ih (hosted.use next) (use_accounted hosted accounted next)

end Hosted

end Studio

end ShaderKnobs
