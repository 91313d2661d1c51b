import ShaderKnobs.Proofs.Studio.FrameCount

set_option autoImplicit false

namespace ShaderKnobs

def Owned (wirings : List Wiring) (hook : FrameHook) : Prop :=
  Ticks wirings hook ∨ ∃ deeds turn, hook = .script deeds turn

theorem Owned.grow {wirings : List Wiring} {hook : FrameHook} (owned : Owned wirings hook) (more : Wiring) :
    Owned (wirings ++ [more]) hook := owned.imp_left fun ticks => ticks.grow more

theorem Owned.at_first {wirings : List Wiring} {hook : FrameHook} (owned : Owned wirings hook.atFirst) :
    Owned wirings hook := by
  cases hook with
  | counter index material name frame =>
      rcases owned with ticks | ⟨_, _, scripted⟩
      · exact .inl ticks
      · cases scripted
  | script deeds turn => exact .inr ⟨deeds, turn, rfl⟩

-- One of the calls of a host's hook makes the write.
def FrameHook.Drives (write : SlotWrite) : FrameHook → Prop
  | .counter _ _ _ _ => False
  | .script deeds _ => ∃ turn call, .call call ∈ deeds turn ∧ call.slotWrite = write

-- Where a write can come from: a shader writes its own uniforms, a host's hook what it drives.
inductive Authored (wirings : List Wiring) (hooks : List (SceneId × FrameHook)) (write : SlotWrite) : Prop where
  | shader (wiring : Wiring) (own : wiring ∈ wirings) (material : write.material = wiring.material)
      (named : write.name ∈ wiring.heads.map (·.1))
  | host (scene : SceneId) (hook : FrameHook) (installed : (scene, hook) ∈ hooks) (drives : hook.Drives write)

theorem Authored.mono {wirings more : List Wiring} {hooks others : List (SceneId × FrameHook)} {write : SlotWrite}
    (authored : Authored wirings hooks write) (grown : wirings ⊆ more) (kept : hooks ⊆ others) :
    Authored more others write := by
  cases authored with
  | shader wiring own material named => exact .shader wiring (grown own) material named
  | host scene hook installed drives => exact .host scene hook (kept installed) drives

namespace Studio

variable {P : Type}

structure Routine (before after : Studio Engine P) : Prop where
  wirings : after.wirings = before.wirings
  lastProgram : after.lastProgram = before.lastProgram
  registered : after.engine.registered = before.engine.registered
  programs : after.engine.programs = before.engine.programs
  materials : after.engine.materials = before.engine.materials
  lastHandle : after.engine.lastHandle = before.engine.lastHandle
  installed : after.engine.installed = before.engine.installed
  written : ∃ more, after.engine.log.toList = before.engine.log.toList ++ more ∧
    ∀ write ∈ more, Authored before.wirings before.engine.installed write

theorem Routine.aside {before after : Studio Engine P} (wirings : after.wirings = before.wirings)
    (lastProgram : after.lastProgram = before.lastProgram) (engine : after.engine = before.engine) :
    Routine before after := by
  refine ⟨wirings, lastProgram, ?_, ?_, ?_, ?_, ?_, [], ?_, by simp⟩ <;> simp only [engine, List.append_nil]

theorem Routine.still (studio : Studio Engine P) : Routine studio studio := .aside rfl rfl rfl

theorem Routine.trans {first second third : Studio Engine P} (early : Routine first second)
    (late : Routine second third) : Routine first third where
  wirings := late.wirings.trans early.wirings
  lastProgram := late.lastProgram.trans early.lastProgram
  registered := late.registered.trans early.registered
  programs := late.programs.trans early.programs
  materials := late.materials.trans early.materials
  lastHandle := late.lastHandle.trans early.lastHandle
  installed := late.installed.trans early.installed
  written := by
    obtain ⟨one, first, sources⟩ := early.written
    obtain ⟨two, second, sources'⟩ := late.written
    rw [early.wirings, early.installed] at sources'
    refine ⟨one ++ two, by rw [second, first, List.append_assoc], fun write member => ?_⟩
    rcases List.mem_append.mp member with sooner | later
    · exact sources write sooner
    · exact sources' write later

theorem assign_routine (studio : Studio Engine P) (index : Nat) (wiring : Wiring)
    (wired : studio.wirings[index]? = some wiring) (key : String) (named : key ∈ wiring.heads.map (·.1))
    (value : SlotValue) (engine : Engine) (notices : List Notice)
    (wrote : engine = studio.engine ∨ engine = studio.engine.write wiring.material key value) :
    Routine studio { studio.updateShader index (·.assign key value) with engine := engine, notices := notices } := by
  have wirings := wirings_update index (·.assign key value) studio (LiveShader.wiring_assign key value)
  rcases wrote with rfl | rfl
  · exact .aside wirings rfl rfl
  · refine ⟨wirings, rfl, rfl, rfl, rfl, rfl, rfl, [⟨wiring.material, key, value⟩], Engine.log_write .., ?_⟩
    intro write member
    rw [List.mem_singleton.mp member]
    exact .shader wiring (List.mem_of_getElem? wired) rfl named

theorem follow_routine (engineFree : Bool) (event : ChangeEvent) (index : Nat) (studio : Studio Engine P) :
    Routine studio (studio.follow engineFree event index) := by
  unfold follow
  cases live : studio.shaders[index]? with
  | none => exact .still studio
  | some shader =>
      have wired : studio.wirings[index]? = some shader.wiring := by
        rw [wirings, List.getElem?_map, live, Option.map_some]
      simp only [LiveShader.reaction]
      cases found : ValueTable.get? event.key shader.values with
      | none => exact .still studio
      | some entry =>
          have named : event.key ∈ shader.wiring.heads.map (·.1) :=
            List.mem_map_of_mem (ValueTable.get_head event.key shader.values entry found)
          cases source : entry.source with
          | frameCounter =>
              simp only [source]
              exact .still studio
          | knob knob =>
              simp only [source]
              cases knob.slotValue? event.setting with
              | none => exact .aside rfl rfl rfl
              | some value =>
                  have taken := assign_routine studio index shader.wiring wired event.key named value
                  cases engineFree with
                  | true => exact taken _ studio.notices (.inr (Engine.apply_write ..))
                  | false => exact taken studio.engine _ (.inl rfl)

theorem dispose_routine [PanelHost P] (panelFree all : Bool) (index : Nat) (studio : Studio Engine P) :
    Routine studio (studio.dispose panelFree all index) := by
  obtain ⟨engine, lastProgram, _⟩ := dispose_frame panelFree all index studio
  exact .aside (wirings_dispose panelFree all index studio) lastProgram engine

theorem hear_routine [PanelHost P] (engineFree : Bool) (event : ChangeEvent) (listener : Listener)
    (studio : Studio Engine P) : Routine studio (studio.hear engineFree event listener) := by
  cases listener with
  | follow index => exact follow_routine engineFree event index studio
  | observe tag target =>
      have recorded : Routine studio (studio.record (.change tag event)) := .aside rfl rfl rfl
      cases target with
      | none => exact recorded
      | some target => exact recorded.trans (dispose_routine false target.2 target.1 _)

theorem edit_while_routine [EditHost P] (engineFree : Bool) (control : ControlId) (setting : Setting)
    (studio : Studio Engine P) : Routine studio (editWhile engineFree control setting studio).2 := by
  simp only [editWhile]
  cases EditHost.edit control setting studio.panel with
  | error e => exact .still studio
  | ok edited =>
      obtain ⟨panel, event, listeners⟩ := edited
      suffices heard : ∀ between : Studio Engine P, Routine studio between →
          Routine studio (listeners.foldl (hear engineFree event) between) from
        heard { studio with panel := panel } (.aside rfl rfl rfl)
      induction listeners with
      | nil => exact fun _ routine => routine
      | cons listener rest ih =>
          intro between routine
          exact ih _ (routine.trans (hear_routine engineFree event listener between))

theorem edit_on_record_routine [EditHost P] (control : ControlId) (setting : Setting) (studio : Studio Engine P) :
    Routine studio (editOnRecord control setting studio) := by
  have edited := edit_while_routine false control setting studio
  rw [editOnRecord]
  revert edited
  rcases editWhile false control setting studio with ⟨error | done, after⟩
  · exact fun edited => edited.trans (.aside rfl rfl rfl)
  · exact fun edited => edited

theorem call_routine (scene : SceneId) (hook : FrameHook) (call : TargetCall) (studio : Studio Engine P)
    (installed : (scene, hook) ∈ studio.engine.installed) (drives : hook.Drives call.slotWrite) :
    Routine studio (studio.callTarget call) := by
  have same : studio.callTarget call = { studio with
      engine := studio.engine.write call.slotWrite.material call.slotWrite.name call.slotWrite.value } :=
    congrArg (fun engine => { studio with engine := engine }) (Engine.call_write call studio.engine)
  rw [same]
  refine ⟨rfl, rfl, rfl, rfl, rfl, rfl, rfl, [call.slotWrite], Engine.log_write .., fun write member => ?_⟩
  rw [List.mem_singleton.mp member]
  exact .host scene hook installed drives

-- Each deed of a host's hook leaves the hook installed for the next.
theorem run_deeds_routine [EditHost P] (scene : SceneId) (hook : FrameHook) (deeds : List HookDeed)
    (studio : Studio Engine P) (installed : (scene, hook) ∈ studio.engine.installed)
    (drives : ∀ call, .call call ∈ deeds → hook.Drives call.slotWrite) :
    Routine studio (deeds.foldl runDeed studio) := by
  induction deeds generalizing studio with
  | nil => exact .still studio
  | cons deed rest ih =>
      have now : Routine studio (studio.runDeed deed) := by
        cases deed with
        | call call => exact call_routine scene hook call studio installed (drives call List.mem_cons_self)
        | edit control setting => exact edit_on_record_routine control setting studio
      rw [← now.installed] at installed
      exact now.trans (ih _ installed fun call member => drives call (List.mem_cons_of_mem _ member))

theorem run_hook_routine [EditHost P] (scene : SceneId) (hook : FrameHook) (studio : Studio Engine P)
    (owned : Owned studio.wirings hook) (installed : (scene, hook.atFirst) ∈ studio.engine.installed) :
    Routine studio (runHook hook studio).2 ∧ (runHook hook studio).1.atFirst = hook.atFirst := by
  cases hook with
  | counter index material name frame =>
      rcases owned with ⟨owner, wiring, uniform, shape, wired, head⟩ | ⟨_, _, shape⟩
      · obtain ⟨rfl, rfl, rfl, _⟩ := FrameHook.counter.inj shape
        have named := List.mem_map_of_mem (f := Prod.fst) head
        exact ⟨assign_routine studio index wiring wired name named _ _ studio.notices (.inr rfl), rfl⟩
      · cases shape
  | script deeds turn =>
      exact ⟨run_deeds_routine scene _ (deeds turn) studio installed fun call member => ⟨turn, call, member, rfl⟩, rfl⟩

-- The hooks that run are installed and stay so; the engine has their counts back when all have run.
theorem run_hooks_routine [EditHost P] (scene : SceneId) (hooks : List (SceneId × FrameHook))
    (studio : Studio Engine P) (owned : ∀ entry ∈ hooks, Owned studio.wirings entry.2)
    (installed : ∀ entry ∈ hooks, (entry.1, entry.2.atFirst) ∈ studio.engine.installed) :
    Routine studio (runHooks scene hooks studio).2 ∧
      (runHooks scene hooks studio).1.map (fun entry => (entry.1, entry.2.atFirst)) =
        hooks.map fun entry => (entry.1, entry.2.atFirst) := by
  induction hooks generalizing studio with
  | nil => exact ⟨.still studio, rfl⟩
  | cons entry rest ih =>
      obtain ⟨home, hook⟩ := entry
      have owned' : ∀ entry ∈ rest, Owned studio.wirings entry.2 :=
        fun entry member => owned entry (List.mem_cons_of_mem _ member)
      have installed' : ∀ entry ∈ rest, (entry.1, entry.2.atFirst) ∈ studio.engine.installed :=
        fun entry member => installed entry (List.mem_cons_of_mem _ member)
      simp only [runHooks]
      by_cases here : home = scene
      · rw [if_pos here]
        obtain ⟨now, first⟩ := run_hook_routine home hook studio (owned _ List.mem_cons_self)
          (installed _ List.mem_cons_self)
        rw [← now.wirings] at owned'
        rw [← now.installed] at installed'
        obtain ⟨later, same⟩ := ih (runHook hook studio).2 owned' installed'
        refine ⟨now.trans later, ?_⟩
        rw [List.map_cons, List.map_cons, same, first]
      · rw [if_neg here]
        obtain ⟨later, same⟩ := ih studio owned' installed'
        refine ⟨later, ?_⟩
        rw [List.map_cons, List.map_cons, same]

theorem frame_routine [EditHost P] (scene : SceneId) (studio : Studio Engine P)
    (owned : ∀ entry ∈ studio.engine.installed, Owned studio.wirings entry.2) :
    Routine studio (renderFrame scene studio) := by
  have installed : ∀ entry ∈ studio.engine.hooks, (entry.1, entry.2.atFirst) ∈ studio.engine.installed :=
    fun entry member => List.mem_map_of_mem member
  obtain ⟨ran, same⟩ := run_hooks_routine scene studio.engine.hooks studio
    (fun entry member => (owned _ (installed entry member)).at_first) installed
  exact ⟨ran.wirings, ran.lastProgram, ran.registered, ran.programs, ran.materials, ran.lastHandle, same, ran.written⟩

end Studio

end ShaderKnobs
