import Mathlib.Data.List.Dedup
import ShaderKnobs.Proofs.Engine.Slots
import ShaderKnobs.Proofs.Studio.Wiring

set_option autoImplicit false

namespace ShaderKnobs

def HookDeed.write? : HookDeed → Option SlotWrite
  | .call made => some made.slotWrite
  | .edit _ _ => none

def FrameHook.writes : FrameHook → List SlotWrite
  | .counter _ material name frame => [⟨material, name, .float (Number.Binary.ofInt Number.single frame.toNat)⟩]
  | .script deeds turn => (deeds turn).filterMap HookDeed.write?

namespace Engine

def writeAll (writes : List SlotWrite) (engine : Engine) : Engine :=
  writes.foldl (fun engine w => engine.write w.material w.name w.value) engine

def frameWrites (scene : SceneId) (hooks : List (SceneId × FrameHook)) : List SlotWrite :=
  hooks.flatMap fun entry => if entry.1 = scene then entry.2.writes else []

theorem write_all_append (first second : List SlotWrite) (engine : Engine) :
    engine.writeAll (first ++ second) = (engine.writeAll first).writeAll second := List.foldl_append

structure Wrote (before : Engine) (writes : List SlotWrite) (after : Engine) : Prop where
  lastHandle : after.lastHandle = before.lastHandle
  registered : after.registered = before.registered
  programs : after.programs = before.programs
  materials : after.materials = before.materials
  log : after.log.toList = before.log.toList ++ writes
  ledger : Ledger before → Ledger after

theorem write_all_wrote (writes : List SlotWrite) (engine : Engine) : Wrote engine writes (engine.writeAll writes) := by
  induction writes generalizing engine with
  | nil => exact ⟨rfl, rfl, rfl, rfl, (List.append_nil _).symm, id⟩
  | cons w rest ih =>
      have later := ih (engine.write w.material w.name w.value)
      refine ⟨later.lastHandle, later.registered, later.programs, later.materials, ?_, ?_⟩
      · have log := later.log
        rw [log_write, List.append_assoc] at log
        exact log
      · exact fun ledger => later.ledger (ledger_write w.material w.name w.value engine ledger)

end Engine

namespace Studio

variable {E P : Type}

theorem follow_taken [EngineHost E] (event : ChangeEvent) (index : Nat) (studio : Studio E P) :
    (studio.follow false event index).engine = studio.engine := by
  unfold follow
  cases studio.shaders[index]? with
  | none => rfl
  | some shader =>
      dsimp only
      cases shader.reaction event <;> rfl

theorem hear_taken [EngineHost E] [PanelHost P] (event : ChangeEvent) (listener : Listener) (studio : Studio E P) :
    (studio.hear false event listener).engine = studio.engine := by
  cases listener with
  | follow index => exact follow_taken event index studio
  | observe tag target =>
      cases target with
      | none => rfl
      | some target => exact (dispose_frame false target.2 target.1 _).1

theorem edit_taken [EngineHost E] [EditHost P] (control : ControlId) (setting : Setting) (studio : Studio E P) :
    (editWhile false control setting studio).2.engine = studio.engine := by
  unfold editWhile
  cases EditHost.edit control setting studio.panel with
  | error e => rfl
  | ok edited =>
      obtain ⟨panel, event, listeners⟩ := edited
      suffices heard : ∀ between : Studio E P, (listeners.foldl (hear false event) between).engine = between.engine from
        heard { studio with panel := panel }
      induction listeners with
      | nil => exact fun _ => rfl
      | cons listener rest ih => exact fun between => (ih _).trans (hear_taken event listener between)

theorem edit_on_record_taken [EngineHost E] [EditHost P] (control : ControlId) (setting : Setting)
    (studio : Studio E P) : (editOnRecord control setting studio).engine = studio.engine := by
  rw [← edit_taken control setting studio, editOnRecord]
  rcases editWhile false control setting studio with ⟨error | done, after⟩ <;> rfl

variable [EditHost P]

theorem run_deed_engine (deed : HookDeed) (studio : Studio Engine P) :
    (studio.runDeed deed).engine = studio.engine.writeAll deed.write?.toList := by
  cases deed with
  | call call => exact Engine.call_write call studio.engine
  | edit control setting => exact edit_on_record_taken control setting studio

theorem run_deeds_engine (deeds : List HookDeed) (studio : Studio Engine P) :
    (deeds.foldl runDeed studio).engine = studio.engine.writeAll (deeds.filterMap HookDeed.write?) := by
  induction deeds generalizing studio with
  | nil => rfl
  | cons deed rest ih =>
      have split : (deed :: rest).filterMap HookDeed.write? = deed.write?.toList ++ rest.filterMap HookDeed.write? := by
        rw [List.filterMap_cons]
        cases deed.write? <;> rfl
      rw [split, Engine.write_all_append, ← run_deed_engine deed studio]
      exact ih (studio.runDeed deed)

theorem run_hook_engine (hook : FrameHook) (studio : Studio Engine P) :
    (runHook hook studio).2.engine = studio.engine.writeAll hook.writes := by
  cases hook with
  | counter index material name frame => rfl
  | script deeds turn => exact run_deeds_engine (deeds turn) studio

theorem run_hooks_engine (scene : SceneId) (hooks : List (SceneId × FrameHook)) (studio : Studio Engine P) :
    (runHooks scene hooks studio).2.engine = studio.engine.writeAll (Engine.frameWrites scene hooks) := by
  induction hooks generalizing studio with
  | nil => rfl
  | cons entry rest ih =>
      obtain ⟨home, hook⟩ := entry
      simp only [runHooks]
      by_cases here : home = scene
      · have writes : Engine.frameWrites scene ((home, hook) :: rest) =
            hook.writes ++ Engine.frameWrites scene rest := by
          simp only [Engine.frameWrites, List.flatMap_cons, if_pos here]
        rw [if_pos here, writes, Engine.write_all_append, ← run_hook_engine hook studio]
        exact ih (runHook hook studio).2
      · have writes : Engine.frameWrites scene ((home, hook) :: rest) = Engine.frameWrites scene rest := by
          simp only [Engine.frameWrites, List.flatMap_cons, if_neg here, List.nil_append]
        rw [if_neg here, writes]
        exact ih studio

theorem frame_wrote (scene : SceneId) (studio : Studio Engine P) :
    studio.engine.Wrote (Engine.frameWrites scene studio.engine.hooks) (renderFrame scene studio).engine := by
  have ran := run_hooks_engine scene studio.engine.hooks studio
  have wrote := Engine.write_all_wrote (Engine.frameWrites scene studio.engine.hooks) studio.engine
  rw [← ran] at wrote
  exact ⟨wrote.lastHandle, wrote.registered, wrote.programs, wrote.materials, wrote.log, wrote.ledger⟩

end Studio

namespace Engine

inductive Request where
  | registerProgram (id : ProgramId) (vertex fragment : String)
  | createMaterial (name : String) (scene : SceneId) (program : ProgramHandle) (descriptor : MaterialDescriptor)
  | target (call : TargetCall)
  | onBeforeRender (scene : SceneId) (hook : FrameHook)
  | renderFrame (scene : SceneId)

/-- An engine in its studio with what its requests have come to: the programs and materials they were
granted, under the handles they were given, and the slots they wrote, each in order. -/
structure Account (P : Type) where
  studio : Studio Engine P
  programs : List Program
  materials : List Material
  writes : List SlotWrite

namespace Account

variable {P : Type}

def start (studio : Studio Engine P) : Account P := ⟨{ studio with engine := Engine.empty }, [], [], []⟩

def engine (account : Account P) : Engine := account.studio.engine

def serve [EditHost P] (account : Account P) : Request → Account P
  | .registerProgram id vertex fragment =>
      let (answer, engine) := account.engine.registerProgram id vertex fragment
      let granted := answer.toOption.map fun handle => Program.mk handle id vertex fragment
      { account with
        studio := { account.studio with engine := engine }
        programs := account.programs ++ granted.toList }
  | .createMaterial name scene program descriptor =>
      let (answer, engine) := account.engine.createMaterial name scene program descriptor
      let granted := answer.toOption.map fun handle => Material.mk handle name scene program descriptor
      { account with
        studio := { account.studio with engine := engine }
        materials := account.materials ++ granted.toList }
  | .target call =>
      { account with
        studio := { account.studio with engine := call.run account.engine }
        writes := account.writes ++ [call.slotWrite] }
  | .onBeforeRender scene hook =>
      { account with studio := { account.studio with engine := account.engine.onBeforeRender scene hook } }
  | .renderFrame scene =>
      { account with
        studio := account.studio.renderFrame scene
        writes := account.writes ++ frameWrites scene account.engine.hooks }

def serveAll [EditHost P] (requests : List Request) (account : Account P) : Account P := requests.foldl serve account

-- The numbers that were given out, to programs and to materials.
def issued (account : Account P) : List Nat :=
  account.programs.map (·.handle.number) ++ account.materials.map (·.handle.number)

-- The engine holds what the account says, and handles, ids and materials are in order.
structure Balanced (account : Account P) : Prop where
  registered : account.engine.registered = account.programs.map (·.id)
  programs : account.engine.programs = account.programs
  materials : account.engine.materials = account.materials
  log : account.engine.log.toList = account.writes
  ledger : account.engine.Ledger
  distinct : account.issued.Nodup
  bounded : ∀ number ∈ account.issued, number ≤ account.engine.lastHandle
  ids : (account.programs.map (·.id)).Nodup
  housed : ∀ material ∈ account.materials, ∃ program ∈ account.programs, program.handle = material.program

theorem start_balanced (studio : Studio Engine P) : (start studio).Balanced where
  registered := rfl
  programs := rfl
  materials := rfl
  log := rfl
  ledger := ledger_empty
  distinct := List.nodup_nil
  bounded _ member := by cases member
  ids := List.nodup_nil
  housed _ member := by cases member

variable {account : Account P}

theorem Balanced.fresh (balanced : account.Balanced) : account.engine.lastHandle + 1 ∉ account.issued :=
  fun member => Nat.not_succ_le_self _ (balanced.bounded _ member)

theorem Balanced.one_more (balanced : account.Balanced) (numbers : List Nat)
    (more : numbers.Perm ((account.engine.lastHandle + 1) :: account.issued)) :
    numbers.Nodup ∧ ∀ number ∈ numbers, number ≤ account.engine.lastHandle + 1 := by
  refine ⟨more.nodup_iff.mpr (List.nodup_cons.mpr ⟨balanced.fresh, balanced.distinct⟩), fun number member => ?_⟩
  rcases List.mem_cons.mp (more.mem_iff.mp member) with newest | old
  · exact Nat.le_of_eq newest
  · exact Nat.le_succ_of_le (balanced.bounded number old)

theorem Balanced.wrote (balanced : account.Balanced) (writes : List SlotWrite) (studio : Studio Engine P)
    (wrote : account.engine.Wrote writes studio.engine) :
    Balanced { account with studio := studio, writes := account.writes ++ writes } where
  registered := wrote.registered.trans balanced.registered
  programs := wrote.programs.trans balanced.programs
  materials := wrote.materials.trans balanced.materials
  log := wrote.log.trans (congrArg (· ++ writes) balanced.log)
  ledger := wrote.ledger balanced.ledger
  distinct := balanced.distinct
  bounded number member := by
    change number ≤ studio.engine.lastHandle
    rw [wrote.lastHandle]
    exact balanced.bounded number member
  ids := balanced.ids
  housed := balanced.housed

theorem Balanced.granted (balanced : account.Balanced) [EditHost P] (id : ProgramId) (vertex fragment : String) :
    (account.serve (.registerProgram id vertex fragment)).Balanced := by
  by_cases known : id ∈ account.engine.registered
  · have same : account.serve (.registerProgram id vertex fragment) = account := by
      simp only [serve, register_known id vertex fragment account.engine known]
      simp [Except.toOption, engine]
    rw [same]
    exact balanced
  · simp only [serve, register_unknown id vertex fragment account.engine known]
    let program : Program := ⟨⟨account.engine.lastHandle + 1⟩, id, vertex, fragment⟩
    have numbers := balanced.one_more ((account.programs ++ [program]).map (·.handle.number) ++
      account.materials.map (·.handle.number)) (by simp [issued, program])
    have ids : account.engine.registered ++ [id] = (account.programs ++ [program]).map (·.id) := by
      rw [balanced.registered, List.map_append, List.map_singleton]
    refine ⟨ids, congrArg (· ++ _) balanced.programs, balanced.materials, balanced.log, balanced.ledger, numbers.1,
      numbers.2, ?_, ?_⟩
    · rw [balanced.registered] at known
      simp only [Except.toOption, Option.map_some, Option.toList_some, List.map_append, List.map_singleton]
      refine List.nodup_append.mpr ⟨balanced.ids, List.nodup_singleton _, fun other old newest last => ?_⟩
      rw [List.mem_singleton.mp last]
      exact fun same => known (same ▸ old)
    · intro material member
      obtain ⟨program, old, same⟩ := balanced.housed material member
      exact ⟨program, List.mem_append_left _ old, same⟩

theorem Balanced.created (balanced : account.Balanced) [EditHost P] (name : String) (scene : SceneId)
    (program : ProgramHandle) (descriptor : MaterialDescriptor) :
    (account.serve (.createMaterial name scene program descriptor)).Balanced := by
  by_cases known : ∃ owner ∈ account.engine.programs, owner.handle = program
  · obtain ⟨owner, member, rfl⟩ := known
    simp only [serve, create_for_known name scene owner descriptor account.engine member]
    let material : Material := ⟨⟨account.engine.lastHandle + 1⟩, name, scene, owner.handle, descriptor⟩
    have numbers := balanced.one_more (account.programs.map (·.handle.number) ++
      (account.materials ++ [material]).map (·.handle.number)) (by
        rw [List.map_append, ← List.append_assoc]
        exact List.perm_append_singleton _ _)
    refine ⟨balanced.registered, balanced.programs, congrArg (· ++ _) balanced.materials, balanced.log, balanced.ledger,
      numbers.1, numbers.2, balanced.ids, ?_⟩
    intro material member'
    rcases List.mem_append.mp member' with old | new
    · exact balanced.housed material old
    · obtain rfl := List.mem_singleton.mp new
      rw [balanced.programs] at member
      exact ⟨owner, member, rfl⟩
  · have unknown : ∀ other ∈ account.engine.programs, other.handle ≠ program :=
      fun other member same => known ⟨other, member, same⟩
    have same : account.serve (.createMaterial name scene program descriptor) = account := by
      simp only [serve, create_for_unknown name scene program descriptor account.engine unknown]
      simp [Except.toOption, engine]
    rw [same]
    exact balanced

theorem serve_balanced [EditHost P] (request : Request) (balanced : account.Balanced) :
    (account.serve request).Balanced := by
  cases request with
  | registerProgram id vertex fragment => exact balanced.granted id vertex fragment
  | createMaterial name scene program descriptor => exact balanced.created name scene program descriptor
  | target call =>
      have wrote := write_all_wrote [call.slotWrite] account.engine
      rw [show account.engine.writeAll [call.slotWrite] = call.run account.engine from
        (call_write call account.engine).symm] at wrote
      exact balanced.wrote _ _ wrote
  | onBeforeRender scene hook =>
      exact ⟨balanced.registered, balanced.programs, balanced.materials, balanced.log, balanced.ledger, balanced.distinct,
        balanced.bounded, balanced.ids, balanced.housed⟩
  | renderFrame scene => exact balanced.wrote _ _ (Studio.frame_wrote scene account.studio)

theorem serve_all_balanced [EditHost P] (requests : List Request) (balanced : account.Balanced) :
    (serveAll requests account).Balanced := by
  induction requests generalizing account with
  | nil => exact balanced
  | cons request rest ih => exact ih (serve_balanced request balanced)

end Account

theorem perm_by_keys {α β : Type} [DecidableEq β] (key : α → β) (entries : List α) (keys : List β) (distinct : keys.Nodup) :
    (keys.flatMap fun k => entries.filter (key · = k)).Perm (entries.filter (key · ∈ keys)) := by
  induction keys with
  | nil => simp
  | cons k rest ih =>
      obtain ⟨absent, distinct⟩ := List.nodup_cons.mp distinct
      have first : (entries.filter (key · ∈ k :: rest)).filter (key · = k) = entries.filter (key · = k) := by
        rw [List.filter_filter]
        refine List.filter_congr fun entry _ => ?_
        by_cases here : key entry = k <;> simp [here]
      have others : (entries.filter (key · ∈ k :: rest)).filter (fun entry => !decide (key entry = k)) =
          entries.filter (key · ∈ rest) := by
        rw [List.filter_filter]
        refine List.filter_congr fun entry _ => ?_
        by_cases here : key entry = k
        · simp [here, absent]
        · simp [here]
      have split := List.filter_append_perm (key · = k) (entries.filter (key · ∈ k :: rest))
      rw [first, others] at split
      exact ((ih distinct).append_left _).trans split

theorem perm_by_all_keys {α β : Type} [DecidableEq β] (key : α → β) (entries : List α) (keys : List β)
    (distinct : keys.Nodup) (all : ∀ entry ∈ entries, key entry ∈ keys) :
    (keys.flatMap fun k => entries.filter (key · = k)).Perm entries := by
  have everything : entries.filter (key · ∈ keys) = entries :=
    List.filter_eq_self.mpr fun entry member => decide_eq_true (all entry member)
  have whole := perm_by_keys key entries keys distinct
  rwa [everything] at whole

def slotOf (w : SlotWrite) : MaterialHandle × String := (w.material, w.name)

-- The writes into one slot, as the engine answers with them.
def record (engine : Engine) (slot : MaterialHandle × String) : List SlotWrite :=
  (engine.writesTo slot.1 slot.2).map (SlotWrite.mk slot.1 slot.2)

theorem record_filter (engine : Engine) (slot : MaterialHandle × String) :
    engine.record slot = engine.log.toList.filter (slotOf · = slot) := by
  have same : (fun w : SlotWrite => decide (w.material = slot.1 ∧ w.name = slot.2)) = fun w => decide (slotOf w = slot) := by
    funext w
    exact decide_eq_decide.mpr (Prod.ext_iff (x := slotOf w) (y := slot)).symm
  rw [record, writesTo, List.map_map, same]
  refine (List.map_congr_left fun w member => ?_).trans (List.map_id _)
  obtain rfl := of_decide_eq_true (List.mem_filter.mp member).2
  rfl

theorem records_perm (engine : Engine) :
    ((engine.log.toList.map slotOf).dedup.flatMap engine.record).Perm engine.log.toList := by
  rw [show engine.record = fun slot => engine.log.toList.filter (slotOf · = slot) from funext engine.record_filter]
  refine perm_by_all_keys slotOf engine.log.toList _ (List.nodup_dedup _) fun w member => ?_
  exact List.mem_dedup.mpr (List.mem_map_of_mem member)

theorem record_sublist (engine : Engine) (slot : MaterialHandle × String) :
    (engine.record slot).Sublist engine.log.toList := by
  rw [record_filter]
  exact List.filter_sublist

-- A request fails exactly if something is wrong with it, and then it leaves the engine as it was.
def FailsOn {α : Type} (wrong : Prop) (engine : Engine) (outcome : Except EngineError α × Engine) : Prop :=
  (wrong ↔ ∃ error, outcome.1 = .error error) ∧ (wrong → outcome.2 = engine)

namespace Account

variable {P : Type} {account : Account P}

theorem Balanced.program_iff (balanced : account.Balanced) (program : Program) :
    account.engine.program? program.handle = some program ↔ program ∈ account.programs := by
  rw [← balanced.programs]
  refine ⟨List.mem_of_find?_eq_some, find_key Program.handle account.engine.programs program ?_⟩
  rw [balanced.programs]
  have numbers := (List.nodup_append.mp balanced.distinct).1
  exact List.Nodup.of_map ProgramHandle.number (by simpa [Function.comp_def] using numbers)

theorem Balanced.material_iff (balanced : account.Balanced) (material : Material) :
    account.engine.material? material.handle = some material ↔ material ∈ account.materials := by
  rw [← balanced.materials]
  refine ⟨List.mem_of_find?_eq_some, find_key Material.handle account.engine.materials material ?_⟩
  rw [balanced.materials]
  have numbers := (List.nodup_append.mp balanced.distinct).2.1
  exact List.Nodup.of_map MaterialHandle.number (by simpa [Function.comp_def] using numbers)

theorem Balanced.owner (balanced : account.Balanced) (handle : MaterialHandle) (material : Material)
    (found : account.engine.material? handle = some material) :
    ∃ program ∈ account.programs, account.engine.program? material.program = some program := by
  have member := List.mem_of_find?_eq_some found
  rw [balanced.materials] at member
  obtain ⟨program, granted, same⟩ := balanced.housed material member
  exact ⟨program, granted, same ▸ (balanced.program_iff program).mpr granted⟩

theorem Balanced.register_fails (balanced : account.Balanced) (id : ProgramId) (vertex fragment : String) :
    FailsOn (id ∈ account.programs.map (·.id)) account.engine (account.engine.registerProgram id vertex fragment) := by
  rw [← balanced.registered]
  by_cases known : id ∈ account.engine.registered
  · rw [register_known id vertex fragment account.engine known]
    exact ⟨⟨fun _ => ⟨_, rfl⟩, fun _ => known⟩, fun _ => rfl⟩
  · rw [register_unknown id vertex fragment account.engine known]
    exact ⟨⟨fun taken => absurd taken known, fun ⟨_, failed⟩ => by cases failed⟩, fun taken => absurd taken known⟩

theorem Balanced.create_fails (balanced : account.Balanced) (name : String) (scene : SceneId) (program : ProgramHandle)
    (descriptor : MaterialDescriptor) :
    FailsOn (program ∉ account.programs.map (·.handle)) account.engine
      (account.engine.createMaterial name scene program descriptor) := by
  rw [← balanced.programs]
  by_cases known : program ∈ account.engine.programs.map (·.handle)
  · obtain ⟨owner, member, rfl⟩ := List.mem_map.mp known
    rw [create_for_known name scene owner descriptor account.engine member]
    exact ⟨⟨fun unknown => absurd known unknown, fun ⟨_, failed⟩ => by cases failed⟩, fun unknown => absurd known unknown⟩
  · have unknown : ∀ other ∈ account.engine.programs, other.handle ≠ program :=
      fun other member same => known (List.mem_map.mpr ⟨other, member, same⟩)
    rw [create_for_unknown name scene program descriptor account.engine unknown]
    exact ⟨⟨fun _ => ⟨_, rfl⟩, fun _ => known⟩, fun _ => rfl⟩

theorem Balanced.count (balanced : account.Balanced) :
    account.engine.programs.length = (account.programs.map (·.id)).dedup.length := by
  rw [List.dedup_eq_self.mpr balanced.ids, List.length_map, balanced.programs]

theorem Balanced.slot (balanced : account.Balanced) (material : MaterialHandle) (name : String) :
    account.engine.uniform? material name = (account.engine.writesTo material name).getLast? ∧
      (account.engine.uniform? material name = none ↔ account.engine.writesTo material name = []) := by
  rw [balanced.ledger material name]
  exact ⟨rfl, List.getLast?_eq_none_iff⟩

end Account

theorem histories_stay_balanced {P : Type} [EditHost P] (requests : List Request) (studio : Studio Engine P) :
    let account := Account.serveAll requests (.start studio)
    let engine := account.engine
    account.issued.Nodup ∧
      (engine.programs.length = (account.programs.map (·.id)).dedup.length ∧ (engine.programs.map (·.id)).Nodup ∧
        engine.registered = engine.programs.map (·.id)) ∧
      (∀ program, engine.program? program.handle = some program ↔ program ∈ account.programs) ∧
      (∀ material, engine.material? material.handle = some material ↔ material ∈ account.materials) ∧
      (∀ handle material, engine.material? handle = some material →
        ∃ program ∈ account.programs, engine.program? material.program = some program) ∧
      (∀ material name, engine.uniform? material name = (engine.writesTo material name).getLast? ∧
        (engine.uniform? material name = none ↔ engine.writesTo material name = [])) ∧
      engine.log.toList = account.writes ∧
      ((account.writes.map slotOf).dedup.flatMap engine.record).Perm account.writes ∧
      (∀ slot, (engine.record slot).Sublist account.writes) ∧
      (∀ id vertex fragment,
        FailsOn (id ∈ account.programs.map (·.id)) engine (engine.registerProgram id vertex fragment)) ∧
      ∀ name scene program descriptor,
        FailsOn (program ∉ account.programs.map (·.handle)) engine
          (engine.createMaterial name scene program descriptor) := by
  intro account engine
  have balanced : account.Balanced := Account.serve_all_balanced requests (Account.start_balanced studio)
  have ids : (engine.programs.map (·.id)).Nodup := by
    rw [balanced.programs]
    exact balanced.ids
  have agree : engine.registered = engine.programs.map (·.id) := by
    rw [balanced.registered, balanced.programs]
  have whole := engine.records_perm
  rw [balanced.log] at whole
  have inOrder (slot : MaterialHandle × String) := engine.record_sublist slot
  rw [balanced.log] at inOrder
  exact ⟨balanced.distinct, ⟨balanced.count, ids, agree⟩, balanced.program_iff, balanced.material_iff, balanced.owner,
    balanced.slot, balanced.log, whole, inOrder, balanced.register_fails, balanced.create_fails⟩

end Engine

end ShaderKnobs
