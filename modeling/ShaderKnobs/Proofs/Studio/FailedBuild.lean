import ShaderKnobs.Studio.Refusals
import ShaderKnobs.Proofs.Studio.Blueprint
import ShaderKnobs.Proofs.Studio.Building

set_option autoImplicit false

namespace ShaderKnobs

-- An engine that a refused program, or a refused material, leaves as it was.
def KeepsOnRefusedProgram (E : Type) [EngineHost E] : Prop :=
  ∀ (id : ProgramId) (vertex fragment : String) (engine after : E) (cause : EngineError),
    EngineHost.registerProgram id vertex fragment engine = (.error cause, after) → after = engine

def KeepsOnRefusedMaterial (E : Type) [EngineHost E] : Prop :=
  ∀ (name : String) (scene : SceneId) (program : ProgramHandle) (descriptor : MaterialDescriptor)
    (engine after : E) (cause : EngineError),
    EngineHost.createMaterial name scene program descriptor engine = (.error cause, after) → after = engine

class RecordingEngine (E : Type) extends FrameHost E where
  record : E → Engine
  refused_program : KeepsOnRefusedProgram E
  refused_material : KeepsOnRefusedMaterial E
  granted_program : ∀ (id : ProgramId) (vertex fragment : String) (engine after : E) (program : ProgramHandle),
    registerProgram id vertex fragment engine = (.ok program, after) →
      Engine.registerProgram id vertex fragment (record engine) = (.ok program, record after)

theorem Engine.refused_program : KeepsOnRefusedProgram Engine := by
  intro id vertex fragment engine after cause refused
  change Engine.registerProgram id vertex fragment engine = _ at refused
  unfold Engine.registerProgram at refused
  split at refused
  · exact (Prod.mk.inj refused).2.symm
  · cases (Prod.mk.inj refused).1

theorem Engine.refused_material : KeepsOnRefusedMaterial Engine := by
  intro name scene program descriptor engine after cause refused
  change Engine.createMaterial name scene program descriptor engine = _ at refused
  simp only [Engine.createMaterial] at refused
  split at refused
  · exact (Prod.mk.inj refused).2.symm
  · cases (Prod.mk.inj refused).1

instance : RecordingEngine Engine where
  record engine := engine
  refused_program := Engine.refused_program
  refused_material := Engine.refused_material
  granted_program _ _ _ _ _ _ granted := granted

theorem refuse_for_cases {α : Type} (reason : Option String)
    (request : Engine → Except EngineError α × Engine) (wary after : WaryEngine) (answer : Except EngineError α)
    (answered : wary.refuseFor reason request = (answer, after)) :
    (after = wary ∧ ∃ text, answer = .error (.backend text)) ∨
      (request wary.engine = (answer, after.engine) ∧ after.refusals = wary.refusals) := by
  cases reason with
  | some text =>
      obtain ⟨rfl, rfl⟩ := Prod.mk.inj answered
      exact .inl ⟨rfl, text, rfl⟩
  | none =>
      obtain ⟨rfl, rfl⟩ := Prod.mk.inj answered
      exact .inr ⟨rfl, rfl⟩

theorem wary_kept {wary after : WaryEngine} (engine : after.engine = wary.engine)
    (refusals : after.refusals = wary.refusals) : after = wary := by
  cases wary
  cases after
  cases engine
  cases refusals
  rfl

instance : RecordingEngine WaryEngine where
  record wary := wary.engine
  refused_program id vertex fragment wary after cause refused := by
    rcases refuse_for_cases _ _ wary after _ refused with ⟨kept, _⟩ | ⟨inside, refusals⟩
    · exact kept
    · exact wary_kept (Engine.refused_program id vertex fragment _ _ cause inside) refusals
  refused_material name scene program descriptor wary after cause refused := by
    rcases refuse_for_cases _ _ wary after _ refused with ⟨kept, _⟩ | ⟨inside, refusals⟩
    · exact kept
    · exact wary_kept (Engine.refused_material name scene program descriptor _ _ cause inside) refusals
  granted_program id vertex fragment wary after program granted := by
    rcases refuse_for_cases _ _ wary after _ granted with ⟨_, text, refused⟩ | ⟨inside, _⟩
    · cases refused
    · exact inside

namespace Studio

-- The engine was asked for one program, refused it, and was asked for nothing else.
def ProgramRefused {E P : Type} [EngineHost E] (name : String) (plan : Blueprint) (cause : EngineError)
    (studio after : Studio E P) : Prop :=
  EngineHost.registerProgram (.numbered name (studio.lastProgram + 1)) plan.vertex plan.fragment studio.engine =
      (.error cause, after.engine) ∧
    (KeepsOnRefusedProgram E → after.engine = studio.engine)

def MaterialRefused {E P : Type} [EngineHost E] (name : String) (scene : SceneId) (options : Options)
    (plan : Blueprint) (cause : EngineError) (studio after : Studio E P) : Prop :=
  ∃ program between,
    EngineHost.registerProgram (.numbered name (studio.lastProgram + 1)) plan.vertex plan.fragment studio.engine =
        (.ok program, between) ∧
      EngineHost.createMaterial name scene program ⟨plan.uniforms, options.material⟩ between =
        (.error cause, after.engine) ∧
      (KeepsOnRefusedMaterial E → after.engine = between)

def OneMoreProgram (id : ProgramId) (plan : Blueprint) (before after : Engine) : Prop :=
  after = { before with
    lastHandle := before.lastHandle + 1
    registered := before.registered ++ [id]
    programs := before.programs ++ [⟨⟨before.lastHandle + 1⟩, id, plan.vertex, plan.fragment⟩] }

theorem one_more_program (id : ProgramId) (plan : Blueprint) (before after : Engine) (program : ProgramHandle)
    (granted : Engine.registerProgram id plan.vertex plan.fragment before = (.ok program, after)) :
    OneMoreProgram id plan before after := by
  simp only [Engine.registerProgram] at granted
  split at granted
  · cases (Prod.mk.inj granted).1
  · exact (Prod.mk.inj granted).2.symm

structure SameRecord (before after : Engine) : Prop where
  log : after.log = before.log
  slots : after.slots = before.slots
  hooks : after.hooks = before.hooks
  materials : after.materials = before.materials
  frames : after.frames = before.frames

theorem one_more_program_same (id : ProgramId) (plan : Blueprint) (before after : Engine)
    (grown : OneMoreProgram id plan before after) : SameRecord before after := by
  rw [show after = _ from grown]
  exact ⟨rfl, rfl, rfl, rfl, rfl⟩

theorem failed_build_frame {E P : Type} [EngineHost E] [PanelHost P] (name : String) (scene : SceneId)
    (options : Options) (error : BuildError) (studio after : Studio E P)
    (failed : build name scene options studio = (.error error, after)) :
    after.panel = studio.panel ∧ after.shaders = studio.shaders ∧ after.records = studio.records ∧
      (error.fromEngine = false → after.engine = studio.engine ∧ after.lastProgram = studio.lastProgram) ∧
      (error.fromEngine = true →
        after.lastProgram = studio.lastProgram + 1 ∧
        ∃ plan cause, Blueprint.ofOptions options = .ok plan ∧ error = .engine name cause ∧
          (ProgramRefused name plan cause studio after ∨
            MaterialRefused name scene options plan cause studio after)) := by
  have ending := build_end name scene options studio
  rw [failed] at ending
  cases ending with
  | noBlueprint _ notices drawn =>
      refine ⟨rfl, rfl, rfl, fun _ => ⟨rfl, rfl⟩, fun late => ?_⟩
      rw [blueprint_error options error drawn] at late
      cases late
  | noProgram plan cause engine notices drawn registered =>
      refine ⟨rfl, rfl, rfl, fun early => (by cases early), fun _ => ⟨rfl, plan, cause, drawn, rfl, .inl ?_⟩⟩
      exact ⟨registered, fun keeps => keeps _ _ _ _ _ cause registered⟩
  | noMaterial plan program cause between engine notices drawn registered created =>
      refine ⟨rfl, rfl, rfl, fun early => (by cases early), fun _ => ⟨rfl, plan, cause, drawn, rfl, .inr ?_⟩⟩
      exact ⟨program, between, registered, created, fun keeps => keeps _ _ _ _ _ _ cause created⟩

theorem failed_build_record {E P : Type} [RecordingEngine E] [PanelHost P] (name : String) (scene : SceneId)
    (options : Options) (error : BuildError) (studio after : Studio E P)
    (failed : build name scene options studio = (.error error, after)) :
    (error.fromEngine = false ∧ after.engine = studio.engine) ∨
      ∃ plan cause, Blueprint.ofOptions options = .ok plan ∧ error = .engine name cause ∧
        ((ProgramRefused name plan cause studio after ∧ after.engine = studio.engine) ∨
          (MaterialRefused name scene options plan cause studio after ∧
            OneMoreProgram (.numbered name (studio.lastProgram + 1)) plan
              (RecordingEngine.record studio.engine) (RecordingEngine.record after.engine))) := by
  obtain ⟨_, _, _, early, late⟩ := failed_build_frame name scene options error studio after failed
  cases source : error.fromEngine with
  | false => exact .inl ⟨rfl, (early source).1⟩
  | true =>
      obtain ⟨_, plan, cause, drawn, shape, ending⟩ := late source
      refine .inr ⟨plan, cause, drawn, shape, ?_⟩
      rcases ending with refused | ⟨program, between, registered, created, keeps⟩
      · exact .inl ⟨refused, refused.2 RecordingEngine.refused_program⟩
      · have granted := RecordingEngine.granted_program _ _ _ _ _ program registered
        rw [← keeps RecordingEngine.refused_material] at granted
        exact .inr ⟨⟨program, between, registered, created, keeps⟩, one_more_program _ plan _ _ program granted⟩

theorem failed_build_leaves_no_trace (name : String) (scene : SceneId) (options : Options) (error : BuildError) :
    (∀ {E P : Type} [EngineHost E] [PanelHost P] (studio after : Studio E P),
      build name scene options studio = (.error error, after) →
        after.panel = studio.panel ∧ after.shaders = studio.shaders ∧ after.records = studio.records ∧
        (error.fromEngine = false → after.engine = studio.engine ∧ after.lastProgram = studio.lastProgram) ∧
        (error.fromEngine = true →
          after.lastProgram = studio.lastProgram + 1 ∧
          ∃ plan cause, Blueprint.ofOptions options = .ok plan ∧ error = .engine name cause ∧
            (ProgramRefused name plan cause studio after ∨
              MaterialRefused name scene options plan cause studio after))) ∧
    (∀ {E P : Type} [RecordingEngine E] [PanelHost P] (studio after : Studio E P),
      build name scene options studio = (.error error, after) →
        let before := RecordingEngine.record studio.engine
        let left := RecordingEngine.record after.engine
        left.log = before.log ∧ left.slots = before.slots ∧ left.hooks = before.hooks ∧
        left.materials = before.materials ∧ left.frames = before.frames ∧
        (error.fromEngine = true →
          ∃ plan cause, Blueprint.ofOptions options = .ok plan ∧ error = .engine name cause ∧
            ((ProgramRefused name plan cause studio after ∧ after.engine = studio.engine) ∨
              (MaterialRefused name scene options plan cause studio after ∧
                OneMoreProgram (.numbered name (studio.lastProgram + 1)) plan before left)))) := by
  constructor
  · intro E P _ _ studio after failed
    exact failed_build_frame name scene options error studio after failed
  · intro E P _ _ studio after failed before left
    rcases failed_build_record name scene options error studio after failed with
      ⟨early, kept⟩ | ⟨plan, cause, drawn, late, ending⟩
    · have same : left = before := congrArg RecordingEngine.record kept
      rw [same, early]
      exact ⟨rfl, rfl, rfl, rfl, rfl, fun late => (by cases late)⟩
    · have same : SameRecord before left := by
        rcases ending with ⟨_, kept⟩ | ⟨_, grown⟩
        · have same : left = before := congrArg RecordingEngine.record kept
          rw [same]
          exact ⟨rfl, rfl, rfl, rfl, rfl⟩
        · exact one_more_program_same _ plan before left grown
      exact ⟨same.log, same.slots, same.hooks, same.materials, same.frames,
        fun _ => ⟨plan, cause, drawn, late, ending⟩⟩

def lostDevice : Studio WaryEngine Panel :=
  .start ⟨Engine.empty, { Refusals.none with material := some "device lost" }⟩ Panel.empty

theorem lost_device_leaves_no_trace :
    ∃ after, build "tint" ⟨1⟩ gainOptions lostDevice = (.error (.engine "tint" (.backend "device lost")), after) ∧
      after.panel = Panel.empty ∧ after.engine.engine.log = #[] ∧ after.engine.engine.materials = [] ∧
      after.lastProgram = 1 := by
  have failed : (build "tint" ⟨1⟩ gainOptions lostDevice).1 = .error (.engine "tint" (.backend "device lost")) := by
    decide +kernel
  obtain ⟨after, whole⟩ : ∃ after, build "tint" ⟨1⟩ gainOptions lostDevice =
      (.error (.engine "tint" (.backend "device lost")), after) := ⟨_, answer_pair _ _ failed⟩
  obtain ⟨anyEngine, recording⟩ :=
    failed_build_leaves_no_trace "tint" ⟨1⟩ gainOptions (.engine "tint" (.backend "device lost"))
  obtain ⟨panel, _, _, _, late⟩ := anyEngine lostDevice after whole
  obtain ⟨log, _, _, materials, _, _⟩ := recording (E := WaryEngine) (P := Panel) lostDevice after whole
  exact ⟨after, whole, panel, log, materials, (late rfl).1⟩

end Studio

end ShaderKnobs
