import ShaderKnobs.Proofs.Studio.Disposal

set_option autoImplicit false

namespace ShaderKnobs

inductive Exchange where
  | titled (title : String) (answer : Except PanelError SectionId)
  | bound (home : SectionId) (spec : ControlSpec) (answer : Except PanelError ControlId)
  | heard (control : ControlId) (listener : Listener) (answer : Except PanelError Unit)
  | torn (what : Teardown)

def Exchange.refused : Exchange → Bool
  | .titled _ (.error _) => true
  | .bound _ _ (.error _) => true
  | .heard _ _ (.error _) => true
  | _ => false

/-- A panel that keeps a transcript of all requests and otherwise is the panel inside. -/
structure Transcribed (P : Type) where
  panel : P
  exchanges : List Exchange

def Transcribed.ask {P α : Type} (note : Except PanelError α → Exchange) (request : P → Except PanelError α × P)
    (transcribed : Transcribed P) : Except PanelError α × Transcribed P :=
  let (answer, panel) := request transcribed.panel
  (answer, ⟨panel, transcribed.exchanges ++ [note answer]⟩)

instance {P : Type} [PanelHost P] : PanelHost (Transcribed P) where
  addSection title := Transcribed.ask (.titled title) (PanelHost.addSection title)
  addControl home spec := Transcribed.ask (.bound home spec) (PanelHost.addControl home spec)
  listen id listener := Transcribed.ask (.heard id listener) (PanelHost.listen id listener)
  disposeSection id transcribed :=
    ⟨PanelHost.disposeSection id transcribed.panel, transcribed.exchanges ++ [.torn (.part id)]⟩
  dispose transcribed := ⟨PanelHost.dispose transcribed.panel, transcribed.exchanges ++ [.torn .whole]⟩

def askAll {P α β : Type} (ask : α → P → β × P) : List α → P → List β × P
  | [], panel => ([], panel)
  | one :: rest, panel =>
      let (answer, after) := ask one panel
      let (answers, last) := askAll ask rest after
      (answer :: answers, last)

def granted (specs : List ControlSpec) (answers : List (Except PanelError ControlId)) : List (String × ControlId) :=
  (specs.zip answers).filterMap fun
    | (spec, .ok id) => some (spec.key, id)
    | (_, .error _) => none

def reports {α β : Type} (report : α → PanelError → Notice) (asked : List α) (answers : List (Except PanelError β)) :
    List Notice :=
  (asked.zip answers).filterMap fun
    | (one, .error cause) => some (report one cause)
    | (_, .ok _) => none

section

variable {P α β : Type}

theorem ask_all_length (ask : α → P → β × P) (asked : List α) (panel : P) :
    (askAll ask asked panel).1.length = asked.length := by
  induction asked generalizing panel with
  | nil => rfl
  | cons one rest ih =>
      simp only [askAll, List.length_cons]
      rw [ih]

theorem ask_all_transcribed (ask : α → P → Except PanelError β × P) (note : α → Except PanelError β → Exchange)
    (asked : List α) (transcribed : Transcribed P) :
    let plain := askAll ask asked transcribed.panel
    askAll (fun one => Transcribed.ask (note one) (ask one)) asked transcribed =
      (plain.1, ⟨plain.2, transcribed.exchanges ++ List.zipWith note asked plain.1⟩) := by
  induction asked generalizing transcribed with
  | nil => simp [askAll]
  | cons one rest ih =>
      simp only [askAll, Transcribed.ask, List.zipWith_cons_cons] at ih ⊢
      rw [ih, List.append_assoc]
      rfl

theorem reports_count (report : α → PanelError → Notice) (note : α → Except PanelError β → Exchange)
    (noted : ∀ one answer, (note one answer).refused = answer.toOption.isNone) (asked : List α)
    (answers : List (Except PanelError β)) :
    (reports report asked answers).length = (List.zipWith note asked answers).countP (·.refused) := by
  induction asked generalizing answers with
  | nil => simp [reports]
  | cons one rest ih =>
      cases answers with
      | nil => simp [reports]
      | cons answer later =>
          have more := ih later
          rw [List.zipWith_cons_cons, List.countP_cons, noted, ← more]
          cases answer with
          | error cause => rfl
          | ok done => rfl

end

structure Hearing (P : Type) where
  section_ : Option SectionId
  controls : List (String × ControlId)
  refusals : List Notice
  panel : P

def interview {P : Type} [PanelHost P] (name : String) (index : Nat) (specs : List ControlSpec) (panel : P) : Hearing P :=
  match PanelHost.addSection name panel with
  | (.error cause, after) => ⟨none, [], [.sectionRefused name cause], after⟩
  | (.ok home, after) =>
      let (answers, after) := askAll (PanelHost.addControl home) specs after
      let controls := granted specs answers
      let (heard, after) := askAll (fun control => PanelHost.listen control.2 (.follow index)) controls after
      ⟨some home, controls, reports (fun spec => .controlRefused name spec.key) specs answers ++
        reports (fun control => .listenerRefused name control.1) controls heard, after⟩

namespace Studio

variable {E P : Type}

theorem create_controls_granted [PanelHost P] (name : String) (home : SectionId) (specs : List ControlSpec)
    (made : List (String × ControlId)) (studio : Studio E P) :
    let answered := askAll (PanelHost.addControl home) specs studio.panel
    createControls name home specs made studio = (made ++ granted specs answered.1, { studio with
      panel := answered.2
      notices := studio.notices ++ reports (fun spec => .controlRefused name spec.key) specs answered.1 }) := by
  induction specs generalizing made studio with
  | nil => simp [createControls, askAll, granted, reports]
  | cons spec rest ih =>
      simp only [createControls, askAll]
      rcases PanelHost.addControl home spec studio.panel with ⟨error | id, panel⟩
      · dsimp only
        rw [ih]
        simp [granted, reports, notice]
      · dsimp only
        rw [ih]
        simp [granted, reports]

theorem attach_listeners_reports [PanelHost P] (name : String) (index : Nat) (controls : List (String × ControlId))
    (studio : Studio E P) :
    let answered := askAll (fun control => PanelHost.listen control.2 (.follow index)) controls studio.panel
    attachListeners name index controls studio = { studio with
      panel := answered.2
      notices := studio.notices ++ reports (fun control => .listenerRefused name control.1) controls answered.1 } := by
  induction controls generalizing studio with
  | nil => simp [attachListeners, askAll, reports]
  | cons control rest ih =>
      simp only [attachListeners, askAll]
      rcases PanelHost.listen control.2 (.follow index) studio.panel with ⟨error | done, panel⟩
      · dsimp only
        rw [ih]
        simp [reports, notice]
      · dsimp only
        rw [ih]
        simp [reports]

theorem assemble_interviewed [EngineHost E] [PanelHost P] (name : String) (scene : SceneId) (plan : Blueprint)
    (program : ProgramId) (material : MaterialHandle) (studio : Studio E P) :
    let hearing := interview name studio.shaders.length (plan.tunables.map (·.controlSpec)) studio.panel
    assemble name scene plan program material studio = (studio.shaders.length, { studio with
      engine := equip scene material studio.shaders.length plan studio.engine
      panel := hearing.panel
      notices := studio.notices ++ plan.tunables.flatMap (·.notices) ++ hearing.refusals
      shaders := studio.shaders ++
        [freshShader name plan program material (hearing.section_, hearing.controls)] }) := by
  simp only [assemble, notices_fold, createSection, interview]
  rcases PanelHost.addSection name studio.panel with ⟨error | home, panel⟩
  · simp only [attachListeners, notice, writeValues, installCounter, equip, freshShader]
    cases plan.counter <;> rfl
  · simp only [create_controls_granted, List.nil_append, attach_listeners_reports, writeValues, installCounter,
      equip, freshShader]
    cases plan.counter <;> simp only [List.append_assoc]

def ignoredList (name : String) (options : Options) : List Notice :=
  if options.uniforms.isSome then [.uniformListIgnored name] else []

theorem notice_uniform_list_eq (name : String) (options : Options) (studio : Studio E P) :
    noticeUniformList name options studio =
      { studio with notices := studio.notices ++ ignoredList name options } := by
  simp only [noticeUniformList, ignoredList]
  by_cases listed : options.uniforms.isSome = true
  · rw [if_pos listed, if_pos listed]
    rfl
  · rw [if_neg listed, if_neg listed, List.append_nil]

def requestMaterial [EngineHost E] (name : String) (scene : SceneId) (options : Options) (plan : Blueprint)
    (id : ProgramId) (engine : E) : Except BuildError MaterialHandle × E :=
  match EngineHost.registerProgram id plan.vertex plan.fragment engine with
  | (.error cause, engine) => (.error (.engine name cause), engine)
  | (.ok program, engine) =>
      match EngineHost.createMaterial name scene program ⟨plan.uniforms, options.material⟩ engine with
      | (.error cause, engine) => (.error (.engine name cause), engine)
      | (.ok material, engine) => (.ok material, engine)

theorem create_material_eq [EngineHost E] (name : String) (scene : SceneId) (options : Options) (plan : Blueprint)
    (studio : Studio E P) :
    let id : ProgramId := .numbered name (studio.lastProgram + 1)
    let requested := requestMaterial name scene options plan id studio.engine
    createMaterial name scene options plan studio = (requested.1.map fun material => (id, material),
      { studio with engine := requested.2, lastProgram := studio.lastProgram + 1 }) := by
  intro id
  simp only [createMaterial, freshProgram, requestMaterial, id]
  rcases EngineHost.registerProgram (.numbered name (studio.lastProgram + 1)) plan.vertex plan.fragment studio.engine
    with ⟨cause | program, between⟩
  · rfl
  · dsimp only
    rcases EngineHost.createMaterial name scene program ⟨plan.uniforms, options.material⟩ between with
      ⟨cause | material, engine⟩ <;> rfl

-- The engine settles a build before a panel is asked; whatever panel it is, the rest is up to the interview.
inductive Settled [EngineHost E] (name : String) (scene : SceneId) (options : Options) (studio : Studio E P) : Prop where
  | failed (error : BuildError) (engine : E) (lastProgram : Nat)
      (everywhere : ∀ (Q : Type) [PanelHost Q] (panel : Q), build name scene options (studio.withPanel panel) =
        (.error error, { studio.withPanel panel with
          engine := engine
          lastProgram := lastProgram
          notices := studio.notices ++ ignoredList name options }))
  | built (plan : Blueprint) (program : ProgramId) (material : MaterialHandle) (engine : E) (lastProgram : Nat)
      (drawn : Blueprint.ofOptions options = .ok plan)
      (everywhere : ∀ (Q : Type) [PanelHost Q] (panel : Q),
        let hearing := interview name studio.shaders.length (plan.tunables.map (·.controlSpec)) panel
        build name scene options (studio.withPanel panel) = (.ok studio.shaders.length, { studio.withPanel panel with
          engine := engine
          panel := hearing.panel
          lastProgram := lastProgram
          notices := studio.notices ++ ignoredList name options ++ plan.tunables.flatMap (·.notices) ++ hearing.refusals
          shaders := studio.shaders ++
            [freshShader name plan program material (hearing.section_, hearing.controls)] }))

theorem build_settled [EngineHost E] (name : String) (scene : SceneId) (options : Options) (studio : Studio E P) :
    Settled name scene options studio := by
  cases drawn : Blueprint.ofOptions options with
  | error error =>
      apply Settled.failed error studio.engine studio.lastProgram
      intro Q _ panel
      rw [build, notice_uniform_list_eq]
      dsimp only
      rw [drawn]
      rfl
  | ok plan =>
      rcases requested : requestMaterial name scene options plan (.numbered name (studio.lastProgram + 1))
        studio.engine with ⟨error | material, engine⟩
      · apply Settled.failed error engine (studio.lastProgram + 1)
        intro Q _ panel
        rw [build, notice_uniform_list_eq]
        simp only [drawn, create_material_eq, withPanel, requested, Except.map]
      · apply Settled.built plan (.numbered name (studio.lastProgram + 1)) material
          (equip scene material studio.shaders.length plan engine) (studio.lastProgram + 1) drawn
        intro Q _ panel
        rw [build, notice_uniform_list_eq]
        simp only [drawn, create_material_eq, withPanel, requested, Except.map, assemble_interviewed]

-- All of a shader that a panel has no part in.
def bare (shader : LiveShader) : LiveShader := { shader with section_ := none, controls := [] }

structure SameButPanel {Q : Type} (one : Studio E P) (two : Studio E Q) : Prop where
  engine : two.engine = one.engine
  lastProgram : two.lastProgram = one.lastProgram
  shaders : two.shaders.map bare = one.shaders.map bare
  records : two.records = one.records

end Studio

inductive Course (name : String) (index : Nat) (specs : List ControlSpec) :
    List Exchange → Option SectionId → List (String × ControlId) → List Notice → Prop where
  | turnedAway (cause : PanelError) :
      Course name index specs [.titled name (.error cause)] none [] [.sectionRefused name cause]
  | heardOut (home : SectionId) (answers : List (Except PanelError ControlId)) (controls : List (String × ControlId))
      (replies : List (Except PanelError Unit)) (each : answers.length = specs.length)
      (made : controls = granted specs answers) (each' : replies.length = controls.length) :
      Course name index specs
        (.titled name (.ok home) :: (List.zipWith (fun spec answer => .bound home spec answer) specs answers ++
          List.zipWith (fun control reply => .heard control.2 (.follow index) reply) controls replies))
        (some home) controls
        (reports (fun spec => .controlRefused name spec.key) specs answers ++
          reports (fun control => .listenerRefused name control.1) controls replies)

section

variable {name : String} {index : Nat} {specs : List ControlSpec} {exchanges : List Exchange}
  {home : Option SectionId} {controls : List (String × ControlId)} {refusals : List Notice}

theorem reports_warn {α β : Type} (report : α → PanelError → Notice) (warns : ∀ one cause, (report one cause).level = .warn)
    (asked : List α) (answers : List (Except PanelError β)) :
    ∀ refusal ∈ reports report asked answers, refusal.level = .warn := by
  intro refusal member
  obtain ⟨⟨one, answer⟩, _, reported⟩ := List.mem_filterMap.mp member
  cases answer with
  | error cause =>
      obtain rfl := Option.some.inj reported
      exact warns one cause
  | ok done => cases reported

theorem Course.warns (course : Course name index specs exchanges home controls refusals) :
    ∀ refusal ∈ refusals, refusal.level = .warn := by
  cases course with
  | turnedAway cause =>
      intro refusal member
      rw [List.mem_singleton.mp member]
      rfl
  | heardOut home answers controls replies each made each' =>
      rw [List.forall_mem_append]
      exact ⟨reports_warn _ (fun _ _ => rfl) _ _, reports_warn _ (fun _ _ => rfl) _ _⟩

theorem Course.one_for_each (course : Course name index specs exchanges home controls refusals) :
    refusals.length = exchanges.countP (·.refused) := by
  cases course with
  | turnedAway cause => rfl
  | heardOut home answers controls replies each made each' =>
      rw [List.length_append, List.countP_cons, List.countP_append,
        reports_count _ (fun spec answer => .bound home spec answer),
        reports_count _ (fun control reply => .heard control.2 (.follow index) reply)]
      · rfl
      · rintro control (cause | done) <;> rfl
      · rintro spec (cause | id) <;> rfl

end

section

variable {P : Type} [PanelHost P]

theorem controls_transcribed (home : SectionId) (specs : List ControlSpec) (transcribed : Transcribed P) :
    let plain := askAll (PanelHost.addControl home) specs transcribed.panel
    askAll (PanelHost.addControl home) specs transcribed = (plain.1, ⟨plain.2, transcribed.exchanges ++
      List.zipWith (fun spec answer => .bound home spec answer) specs plain.1⟩) :=
  ask_all_transcribed (PanelHost.addControl home) (.bound home) specs transcribed

theorem listeners_transcribed (index : Nat) (controls : List (String × ControlId)) (transcribed : Transcribed P) :
    let plain := askAll (fun control => PanelHost.listen control.2 (.follow index)) controls transcribed.panel
    askAll (fun control => PanelHost.listen control.2 (.follow index)) controls transcribed =
      (plain.1, ⟨plain.2, transcribed.exchanges ++
        List.zipWith (fun control reply => .heard control.2 (.follow index) reply) controls plain.1⟩) :=
  ask_all_transcribed (fun control : String × ControlId => PanelHost.listen control.2 (.follow index))
    (fun control => .heard control.2 (.follow index)) controls transcribed

theorem interview_transcribed (name : String) (index : Nat) (specs : List ControlSpec) (panel : P) :
    let plain := interview name index specs panel
    ∃ exchanges, interview name index specs (⟨panel, []⟩ : Transcribed P) =
      ⟨plain.section_, plain.controls, plain.refusals, ⟨plain.panel, exchanges⟩⟩ ∧
        Course name index specs exchanges plain.section_ plain.controls plain.refusals := by
  have titled : PanelHost.addSection name (⟨panel, []⟩ : Transcribed P) =
      ((PanelHost.addSection name panel).1, ⟨(PanelHost.addSection name panel).2,
        [.titled name (PanelHost.addSection name panel).1]⟩) := rfl
  simp only [interview]
  rw [titled]
  rcases PanelHost.addSection name panel with ⟨cause | home, after⟩
  · exact ⟨_, rfl, .turnedAway cause⟩
  · simp only [controls_transcribed, listeners_transcribed]
    refine ⟨_, rfl, ?_⟩
    rw [List.append_assoc]
    exact .heardOut home _ _ _ (ask_all_length _ specs after) rfl (ask_all_length _ _ _)

end

namespace Studio

variable {E P Q : Type}

theorem builds_alike_on_any_panel [EngineHost E] [PanelHost P] [PanelHost Q] (name : String) (scene : SceneId)
    (options : Options) (studio : Studio E P) (other : Q) :
    let built := build name scene options studio
    let elsewhere := build name scene options (studio.withPanel other)
    let transcribed := build name scene options (studio.withPanel (⟨studio.panel, []⟩ : Transcribed P))
    -- The other panel makes no difference to anything but the panel's part of the shader.
    (elsewhere.1 = built.1 ∧ SameButPanel built.2 elsewhere.2) ∧
    -- What the panel is asked is on the transcript, which makes no difference at all.
    (transcribed.1 = built.1 ∧ transcribed.2.withPanel transcribed.2.panel.panel = built.2) ∧
    match built.1 with
    | .error _ => transcribed.2.panel.exchanges = [] ∧ built.2.shaders = studio.shaders
    | .ok index => ∃ plan shader refusals, Blueprint.ofOptions options = .ok plan ∧ index = studio.shaders.length ∧
        built.2.shaders = studio.shaders ++ [shader] ∧ shader.tunables = plan.tunables ∧
        Course name index (plan.tunables.map (·.controlSpec)) transcribed.2.panel.exchanges shader.section_
          shader.controls refusals ∧
        built.2.notices = studio.notices ++ (ignoredList name options ++ plan.tunables.flatMap (·.notices)) ++ refusals ∧
        refusals.length = transcribed.2.panel.exchanges.countP (·.refused) ∧
        ∀ refusal ∈ refusals, refusal.level = .warn := by
  intro built elsewhere transcribed
  cases build_settled name scene options studio with
  | failed error engine lastProgram everywhere =>
      have here : built = _ := everywhere P studio.panel
      have there : elsewhere = _ := everywhere Q other
      have onRecord : transcribed = _ := everywhere (Transcribed P) ⟨studio.panel, []⟩
      rw [here, there, onRecord]
      exact ⟨⟨rfl, rfl, rfl, rfl, rfl⟩, ⟨rfl, rfl⟩, rfl, rfl⟩
  | built plan program material engine lastProgram drawn everywhere =>
      have here : built = _ := everywhere P studio.panel
      have there : elsewhere = _ := everywhere Q other
      have onRecord : transcribed = _ := everywhere (Transcribed P) ⟨studio.panel, []⟩
      obtain ⟨exchanges, same, course⟩ := interview_transcribed name studio.shaders.length
        (plan.tunables.map (·.controlSpec)) studio.panel
      rw [same] at onRecord
      rw [here, there, onRecord]
      refine ⟨⟨rfl, rfl, rfl, ?_, rfl⟩, ⟨rfl, rfl⟩, plan, _, _, drawn, rfl, rfl, rfl, course, ?_, course.one_for_each,
        course.warns⟩
      · simp only [List.map_append]
        rfl
      · simp only [List.append_assoc]

end Studio

end ShaderKnobs
