import ShaderKnobs.Proofs.Studio.Hosts
import ShaderKnobs.Proofs.Tunable.Scan

set_option autoImplicit false

namespace ShaderKnobs

-- A source that is not given, or that is nothing but blanks.
def Missing (source : Option String) : Prop := ∀ text, source = some text → Text.isBlankText text = true

structure Sources (options : Options) (text : String) : Prop where
  vertex : ¬Missing options.vertex
  given : options.fragment = some text
  written : Text.isBlankText text = false

/-- What keeps a shader from being built, in the order in which it is found out. -/
inductive Obstacle (options : Options) : BuildError → Prop where
  | vertex (missing : Missing options.vertex) : Obstacle options (.missingSource .vertex)
  | fragment (vertex : ¬Missing options.vertex) (missing : Missing options.fragment) :
      Obstacle options (.missingSource .fragment)
  | scan (text : String) (sources : Sources options text) (cause : ScanError)
      (refused : Tunable.scan text = .error cause) : Obstacle options (.scan cause)
  | declared (text : String) (sources : Sources options text) (early late : List Tunable) (tunable : Tunable)
      (scanned : Tunable.scan text = .ok (early ++ tunable :: late))
      (clear : ∀ other ∈ early, other.name ∉ transformUniforms) (taken : tunable.name ∈ transformUniforms) :
      Obstacle options (.duplicateUniform tunable.name)
  | counter (text : String) (sources : Sources options text) (tunables : List Tunable)
      (scanned : Tunable.scan text = .ok tunables) (clear : ∀ tunable ∈ tunables, tunable.name ∉ transformUniforms)
      (time : String) (named : options.timeUniform = some time) (spelled : Text.trim time ≠ "")
      (taken : Text.trim time ∈ transformUniforms ∨ Text.trim time ∈ tunables.map (·.name)) :
      Obstacle options (.duplicateUniform (Text.trim time))

-- Nothing keeps the shader from being built.
inductive Buildable (options : Options) : Prop where
  | intro (text : String) (sources : Sources options text) (tunables : List Tunable)
      (scanned : Tunable.scan text = .ok tunables) (clear : ∀ tunable ∈ tunables, tunable.name ∉ transformUniforms)
      (counter : ∀ time, options.timeUniform = some time → Text.trim time ≠ "" →
        Text.trim time ∉ transformUniforms ∧ Text.trim time ∉ tunables.map (·.name))

theorem require_missing (stage : Stage) (source : Option String) (missing : Missing source) :
    requireSource stage source = .error (.missingSource stage) := by
  cases source with
  | none => rfl
  | some text => rw [requireSource, if_pos (missing text rfl)]

theorem require_written (stage : Stage) (text : String) (written : Text.isBlankText text = false) :
    requireSource stage (some text) = .ok text := by
  rw [requireSource, if_neg (by simp [written])]

theorem not_missing (source : Option String) :
    ¬Missing source ↔ ∃ text, source = some text ∧ Text.isBlankText text = false := by
  simp only [Missing, not_forall, Bool.not_eq_true, exists_prop]

theorem counter_name_some (options : Options) (name : String) :
    options.counterName? = some name ↔
      ∃ time, options.timeUniform = some time ∧ Text.trim time ≠ "" ∧ Text.trim time = name := by
  simp only [Options.counterName?, Option.filter_eq_some_iff, Option.map_eq_some_iff, decide_eq_true_eq]
  constructor
  · rintro ⟨⟨time, named, rfl⟩, spelled⟩
    exact ⟨time, named, spelled, rfl⟩
  · rintro ⟨time, named, spelled, rfl⟩
    exact ⟨⟨time, named, rfl⟩, spelled⟩

theorem scan_names_distinct (source : String) (tunables : List Tunable) (scanned : Tunable.scan source = .ok tunables) :
    (tunables.map (·.name)).Nodup := by
  obtain ⟨sound, each⟩ := Tunable.scan_declares source tunables scanned
  rw [Tunable.declared_names _ tunables each]
  exact sound.distinct

theorem uniform_names_clear (taken names rest : List String) (fresh : ∀ name ∈ names, name ∉ taken)
    (distinct : names.Nodup) : uniformNames taken (names ++ rest) = uniformNames (taken ++ names) rest := by
  induction names generalizing taken with
  | nil => rw [List.nil_append, List.append_nil]
  | cons name later ih =>
      obtain ⟨absent, distinct'⟩ := List.nodup_cons.mp distinct
      rw [List.cons_append, uniformNames, if_neg (fresh name List.mem_cons_self), ih, List.append_assoc]
      · rfl
      · intro other member
        rw [List.mem_append, List.mem_singleton, not_or]
        refine ⟨fresh other (List.mem_cons_of_mem _ member), ?_⟩
        rintro rfl
        exact absent member
      · exact distinct'

theorem blueprint_of_sources (options : Options) (text : String) (sources : Sources options text) :
    ∃ source, Blueprint.ofOptions options = (do
      let tunables ← (Tunable.scan text).mapError .scan
      let uniforms ← uniformNames transformUniforms (tunables.map (·.name) ++ options.counterName?.toList)
      .ok ⟨source, text, tunables, options.counterName?, uniforms⟩) := by
  obtain ⟨source, given, written⟩ := (not_missing options.vertex).mp sources.vertex
  refine ⟨source, ?_⟩
  rw [Blueprint.ofOptions, given, sources.given, require_written .vertex source written,
    require_written .fragment text sources.written]
  rfl

theorem obstacle_stops (options : Options) (error : BuildError) (obstacle : Obstacle options error) :
    Blueprint.ofOptions options = .error error := by
  cases obstacle with
  | vertex missing =>
      rw [Blueprint.ofOptions, require_missing .vertex _ missing]
      rfl
  | fragment vertex missing =>
      obtain ⟨source, given, written⟩ := (not_missing options.vertex).mp vertex
      rw [Blueprint.ofOptions, given, require_written .vertex source written, require_missing .fragment _ missing]
      rfl
  | scan text sources cause refused =>
      obtain ⟨source, blueprint⟩ := blueprint_of_sources options text sources
      rw [blueprint, refused]
      rfl
  | declared text sources early late tunable scanned clear taken =>
      obtain ⟨source, blueprint⟩ := blueprint_of_sources options text sources
      have distinct := scan_names_distinct text _ scanned
      rw [List.map_append, List.nodup_append] at distinct
      have stops : uniformNames transformUniforms
          ((early ++ tunable :: late).map (·.name) ++ options.counterName?.toList) =
          .error (.duplicateUniform tunable.name) := by
        rw [List.map_append, List.append_assoc,
          uniform_names_clear _ _ _ (List.forall_mem_map.mpr clear) distinct.1, List.map_cons, List.cons_append,
          uniformNames, if_pos (List.mem_append_left _ taken)]
      rw [blueprint, scanned, Except.mapError, ok_bind, stops]
      rfl
  | counter text sources tunables scanned clear time named spelled taken =>
      obtain ⟨source, blueprint⟩ := blueprint_of_sources options text sources
      have distinct := scan_names_distinct text tunables scanned
      have counter := (counter_name_some options (Text.trim time)).mpr ⟨time, named, spelled, rfl⟩
      have stops : uniformNames transformUniforms (tunables.map (·.name) ++ options.counterName?.toList) =
          .error (.duplicateUniform (Text.trim time)) := by
        rw [uniform_names_clear _ _ _ (List.forall_mem_map.mpr clear) distinct, counter, Option.toList_some,
          uniformNames, if_pos (List.mem_append.mpr taken)]
      rw [blueprint, scanned, Except.mapError, ok_bind, stops]
      rfl

theorem buildable_draws (options : Options) (buildable : Buildable options) :
    ∃ plan, Blueprint.ofOptions options = .ok plan := by
  obtain ⟨text, sources, tunables, scanned, clear, counter⟩ := buildable
  obtain ⟨source, blueprint⟩ := blueprint_of_sources options text sources
  have distinct := scan_names_distinct text tunables scanned
  have named : ∃ uniforms, uniformNames transformUniforms (tunables.map (·.name) ++ options.counterName?.toList) =
      .ok uniforms := by
    rw [uniform_names_clear _ _ _ (List.forall_mem_map.mpr clear) distinct]
    cases time : options.counterName? with
    | none => exact ⟨_, rfl⟩
    | some name =>
        obtain ⟨raw, given, spelled, rfl⟩ := (counter_name_some options name).mp time
        have free := counter raw given spelled
        rw [Option.toList_some, uniformNames, if_neg (by simpa [not_or] using free)]
        exact ⟨_, rfl⟩
  obtain ⟨uniforms, named⟩ := named
  rw [blueprint, scanned, Except.mapError, ok_bind, named]
  exact ⟨_, rfl⟩

theorem obstacle_or_buildable (options : Options) : (∃ error, Obstacle options error) ∨ Buildable options := by
  by_cases vertex : Missing options.vertex
  · exact .inl ⟨_, .vertex vertex⟩
  by_cases fragment : Missing options.fragment
  · exact .inl ⟨_, .fragment vertex fragment⟩
  obtain ⟨text, given, written⟩ := (not_missing options.fragment).mp fragment
  have sources : Sources options text := ⟨vertex, given, written⟩
  cases scanned : Tunable.scan text with
  | error cause => exact .inl ⟨_, .scan text sources cause scanned⟩
  | ok tunables =>
      cases found : tunables.find? (·.name ∈ transformUniforms) with
      | some tunable =>
          obtain ⟨taken, early, late, rfl, clear⟩ := List.find?_eq_some_iff_append.mp found
          have clear' : ∀ other ∈ early, other.name ∉ transformUniforms := by
            intro other member
            simpa using clear other member
          exact .inl ⟨_, .declared text sources early late tunable scanned clear' (of_decide_eq_true taken)⟩
      | none =>
          have clear : ∀ tunable ∈ tunables, tunable.name ∉ transformUniforms := by
            intro tunable member
            simpa using List.find?_eq_none.mp found tunable member
          by_cases collides : ∃ time, options.timeUniform = some time ∧ Text.trim time ≠ "" ∧
              (Text.trim time ∈ transformUniforms ∨ Text.trim time ∈ tunables.map (·.name))
          · obtain ⟨time, named, spelled, taken⟩ := collides
            exact .inl ⟨_, .counter text sources tunables scanned clear time named spelled taken⟩
          · refine .inr ⟨text, sources, tunables, scanned, clear, fun time named spelled => ?_⟩
            rw [← not_or]
            exact fun taken => collides ⟨time, named, spelled, taken⟩

theorem blueprint_error_iff (options : Options) (error : BuildError) :
    Blueprint.ofOptions options = .error error ↔ Obstacle options error := by
  refine ⟨fun undrawn => ?_, obstacle_stops options error⟩
  rcases obstacle_or_buildable options with ⟨other, obstacle⟩ | buildable
  · obtain rfl := Except.error.inj ((obstacle_stops options other obstacle).symm.trans undrawn)
    exact obstacle
  · obtain ⟨plan, drawn⟩ := buildable_draws options buildable
    cases drawn.symm.trans undrawn

theorem blueprint_ok_iff (options : Options) : (∃ plan, Blueprint.ofOptions options = .ok plan) ↔ Buildable options := by
  refine ⟨fun ⟨plan, drawn⟩ => ?_, buildable_draws options⟩
  rcases obstacle_or_buildable options with ⟨error, obstacle⟩ | buildable
  · cases drawn.symm.trans (obstacle_stops options error obstacle)
  · exact buildable

namespace Studio

variable {P : Type}

theorem build_follows_blueprint [PanelHost P] (name : String) (scene : SceneId) (options : Options)
    (studio : Studio Engine P) (orderly : Orderly studio) :
    (build name scene options studio).1 = (Blueprint.ofOptions options).map fun _ => studio.shaders.length := by
  cases drawn : Blueprint.ofOptions options with
  | error error =>
      obtain ⟨notices, failed⟩ := build_of_undrawn name scene options studio error drawn
      rw [failed]
      rfl
  | ok plan =>
      obtain ⟨shader, after, built, _⟩ := build_of_drawn name scene options studio orderly plan drawn
      rw [built]
      rfl

theorem build_succeeds_iff_buildable [EditHost P] (panel : P) (lastProgram : Nat) (uses : List (Use P))
    (name : String) (scene : SceneId) (options : Options) :
    let hosted := (Hosted.start panel lastProgram).useAll uses
    let answer := (build name scene options hosted.studio).1
    hosted.ids.Nodup ∧ ((∃ index, answer = .ok index) ↔ Buildable options) ∧
      (∀ error, answer = .error error ↔ Obstacle options error) ∧
      ∀ shader cause, answer ≠ .error (.engine shader cause) := by
  intro hosted answer
  have accounted := Hosted.uses_accounted uses _ (Hosted.start_accounted panel lastProgram)
  have settled : answer = (Blueprint.ofOptions options).map fun _ => hosted.studio.shaders.length :=
    build_follows_blueprint name scene options hosted.studio accounted.orderly
  have errors : ∀ error, answer = .error error ↔ Obstacle options error := by
    intro error
    rw [settled, ← blueprint_error_iff]
    cases Blueprint.ofOptions options with
    | error other => simp only [Except.map, Except.error.injEq]
    | ok plan => exact ⟨nofun, nofun⟩
  refine ⟨accounted.distinct, ?_, errors, fun shader cause refused => ?_⟩
  · rw [settled, ← blueprint_ok_iff]
    cases Blueprint.ofOptions options with
    | error error => exact ⟨nofun, nofun⟩
    | ok plan => exact ⟨fun _ => ⟨plan, rfl⟩, fun _ => ⟨_, rfl⟩⟩
  · cases (errors _).mp refused

end Studio

end ShaderKnobs
