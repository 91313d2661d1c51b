import ShaderKnobs.Proofs.Panel.Tidy
import ShaderKnobs.Proofs.Studio.FailedBuild
import ShaderKnobs.Proofs.Studio.Run

set_option autoImplicit false

namespace ShaderKnobs

structure Homed (wirings : List Wiring) (panel : Panel) : Prop where
  tidy : panel.Tidy
  issued : ∀ wiring ∈ wirings, ∀ home, wiring.section_ = some home → home.number ≤ panel.lastId
  apart : ∀ (i j : Nat) (one two : Wiring) (home : SectionId), wirings[i]? = some one → wirings[j]? = some two →
    one.section_ = some home → two.section_ = some home → i = j
  lives : ∀ c ∈ panel.controls, ∀ (index : Nat) (wiring : Wiring), c.listeners = [.follow index] →
    wirings[index]? = some wiring → wiring.section_ = some c.section_

theorem Homed.shrink {wirings : List Wiring} {before after : Panel} (homed : Homed wirings before)
    (tidy : after.Tidy) (lastId : after.lastId = before.lastId) (fewer : after.controls ⊆ before.controls) :
    Homed wirings after where
  tidy := tidy
  issued := by
    rw [lastId]
    exact homed.issued
  apart := homed.apart
  lives c member := homed.lives c (fewer member)

theorem Homed.update {wirings : List Wiring} {panel : Panel} (homed : Homed wirings panel) (id : ControlId)
    (setting : Setting) (fits : ∀ c ∈ panel.controls, c.id = id → c.spec.knob.accepts setting = true) :
    Homed wirings (panel.updateControl id ({ · with setting := setting })) where
  tidy := homed.tidy.update id _ (fun _ => rfl) (fun _ => rfl) fits
  issued := homed.issued
  apart := homed.apart
  lives c changed := by
    obtain ⟨old, present, own, rfl⟩ := set_control_old id setting panel c changed
    exact homed.lives old present

theorem Ticks.counter {wirings : List Wiring} {hook : FrameHook} (ticks : Ticks wirings hook) :
    ∃ index material name frame, hook = .counter index material name frame := by
  obtain ⟨index, wiring, name, shape, _⟩ := ticks
  cases hook with
  | counter index material name frame => exact ⟨index, material, name, frame, rfl⟩
  | script _ _ => cases shape

namespace Studio

theorem make_controls_homed (home : SectionId) (specs : List ControlSpec) (made : List (String × ControlId))
    (panel : Panel) (tidy : panel.Tidy) :
    let after := (makeControls home specs made panel).2
    after.Tidy ∧ ∀ c ∈ after.controls, c ∈ panel.controls ∨ c.section_ = home := by
  induction specs generalizing made panel with
  | nil => exact ⟨tidy, fun c member => .inl member⟩
  | cons spec rest ih =>
      have tidy' := Panel.tidy_add_control home spec panel tidy
      simp only [makeControls]
      rcases add_control_end home spec panel with ⟨error, refused⟩ | ⟨between, granted, _, controls⟩
      · rw [show PanelHost.addControl home spec panel = _ from refused]
        exact ih made panel tidy
      · rw [granted] at tidy'
        rw [show PanelHost.addControl home spec panel = _ from granted]
        obtain ⟨later, homes⟩ := ih (made ++ [(spec.key, ⟨panel.lastId + 1⟩)]) between tidy'
        refine ⟨later, fun c member => ?_⟩
        rcases homes c member with old | new
        · rw [controls] at old
          rcases List.mem_append.mp old with older | newest
          · exact .inl older
          · rw [List.mem_singleton.mp newest]
            exact .inr rfl
        · exact .inr new

theorem make_section_homed (name : String) (specs : List ControlSpec) (panel : Panel) (tidy : panel.Tidy) :
    let made := makeSection name specs panel
    made.2.Tidy ∧ (∀ home, made.1.1 = some home → panel.lastId < home.number ∧ home.number ≤ made.2.lastId) ∧
      ∀ c ∈ made.2.controls, c ∈ panel.controls ∨ made.1.1 = some c.section_ := by
  have tidy' := Panel.tidy_add_section name panel tidy
  simp only [makeSection]
  rcases add_section_end name panel with ⟨error, refused⟩ | ⟨between, granted, lastId, controls⟩
  · rw [show PanelHost.addSection name panel = _ from refused]
    refine ⟨tidy, fun home opened => ?_, fun c member => .inl member⟩
    cases opened
  · rw [granted] at tidy'
    rw [show PanelHost.addSection name panel = _ from granted]
    obtain ⟨later, homes⟩ := make_controls_homed ⟨panel.lastId + 1⟩ specs [] between tidy'
    obtain ⟨_, _, grown⟩ := make_controls_grown ⟨panel.lastId + 1⟩ specs [] between
    refine ⟨later, fun home opened => ?_, fun c member => ?_⟩
    · obtain rfl := Option.some.inj opened
      exact ⟨Nat.lt_succ_self _, Nat.le_trans (Nat.le_of_eq lastId.symm) grown.lastId⟩
    · rw [← controls]
      exact (homes c member).imp id fun same => congrArg some same.symm

theorem attach_all_tidy (index : Nat) (entries : List (String × ControlId)) (panel : Panel) (tidy : panel.Tidy) :
    (attachAll index entries panel).Tidy := by
  induction entries generalizing panel with
  | nil => exact tidy
  | cons entry rest ih => exact ih _ (Panel.tidy_listen entry.2 (.follow index) panel tidy)

theorem built_homed (name : String) (scene : SceneId) (options : Options) (studio after : PlainStudio) (index : Nat)
    (coherent : Coherent studio) (homed : Homed studio.wirings studio.panel)
    (success : build name scene options studio = (.ok index, after)) : Homed after.wirings after.panel := by
  have ending := build_end name scene options studio
  rw [success] at ending
  cases ending with
  | built plan program material between engine notices drawn registered created =>
      let specs := plan.tunables.map (·.controlSpec)
      let made := makeSection name specs studio.panel
      let fresh := freshShader name plan (.numbered name (studio.lastProgram + 1)) material made.1
      obtain ⟨tidy, opened, homes⟩ := make_section_homed name specs studio.panel homed.tidy
      obtain ⟨gained, listed, grown, lastId, controls⟩ :=
        built_controls name studio.shaders.length specs studio.panel coherent.panel.bounded
      have count : studio.wirings.length = studio.shaders.length := List.length_map ..
      rw [wirings, List.map_append, List.map_singleton]
      change Homed (studio.wirings ++ [fresh.wiring]) (attachAll studio.shaders.length made.1.2 made.2)
      refine ⟨attach_all_tidy studio.shaders.length made.1.2 made.2 tidy, ?_, ?_, ?_⟩
      · intro wiring member home own
        rw [lastId]
        rcases List.mem_append.mp member with old | new
        · exact Nat.le_trans (homed.issued wiring old home own) grown.lastId
        · rw [List.mem_singleton.mp new] at own
          exact (opened home own).2
      · intro i j one two home first second own own'
        rcases wired_append _ _ one i first with old | ⟨rfl, rfl⟩ <;>
          rcases wired_append _ _ two j second with old' | ⟨rfl, rfl⟩
        · exact homed.apart i j one two home old old' own own'
        · have bound := homed.issued one (List.mem_of_getElem? old) home own
          have := (opened home own').1
          omega
        · have bound := homed.issued two (List.mem_of_getElem? old') home own'
          have := (opened home own).1
          omega
        · rfl
      · intro c member i wiring heard wired
        rw [controls] at member
        rcases List.mem_append.mp member with old | new
        · obtain ⟨other, wiring', wired', heard', _⟩ := coherent.panel.serves c old
          obtain rfl : other = i := by simpa [heard] using heard'.symm
          rw [wired_grow wired' fresh.wiring] at wired
          obtain rfl := Option.some.inj wired
          exact homed.lives c old other wiring' heard wired'
        · obtain ⟨own, present, rfl⟩ := List.mem_map.mp new
          obtain rfl : studio.shaders.length = i := by simpa [Control.following] using heard
          rw [← count, List.getElem?_append_right (Nat.le_refl _)] at wired
          obtain rfl : fresh.wiring = wiring := by simpa using wired
          have onPanel : own ∈ made.2.controls := by
            rw [grown.controls]
            exact List.mem_append_right _ present
          rcases homes own onPanel with old | here
          · exact absurd rfl (grown.id_fresh own present own.id (coherent.panel.bounded own old))
          · exact here

theorem dispose_homed (all : Bool) (index : Nat) (studio : PlainStudio) (homed : Homed studio.wirings studio.panel) :
    Homed (studio.dispose true all index).wirings (studio.dispose true all index).panel := by
  rw [wirings_dispose true all index studio]
  unfold dispose
  split
  · exact homed
  split
  · exact homed
  rw [if_neg (by simp)]
  split
  · exact homed.shrink (Panel.tidy_dispose studio.panel) rfl (List.nil_subset _)
  · next shader _ _ _ =>
    cases shader.section_ with
    | none => exact homed
    | some id =>
        change Homed studio.wirings (studio.panel.disposeSection id)
        refine homed.shrink (Panel.tidy_dispose_section id studio.panel homed.tidy) ?_ ?_
        · rw [homed.tidy.dispose_section id]
        · rw [homed.tidy.dispose_section id]
          exact List.filter_sublist.subset

theorem edit_homed (control : ControlId) (setting : Setting) (studio : PlainStudio) (coherent : Coherent studio)
    (homed : Homed studio.wirings studio.panel) :
    Homed (edit control setting studio).2.wirings (edit control setting studio).2.panel := by
  rcases edit_end studio coherent control setting with ⟨error, refused⟩ | ⟨c, index, wiring, value, takes, done⟩
  · rw [refused]
    exact homed
  · rw [done, wirings_deliver index wiring.material c.spec.key value]
    refine homed.update control setting fun other member same => ?_
    obtain rfl : other = c := List.inj_on_of_nodup_map coherent.panel.ids member takes.member (same.trans takes.own.symm)
    exact Option.isSome_iff_exists.mpr ⟨value, takes.written⟩

theorem run_hooks_panel (scene : SceneId) (wirings : List Wiring) (hooks : List (SceneId × FrameHook))
    (studio : PlainStudio) (ticking : ∀ entry ∈ hooks, Ticks wirings entry.2) :
    (runHooks scene hooks studio).2.panel = studio.panel := by
  induction hooks generalizing studio with
  | nil => rfl
  | cons entry rest ih =>
      obtain ⟨home, hook⟩ := entry
      have later := fun studio => ih studio fun entry member => ticking entry (List.mem_cons_of_mem _ member)
      obtain ⟨index, material, name, frame, rfl⟩ := (ticking _ List.mem_cons_self).counter
      simp only [runHooks]
      split
      · exact later _
      · exact later studio

theorem frame_homed (scene : SceneId) (studio : PlainStudio) (coherent : Coherent studio)
    (homed : Homed studio.wirings studio.panel) :
    Homed (renderFrame scene studio).wirings (renderFrame scene studio).panel := by
  rw [wirings_render_frame scene studio, show (renderFrame scene studio).panel = studio.panel from
    run_hooks_panel scene studio.wirings studio.engine.hooks studio coherent.engine.ticking]
  exact homed

theorem step_homed (studio : PlainStudio) (coherent : Coherent studio) (homed : Homed studio.wirings studio.panel)
    (next : Act) : Homed (step studio next).wirings (step studio next).panel := by
  cases next with
  | build name scene options =>
      cases result : build name scene options studio with
      | mk answer after =>
          rw [step, result]
          cases answer with
          | error error =>
              obtain ⟨panel, shaders, _⟩ := failed_build_frame name scene options error studio after result
              rw [show after.wirings = studio.wirings from congrArg (List.map LiveShader.wiring) shaders, panel]
              exact homed
          | ok index => exact built_homed name scene options studio after index coherent homed result
  | edit control setting => exact edit_homed control setting studio coherent homed
  | frame scene => exact frame_homed scene studio coherent homed
  | dispose all shader => exact dispose_homed all shader studio homed

theorem perform_homed (acts : List Act) (studio : PlainStudio) (coherent : Coherent studio)
    (homed : Homed studio.wirings studio.panel) : Homed (perform acts studio).wirings (perform acts studio).panel := by
  induction acts generalizing studio with
  | nil => exact homed
  | cons next rest ih =>
      exact ih (step studio next) (step_onward studio coherent next).coherent (step_homed studio coherent homed next)

theorem fresh_homed (lastProgram : Nat) : Homed (fresh lastProgram).wirings (fresh lastProgram).panel where
  tidy := Panel.tidy_empty
  issued _ member := by cases member
  apart _ _ _ _ _ wired := by cases wired
  lives _ member := by cases member

end Studio

end ShaderKnobs
