import ShaderKnobs.Proofs.Studio.Homes

set_option autoImplicit false

namespace ShaderKnobs

namespace Studio

/-- What can be done with shaders that have been built: edits of the controls of one, disposals of
the section of one, and frames. -/
inductive Deed where
  | edit (shader : Nat) (control : ControlId) (setting : Setting)
  | leave (shader : Nat)
  | frame (scene : SceneId)

namespace Deed

def act : Deed → Act
  | edit _ control setting => .edit control setting
  | leave shader => .dispose false shader
  | frame scene => .frame scene

-- Whose deed it is; a frame is nobody's.
def shader? : Deed → Option Nat
  | edit shader _ _ => some shader
  | leave shader => some shader
  | frame _ => none

-- An edit is of a control of its own shader; the control may be gone and the setting may not fit.
def Proper (studio : PlainStudio) : Deed → Prop
  | edit shader control _ => ∃ own, studio.wirings[shader]? = some own ∧ control ∈ own.controls.map (·.2)
  | _ => True

end Deed

def Deed.reply (studio : PlainStudio) : Deed → List (Nat × Except PanelError Unit)
  | edit shader control setting => [(shader, (studio.edit control setting).1)]
  | _ => []

def carryOut : List Deed → PlainStudio → List (Nat × Except PanelError Unit) × PlainStudio
  | [], studio => ([], studio)
  | deed :: rest, studio =>
      let (answers, after) := carryOut rest (step studio deed.act)
      (deed.reply studio ++ answers, after)

def answersTo (shader : Nat) (answers : List (Nat × Except PanelError Unit)) : List (Except PanelError Unit) :=
  (answers.filter (·.1 = shader)).map (·.2)

/-- What belongs to a shader: itself, with its values and flags, the slots of its material, the
writes that it has had, and its controls as the panel has them. -/
structure Share where
  shader : LiveShader
  slots : String → Option SlotValue
  writes : List SlotWrite
  controls : List (Option Control)

def writesOn (material : MaterialHandle) (engine : Engine) : List SlotWrite :=
  engine.log.toList.filter (·.material = material)

def share? (index : Nat) (studio : PlainStudio) : Option Share :=
  studio.shaders[index]?.map fun shader =>
    { shader := shader
      slots := fun name => studio.engine.uniform? shader.material name
      writes := writesOn shader.material studio.engine
      controls := shader.controls.map fun entry => studio.panel.control? entry.2 }

-- Two studios have the same share for a shader, and all that its next steps depend on.
structure Alike (index : Nat) (own : Wiring) (one two : PlainStudio) : Prop where
  shader : one.shaders[index]? = two.shaders[index]?
  slots : ∀ name, one.engine.uniform? own.material name = two.engine.uniform? own.material name
  writes : writesOn own.material one.engine = writesOn own.material two.engine
  controls : ∀ id ∈ own.controls.map (·.2), one.panel.control? id = two.panel.control? id
  hooks : one.engine.hooks = two.engine.hooks
  disposed : one.panel.disposed = two.panel.disposed

theorem Alike.refl (index : Nat) (own : Wiring) (studio : PlainStudio) : Alike index own studio studio :=
  ⟨rfl, fun _ => rfl, rfl, fun _ _ => rfl, rfl, rfl⟩

theorem Alike.symm {index : Nat} {own : Wiring} {one two : PlainStudio} (alike : Alike index own one two) :
    Alike index own two one :=
  ⟨alike.shader.symm, fun name => (alike.slots name).symm, alike.writes.symm,
    fun id member => (alike.controls id member).symm, alike.hooks.symm, alike.disposed.symm⟩

theorem Alike.trans {index : Nat} {own : Wiring} {one two three : PlainStudio} (early : Alike index own one two)
    (late : Alike index own two three) : Alike index own one three :=
  ⟨early.shader.trans late.shader, fun name => (early.slots name).trans (late.slots name),
    early.writes.trans late.writes, fun id member => (early.controls id member).trans (late.controls id member),
    early.hooks.trans late.hooks, early.disposed.trans late.disposed⟩

theorem Alike.share {index : Nat} {own : Wiring} {one two : PlainStudio} (alike : Alike index own one two)
    (shader : LiveShader) (live : one.shaders[index]? = some shader) (wiring : shader.wiring = own) :
    ∃ share, share? index one = some share ∧ share? index two = some share ∧ share.shader = shader := by
  subst wiring
  have live' : two.shaders[index]? = some shader := alike.shader.symm.trans live
  refine ⟨_, congrArg (Option.map _) live, (congrArg (Option.map _) live').trans ?_, rfl⟩
  simp only [Option.map_some, Option.some.injEq, Share.mk.injEq, true_and]
  refine ⟨?_, alike.writes.symm, List.map_congr_left fun entry member => ?_⟩
  · funext name
    exact (alike.slots name).symm
  · exact (alike.controls entry.2 (List.mem_map_of_mem member)).symm

theorem writes_on_write (material other : MaterialHandle) (name : String) (value : SlotValue) (engine : Engine) :
    writesOn material (engine.write other name value) =
      writesOn material engine ++ if other = material then [⟨other, name, value⟩] else [] := by
  rw [writesOn, Engine.log_write, List.filter_append]
  by_cases same : other = material
  · simp [writesOn, same]
  · simp [writesOn, same]

theorem control_set (control other : ControlId) (setting : Setting) (panel : Panel) :
    (panel.updateControl control ({ · with setting := setting })).control? other =
      (panel.control? other).map fun c => if c.id = control then { c with setting := setting } else c := by
  refine find_key_map Control.id _ (fun c => ?_) panel.controls other
  split <;> rfl

section

variable {index : Nat} {own : Wiring} {one two : PlainStudio}

theorem Alike.deliver (alike : Alike index own one two) (other : Nat) (material : MaterialHandle) (name : String)
    (value : SlotValue) :
    Alike index own (deliver other material name value one) (deliver other material name value two) := by
  refine ⟨?_, fun key => ?_, ?_, alike.controls, alike.hooks, alike.disposed⟩
  · simp only [Studio.deliver, List.getElem?_modify, alike.shader]
  · change (one.engine.write material name value).uniform? own.material key =
      (two.engine.write material name value).uniform? own.material key
    rw [Engine.uniform_write, Engine.uniform_write, alike.slots]
  · change writesOn own.material (one.engine.write material name value) =
      writesOn own.material (two.engine.write material name value)
    rw [writes_on_write, writes_on_write, alike.writes]

theorem Alike.set (alike : Alike index own one two) (control : ControlId) (setting : Setting) :
    Alike index own (setControl control setting one) (setControl control setting two) := by
  refine ⟨alike.shader, alike.slots, alike.writes, fun id member => ?_, alike.hooks, alike.disposed⟩
  change (one.panel.updateControl control ({ · with setting := setting })).control? id =
    (two.panel.updateControl control ({ · with setting := setting })).control? id
  rw [control_set, control_set, alike.controls id member]

theorem run_hooks_alike (scene : SceneId) (wirings : List Wiring) (hooks : List (SceneId × FrameHook))
    (ticking : ∀ entry ∈ hooks, Ticks wirings entry.2) (one two : PlainStudio) (alike : Alike index own one two) :
    (runHooks scene hooks one).1 = (runHooks scene hooks two).1 ∧
      Alike index own (runHooks scene hooks one).2 (runHooks scene hooks two).2 := by
  induction hooks generalizing one two with
  | nil => exact ⟨rfl, alike⟩
  | cons entry rest ih =>
      obtain ⟨home, hook⟩ := entry
      have later := ih fun entry member => ticking entry (List.mem_cons_of_mem _ member)
      obtain ⟨other, material, name, frame, rfl⟩ := (ticking _ List.mem_cons_self).counter
      simp only [runHooks]
      by_cases here : home = scene
      · rw [if_pos here, if_pos here]
        obtain ⟨same, alike'⟩ := later _ _
          (alike.deliver other material name (.float (Number.Binary.ofInt Number.single frame.toNat)))
        exact ⟨congrArg (_ :: ·) same, alike'⟩
      · rw [if_neg here, if_neg here]
        obtain ⟨same, alike'⟩ := later one two alike
        exact ⟨congrArg (_ :: ·) same, alike'⟩

theorem Alike.frame (alike : Alike index own one two) (coherent : Coherent one) (scene : SceneId) :
    Alike index own (renderFrame scene one) (renderFrame scene two) := by
  obtain ⟨same, ran⟩ := run_hooks_alike scene one.wirings one.engine.hooks coherent.engine.ticking one two alike
  have rendered : renderFrame scene two = { (runHooks scene one.engine.hooks two).2 with
      engine := (runHooks scene one.engine.hooks two).2.engine.endFrame scene
        (runHooks scene one.engine.hooks two).1 } := by
    rw [alike.hooks]
    rfl
  rw [rendered]
  exact ⟨ran.shader, ran.slots, ran.writes, ran.controls, same, ran.disposed⟩

end

structure Sound (studio : PlainStudio) : Prop where
  coherent : Coherent studio
  homed : Homed studio.wirings studio.panel

theorem Sound.act {studio : PlainStudio} (sound : Sound studio) (next : Act) : Sound (step studio next) :=
  ⟨(step_onward studio sound.coherent next).coherent, step_homed studio sound.coherent sound.homed next⟩

theorem wirings_deed (deed : Deed) (studio : PlainStudio) : (step studio deed.act).wirings = studio.wirings := by
  cases deed with
  | edit _ control setting => exact wirings_edit_while true control setting studio
  | leave shader => exact wirings_dispose true false shader studio
  | frame scene => exact wirings_render_frame scene studio

theorem control_dispose_section (panel : Panel) (tidy : panel.Tidy) (home : SectionId) (id : ControlId) :
    (panel.disposeSection home).control? id = (panel.control? id).filter (·.section_ ≠ home) := by
  refine Option.ext fun c => ?_
  rw [(Panel.tidy_dispose_section home panel tidy).control_iff, tidy.dispose_section home, Option.filter_eq_some_iff,
    tidy.control_iff, List.mem_filter, and_right_comm]

section

variable {index : Nat} {own : Wiring} {studio : PlainStudio} (sound : Sound studio)
  (wired : studio.wirings[index]? = some own)

include sound wired

theorem listed_follows (control : ControlId) (listed : control ∈ own.controls.map (·.2)) (c : Control)
    (present : c ∈ studio.panel.controls) (number : c.id = control) : c.listeners = [.follow index] := by
  obtain ⟨entry, member, rfl⟩ := List.mem_map.mp listed
  exact (Prod.mk.inj ((sound.coherent.panel.listed index own entry wired member).2 c present number)).1

theorem foreign_edit (other : Nat) (apart : other ≠ index) (control : ControlId) (setting : Setting)
    (proper : (Deed.edit other control setting).Proper studio) :
    Alike index own studio (edit control setting studio).2 := by
  obtain ⟨theirs, wired', listed⟩ := proper
  rcases edit_end studio sound.coherent control setting with ⟨error, refused⟩ | ⟨c, i, wiring, value, takes, done⟩
  · rw [refused]
    exact .refl index own studio
  have heard := listed_follows sound wired' control listed c takes.member takes.own
  obtain rfl : i = other := by simpa [takes.heard] using heard
  have material : wiring.material ≠ own.material := by
    intro same
    exact apart (sound.coherent.engine.material_apart i index wiring own takes.wired wired same)
  rw [done]
  refine ⟨?_, fun name => ?_, ?_, fun id mine => ?_, rfl, rfl⟩
  · simp [deliver, setControl, apart]
  · change studio.engine.uniform? own.material name =
      (studio.engine.write wiring.material c.spec.key value).uniform? own.material name
    rw [Engine.uniform_write, if_neg fun both => material both.1.symm]
  · change writesOn own.material studio.engine =
      writesOn own.material (studio.engine.write wiring.material c.spec.key value)
    rw [writes_on_write, if_neg material, List.append_nil]
  · change studio.panel.control? id = (studio.panel.updateControl control ({ · with setting := setting })).control? id
    rw [control_set]
    cases found : studio.panel.control? id with
    | none => rfl
    | some c' =>
        obtain ⟨present, number⟩ := (sound.homed.tidy.control_iff id c').mp found
        have different : c'.id ≠ control := by
          intro same
          have mineHeard := listed_follows sound wired id mine c' present number
          rw [listed_follows sound wired' control listed c' present same] at mineHeard
          exact apart (by simpa using mineHeard)
        rw [Option.map_some, if_neg different]

-- The controls that leave with a section stand in it, and ours stand in another one.
theorem foreign_leave (other : Nat) (apart : other ≠ index) :
    Alike index own studio (studio.dispose true false other) := by
  unfold dispose
  split
  · exact .refl index own studio
  next theirs live =>
  split
  · exact .refl index own studio
  rw [if_neg (by simp), if_neg (by simp)]
  have wired' : studio.wirings[other]? = some theirs.wiring := by
    rw [wirings, List.getElem?_map, live, Option.map_some]
  refine ⟨?_, fun _ => rfl, rfl, fun id mine => ?_, rfl, ?_⟩
  · simp [updateShader, apart]
  · cases home : theirs.section_ with
    | none => rfl
    | some gone =>
        change studio.panel.control? id = (studio.panel.disposeSection gone).control? id
        rw [control_dispose_section studio.panel sound.homed.tidy]
        cases found : studio.panel.control? id with
        | none => rfl
        | some c =>
            obtain ⟨present, number⟩ := (sound.homed.tidy.control_iff id c).mp found
            have heard := listed_follows sound wired id mine c present number
            have lives := sound.homed.lives c present index own heard wired
            have elsewhere : c.section_ ≠ gone := by
              rintro rfl
              exact apart (sound.homed.apart other index theirs.wiring own c.section_ wired' wired home lives)
            simp [Option.filter, elsewhere]
  · cases theirs.section_ with
    | none => rfl
    | some gone => exact (congrArg Panel.disposed (sound.homed.tidy.dispose_section gone)).symm

theorem foreign_deed (deed : Deed) (other : Nat) (theirs : deed.shader? = some other) (apart : other ≠ index)
    (proper : deed.Proper studio) : Alike index own studio (step studio deed.act) := by
  cases deed with
  | edit shader control setting =>
      obtain rfl := Option.some.inj theirs
      exact foreign_edit sound wired shader apart control setting proper
  | leave shader =>
      obtain rfl := Option.some.inj theirs
      exact foreign_leave sound wired shader apart
  | frame scene => cases theirs

end

section

variable {index : Nat} {own : Wiring} {one two : PlainStudio} (alike : Alike index own one two)

include alike

theorem same_answer (control : ControlId) (setting : Setting) (listed : control ∈ own.controls.map (·.2)) :
    (edit control setting one).1 = (edit control setting two).1 := by
  have answered : ∀ studio : PlainStudio,
      (edit control setting studio).1 = (studio.panel.edit control setting).map fun _ => () := by
    intro studio
    simp only [edit, editWhile]
    rw [show EditHost.edit control setting studio.panel = studio.panel.edit control setting from rfl]
    cases studio.panel.edit control setting <;> rfl
  rw [answered, answered, Panel.edit, Panel.edit, alike.disposed, alike.controls control listed]
  by_cases gone : two.panel.disposed = true
  · rw [if_pos gone, if_pos gone]
  rw [if_neg gone, if_neg gone]
  cases two.panel.control? control with
  | none => rfl
  | some c =>
      dsimp only
      split <;> rfl

variable (sound : Sound one) (sound' : Sound two)

include sound sound'

theorem own_leave : Alike index own (one.dispose true false index) (two.dispose true false index) := by
  unfold dispose
  rw [alike.shader]
  cases live : two.shaders[index]? with
  | none => exact alike
  | some shader =>
      dsimp only
      by_cases spent : (shader.panelDisposed || (!false && shader.sectionDisposed)) = true
      · rw [if_pos spent, if_pos spent]
        exact alike
      rw [if_neg spent, if_neg spent]
      refine ⟨?_, alike.slots, alike.writes, fun id mine => ?_, alike.hooks, ?_⟩
      · simp [updateShader, alike.shader]
      · cases shader.section_ with
        | none => exact alike.controls id mine
        | some home =>
            change (one.panel.disposeSection home).control? id = (two.panel.disposeSection home).control? id
            rw [control_dispose_section one.panel sound.homed.tidy, control_dispose_section two.panel sound'.homed.tidy,
              alike.controls id mine]
      · cases shader.section_ with
        | none => exact alike.disposed
        | some home =>
            change (one.panel.disposeSection home).disposed = (two.panel.disposeSection home).disposed
            rw [sound.homed.tidy.dispose_section home, sound'.homed.tidy.dispose_section home]
            exact alike.disposed

variable (wired : one.wirings[index]? = some own) (wired' : two.wirings[index]? = some own)

include wired wired'

theorem own_edit (control : ControlId) (setting : Setting) (listed : control ∈ own.controls.map (·.2)) :
    Alike index own (edit control setting one).2 (edit control setting two).2 := by
  have answer := same_answer alike control setting listed
  rcases edit_end one sound.coherent control setting with ⟨error, refused⟩ | ⟨c, i, wiring, value, takes, done⟩ <;>
    rcases edit_end two sound'.coherent control setting with ⟨error', refused'⟩ | ⟨c', i', wiring', value', takes', done'⟩
  · rw [refused, refused']
    exact alike
  · rw [refused, done'] at answer
    cases answer
  · rw [done, refused'] at answer
    cases answer
  · have found := (sound.homed.tidy.control_iff control c).mpr ⟨takes.member, takes.own⟩
    have found' := (sound'.homed.tidy.control_iff control c').mpr ⟨takes'.member, takes'.own⟩
    rw [alike.controls control listed, found'] at found
    obtain rfl := Option.some.inj found
    obtain rfl : i = index := by
      simpa [takes.heard] using listed_follows sound wired control listed c' takes.member takes.own
    obtain rfl : i' = i := by
      simpa [takes'.heard] using listed_follows sound' wired' control listed c' takes'.member takes'.own
    obtain rfl : own = wiring := Option.some.inj (wired.symm.trans takes.wired)
    obtain rfl : own = wiring' := Option.some.inj (wired'.symm.trans takes'.wired)
    obtain rfl : value = value' := Option.some.inj (takes.written.symm.trans takes'.written)
    rw [done, done']
    exact (alike.set control setting).deliver i' own.material c'.spec.key value

theorem own_deed (deed : Deed) (mine : ∀ other, deed.shader? = some other → other = index) (proper : deed.Proper one) :
    Alike index own (step one deed.act) (step two deed.act) := by
  cases deed with
  | edit shader control setting =>
      obtain rfl := mine shader rfl
      obtain ⟨own', wired'', listed⟩ := proper
      obtain rfl := Option.some.inj (wired''.symm.trans wired)
      exact own_edit alike sound sound' wired wired' control setting listed
  | leave shader =>
      obtain rfl := mine shader rfl
      exact own_leave alike sound sound'
  | frame scene => exact alike.frame sound.coherent scene

end

theorem answers_append (index : Nat) (early late : List (Nat × Except PanelError Unit)) :
    answersTo index (early ++ late) = answersTo index early ++ answersTo index late := by
  simp [answersTo]

theorem foreign_reply (index : Nat) (studio : PlainStudio) (deed : Deed) (other : Nat)
    (theirs : deed.shader? = some other) (apart : other ≠ index) : answersTo index (deed.reply studio) = [] := by
  cases deed with
  | edit shader control setting =>
      obtain rfl := Option.some.inj theirs
      simp [answersTo, Deed.reply, apart]
  | leave shader => rfl
  | frame scene => rfl

theorem Deed.Proper.same {one two : PlainStudio} {deed : Deed} (proper : deed.Proper one)
    (wirings : one.wirings = two.wirings) : deed.Proper two := by
  cases deed with
  | edit shader control setting =>
      rw [Deed.Proper, ← wirings]
      exact proper
  | leave shader => trivial
  | frame scene => trivial

theorem same_reply (index : Nat) (own : Wiring) (one two : PlainStudio) (alike : Alike index own one two)
    (wired : one.wirings[index]? = some own) (deed : Deed) (proper : deed.Proper one) :
    answersTo index (deed.reply one) = answersTo index (deed.reply two) := by
  cases deed with
  | edit shader control setting =>
      by_cases mine : shader = index
      · subst mine
        obtain ⟨own', wired', listed⟩ := proper
        obtain rfl := Option.some.inj (wired'.symm.trans wired)
        rw [Deed.reply, Deed.reply, same_answer alike control setting listed]
      · rw [foreign_reply index one _ shader rfl mine, foreign_reply index two _ shader rfl mine]
  | leave shader => rfl
  | frame scene => rfl

theorem deed_alike (index : Nat) (own : Wiring) (one two : PlainStudio) (sound : Sound one) (sound' : Sound two)
    (same : one.wirings = two.wirings) (wired : one.wirings[index]? = some own) (alike : Alike index own one two)
    (deed : Deed) (proper : deed.Proper one) : Alike index own (step one deed.act) (step two deed.act) := by
  have wired' : two.wirings[index]? = some own := by
    rw [← same]
    exact wired
  by_cases foreign : ∃ other, deed.shader? = some other ∧ other ≠ index
  · obtain ⟨other, theirs, apart⟩ := foreign
    have proper' : deed.Proper two := proper.same same
    have before := foreign_deed sound wired deed other theirs apart proper
    have after := foreign_deed sound' wired' deed other theirs apart proper'
    exact (before.symm.trans alike).trans after
  · have mine : ∀ other, deed.shader? = some other → other = index := by
      intro other theirs
      by_contra apart
      exact foreign ⟨other, theirs, apart⟩
    exact own_deed alike sound sound' wired wired' deed mine proper

theorem carry_out_alike (index other : Nat) (apart : other ≠ index) (own : Wiring) (deeds : List Deed)
    (one two : PlainStudio) (sound : Sound one) (sound' : Sound two) (same : one.wirings = two.wirings)
    (wired : one.wirings[index]? = some own) (proper : ∀ deed ∈ deeds, deed.Proper one)
    (alike : Alike index own one two) :
    let together := carryOut deeds one
    let alone := carryOut (deeds.filter (·.shader? ≠ some other)) two
    Alike index own together.2 alone.2 ∧ answersTo index together.1 = answersTo index alone.1 := by
  induction deeds generalizing one two with
  | nil => exact ⟨alike, rfl⟩
  | cons deed rest ih =>
      have now := proper deed List.mem_cons_self
      have kept := wirings_deed deed one
      have later : ∀ deed' ∈ rest, deed'.Proper (step one deed.act) :=
        fun deed' member => (proper deed' (List.mem_cons_of_mem _ member)).same kept.symm
      have wired' : (step one deed.act).wirings[index]? = some own := by
        rw [kept]
        exact wired
      by_cases removed : deed.shader? = some other
      · have stepped := (foreign_deed sound wired deed other removed apart now).symm.trans alike
        obtain ⟨final, answers⟩ :=
          ih (step one deed.act) two (sound.act deed.act) sound' (kept.trans same) wired' later stepped
        rw [List.filter_cons_of_neg (by simpa using removed)]
        refine ⟨final, ?_⟩
        rw [carryOut, answers_append, foreign_reply index one deed other removed apart]
        exact answers
      · have stepped := deed_alike index own one two sound sound' same wired alike deed now
        obtain ⟨final, answers⟩ := ih (step one deed.act) (step two deed.act) (sound.act deed.act) (sound'.act deed.act)
          (kept.trans (same.trans (wirings_deed deed two).symm)) wired' later stepped
        rw [List.filter_cons_of_pos (by simpa using removed)]
        refine ⟨final, ?_⟩
        rw [carryOut, carryOut, answers_append, answers_append, same_reply index own one two alike wired deed now]
        exact congrArg (_ ++ ·) answers

theorem wirings_carry_out (deeds : List Deed) (studio : PlainStudio) : (carryOut deeds studio).2.wirings = studio.wirings := by
  induction deeds generalizing studio with
  | nil => rfl
  | cons deed rest ih => exact (ih (step studio deed.act)).trans (wirings_deed deed studio)

theorem neighbours_apart (lastProgram : Nat) (acts : List Act) (index other : Nat) (apart : other ≠ index)
    (mine : LiveShader) (live : (perform acts (fresh lastProgram)).shaders[index]? = some mine) (deeds : List Deed)
    (proper : ∀ deed ∈ deeds, deed.Proper (perform acts (fresh lastProgram))) :
    let studio := perform acts (fresh lastProgram)
    let together := carryOut deeds studio
    let alone := carryOut (deeds.filter (·.shader? ≠ some other)) studio
    ∃ share, share? index together.2 = some share ∧ share? index alone.2 = some share ∧
      share.shader.wiring = mine.wiring ∧ answersTo index together.1 = answersTo index alone.1 := by
  intro studio together alone
  have blank := fresh_coherent lastProgram
  have sound : Sound studio :=
    ⟨(perform_onward acts _ blank).coherent, perform_homed acts _ blank (fresh_homed lastProgram)⟩
  have wired : studio.wirings[index]? = some mine.wiring := by
    rw [wirings, List.getElem?_map, show studio.shaders[index]? = some mine from live, Option.map_some]
  obtain ⟨alike, answers⟩ := carry_out_alike index other apart mine.wiring deeds studio studio sound sound rfl wired proper
    (.refl index mine.wiring studio)
  rw [← wirings_carry_out deeds studio] at wired
  obtain ⟨shader, live', same⟩ := wirings_get together.2 index mine.wiring wired
  obtain ⟨share, one, two, own⟩ := alike.share shader live' same
  exact ⟨share, one, two, (congrArg LiveShader.wiring own).trans same, answers⟩

-- Two shaders of one kind: the right one comes and goes, and the left one never knows.
theorem left_gain_apart :
    let options := gainOptions.withTimeUniform "time"
    let studio := perform [.build "left" ⟨1⟩ options, .build "right" ⟨1⟩ options] (fresh 0)
    let together := carryOut [.edit 1 ⟨4⟩ (.int 3), .edit 0 ⟨2⟩ (.int 5), .frame ⟨1⟩, .leave 1, .edit 1 ⟨4⟩ (.int 7),
      .edit 0 ⟨2⟩ (.bool true)] studio
    let alone := carryOut [.edit 0 ⟨2⟩ (.int 5), .frame ⟨1⟩, .edit 0 ⟨2⟩ (.bool true)] studio
    ∃ share, share? 0 together.2 = some share ∧ share? 0 alone.2 = some share ∧
      answersTo 0 together.1 = answersTo 0 alone.1 := by
  intro options studio together alone
  have lists : studio.wirings.map (fun wiring => wiring.controls.map (·.2)) = [[⟨2⟩], [⟨4⟩]] := by
    decide +kernel
  have listed : ∀ (index : Nat) (id : ControlId), [[⟨2⟩], [⟨4⟩]][index]? = some [id] →
      ∃ own, studio.wirings[index]? = some own ∧ id ∈ own.controls.map (·.2) := by
    intro index id entry
    rw [← lists, List.getElem?_map] at entry
    obtain ⟨own, wired, same⟩ := Option.map_eq_some_iff.mp entry
    exact ⟨own, wired, same ▸ List.mem_cons_self⟩
  obtain ⟨_, wired, _⟩ := listed 0 ⟨2⟩ rfl
  obtain ⟨mine, live, _⟩ := wirings_get studio 0 _ wired
  obtain ⟨share, one, two, _, answers⟩ := neighbours_apart 0 [.build "left" ⟨1⟩ options, .build "right" ⟨1⟩ options] 0 1
    (by decide) mine live [.edit 1 ⟨4⟩ (.int 3), .edit 0 ⟨2⟩ (.int 5), .frame ⟨1⟩, .leave 1, .edit 1 ⟨4⟩ (.int 7),
      .edit 0 ⟨2⟩ (.bool true)] (by
        intro deed member
        simp only [List.mem_cons, List.not_mem_nil, or_false] at member
        rcases member with rfl | rfl | rfl | rfl | rfl | rfl
        · exact listed 1 ⟨4⟩ rfl
        · exact listed 0 ⟨2⟩ rfl
        · trivial
        · trivial
        · exact listed 1 ⟨4⟩ rfl
        · exact listed 0 ⟨2⟩ rfl)
  exact ⟨share, one, two, answers⟩

end Studio

end ShaderKnobs
