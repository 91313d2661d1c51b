import ShaderKnobs.Proofs.Studio.Neighbours

set_option autoImplicit false

namespace ShaderKnobs

/-- What a shader knows of its controls: which it was given, and what it has disposed of. -/
structure Mark where
  controls : List (String × ControlId)
  section_ : Bool
  panel : Bool

def LiveShader.mark (shader : LiveShader) : Mark :=
  ⟨shader.controls, shader.sectionDisposed, shader.panelDisposed⟩

def Mark.gone (mark : Mark) : Bool := mark.section_ || mark.panel

def Mark.dispose (all : Bool) (mark : Mark) : Mark := { mark with section_ := true, panel := mark.panel || all }

-- Whoever has disposed of the panel knows that it is gone; controls are gone with their section or with the
-- panel, and never otherwise.
structure Truthful (marks : List Mark) (panel : Panel) : Prop where
  whole : ∀ (index : Nat) (mark : Mark), marks[index]? = some mark → mark.panel = true → panel.disposed = true
  settled : ∀ (index : Nat) (mark : Mark), marks[index]? = some mark → ∀ entry ∈ mark.controls,
    panel.control? entry.2 = none ↔ mark.gone = true ∨ panel.disposed = true

theorem Truthful.same {marks : List Mark} {before after : Panel} (truthful : Truthful marks before)
    (disposed : after.disposed = before.disposed)
    (controls : ∀ id, after.control? id = none ↔ before.control? id = none) : Truthful marks after where
  whole := by
    rw [disposed]
    exact truthful.whole
  settled index mark marked entry listed := by
    rw [disposed, controls]
    exact truthful.settled index mark marked entry listed

structure Provided (controls : List (String × ControlId)) (before after : Panel) : Prop where
  disposed : after.disposed = before.disposed
  older : ∀ id : ControlId, id.number ≤ before.lastId → after.control? id = before.control? id
  made : ∀ entry ∈ controls, after.control? entry.2 ≠ none
  alive : ∀ entry ∈ controls, before.disposed = false

theorem mark_added (marks : List Mark) (fresh mark : Mark) (index : Nat)
    (marked : (marks ++ [fresh])[index]? = some mark) : marks[index]? = some mark ∨ mark = fresh := by
  by_cases old : index < marks.length
  · rw [List.getElem?_append_left old] at marked
    exact .inl marked
  · rw [List.getElem?_append_right (Nat.le_of_not_lt old)] at marked
    exact .inr (List.mem_singleton.mp (List.mem_of_getElem? marked))

namespace Studio

def marks (studio : PlainStudio) : List Mark := studio.shaders.map (·.mark)

theorem marks_update (index : Nat) (f : LiveShader → LiveShader) (g : Mark → Mark) (studio : PlainStudio)
    (marked : ∀ shader, (f shader).mark = g shader.mark) :
    (studio.updateShader index f).marks = studio.marks.modify index g := by
  apply List.ext_getElem?
  intro i
  simp only [marks, updateShader, List.getElem?_map, List.getElem?_modify]
  cases studio.shaders[i]? with
  | none => rfl
  | some shader =>
      by_cases here : index = i
      · simp [here, marked]
      · simp [here]

theorem marks_assign (index : Nat) (name : String) (value : SlotValue) (studio : PlainStudio) :
    (studio.updateShader index (·.assign name value)).marks = studio.marks := by
  rw [marks_update index (·.assign name value) id studio fun _ => rfl, List.modify_id]

def leave (home : Option SectionId) (panel : Panel) : Panel :=
  match home with
  | some home => panel.disposeSection home
  | none => panel

inductive DisposeEnd (index : Nat) (studio : PlainStudio) : Bool → PlainStudio → Prop where
  | spent (all : Bool) (done : ∀ mark, studio.marks[index]? = some mark →
      mark.panel = true ∨ (all = false ∧ mark.section_ = true)) : DisposeEnd index studio all studio
  | whole (after : PlainStudio) (within : index < studio.shaders.length) (panel : after.panel = studio.panel.dispose)
      (marks : after.marks = studio.marks.modify index (.dispose true)) : DisposeEnd index studio true after
  | part (after : PlainStudio) (wiring : Wiring) (wired : studio.wirings[index]? = some wiring)
      (panel : after.panel = leave wiring.section_ studio.panel)
      (marks : after.marks = studio.marks.modify index (.dispose false)) : DisposeEnd index studio false after

theorem dispose_end (all : Bool) (index : Nat) (studio : PlainStudio) :
    DisposeEnd index studio all (studio.dispose true all index) := by
  unfold dispose
  cases live : studio.shaders[index]? with
  | none =>
      apply DisposeEnd.spent
      intro mark marked
      simp [marks, live] at marked
  | some shader =>
      dsimp only
      by_cases spent : (shader.panelDisposed || (!all && shader.sectionDisposed)) = true
      · rw [if_pos spent]
        apply DisposeEnd.spent
        intro mark marked
        obtain rfl : shader.mark = mark := by simpa [marks, live] using marked
        simpa [LiveShader.mark] using spent
      rw [if_neg spent, if_neg (by simp)]
      cases all with
      | true =>
          apply DisposeEnd.whole _ (List.getElem?_eq_some_iff.mp live).1 rfl
          exact marks_update index _ _ _ fun shader => by simp [LiveShader.mark, Mark.dispose]
      | false =>
          have wired : studio.wirings[index]? = some shader.wiring := by
            rw [wirings, List.getElem?_map, live, Option.map_some]
          apply DisposeEnd.part _ shader.wiring wired rfl
          exact marks_update index _ _ _ fun shader => by simp [LiveShader.mark, Mark.dispose]

theorem mark_wiring (studio : PlainStudio) (index : Nat) (mark : Mark) (marked : studio.marks[index]? = some mark) :
    ∃ own, studio.wirings[index]? = some own ∧ own.controls = mark.controls := by
  rw [marks, List.getElem?_map] at marked
  obtain ⟨shader, live, rfl⟩ := Option.map_eq_some_iff.mp marked
  exact ⟨shader.wiring, by rw [wirings, List.getElem?_map, live, Option.map_some], rfl⟩

theorem mark_disposed (studio : PlainStudio) (index other : Nat) (all : Bool) (mark : Mark)
    (marked : (studio.marks.modify index (.dispose all))[other]? = some mark) :
    ∃ old, studio.marks[other]? = some old ∧ mark = if index = other then old.dispose all else old := by
  rw [List.getElem?_modify] at marked
  obtain ⟨old, found, rfl⟩ := Option.map_eq_some_iff.mp marked
  exact ⟨old, found, rfl⟩

-- Counters change values, which no mark tells of.
theorem run_hooks_marks (scene : SceneId) (wirings : List Wiring) (hooks : List (SceneId × FrameHook))
    (studio : PlainStudio) (ticking : ∀ entry ∈ hooks, Ticks wirings entry.2) :
    (runHooks scene hooks studio).2.marks = studio.marks := by
  induction hooks generalizing studio with
  | nil => rfl
  | cons entry rest ih =>
      obtain ⟨home, hook⟩ := entry
      have later := fun studio => ih studio fun entry member => ticking entry (List.mem_cons_of_mem _ member)
      obtain ⟨index, material, name, frame, rfl⟩ := (ticking _ List.mem_cons_self).counter
      simp only [runHooks]
      split
      · exact (later _).trans (marks_assign index name _ studio)
      · exact later studio

structure Kept (before after : PlainStudio) : Prop where
  marks : after.marks = before.marks
  disposed : after.panel.disposed = before.panel.disposed
  controls : ∀ id, after.panel.control? id = none ↔ before.panel.control? id = none

theorem Kept.aside {before after : PlainStudio} (marks : after.marks = before.marks)
    (panel : after.panel = before.panel) : Kept before after := by
  refine ⟨marks, ?_, fun id => ?_⟩
  · rw [panel]
  · rw [panel]

theorem Kept.still (studio : PlainStudio) : Kept studio studio := .aside rfl rfl

def Act.disposes (index : Nat) : Act → Bool
  | .dispose _ other => other = index
  | _ => false

inductive ActEnd (studio : PlainStudio) : Act → PlainStudio → Prop where
  | kept (next : Act) (after : PlainStudio) (kept : Kept studio after)
      (silent : ∀ index, next.disposes index = false) : ActEnd studio next after
  | built (name : String) (scene : SceneId) (options : Options) (after : PlainStudio)
      (controls : List (String × ControlId)) (marks : after.marks = studio.marks ++ [⟨controls, false, false⟩])
      (provided : Provided controls studio.panel after.panel) : ActEnd studio (.build name scene options) after
  | disposed (all : Bool) (index : Nat) (after : PlainStudio) (ending : DisposeEnd index studio all after) :
      ActEnd studio (.dispose all index) after

theorem dispose_mark (studio : PlainStudio) (all : Bool) (other : Nat) (after : PlainStudio)
    (ending : DisposeEnd other studio all after) (index : Nat) (mark : Mark)
    (marked : studio.marks[index]? = some mark) :
    ∃ now, after.marks[index]? = some now ∧ now.controls = mark.controls ∧
      now.gone = (mark.gone || decide (other = index)) := by
  have changed (all : Bool) (marks : after.marks = studio.marks.modify other (.dispose all)) :
      ∃ now, after.marks[index]? = some now ∧ now.controls = mark.controls ∧
        now.gone = (mark.gone || decide (other = index)) := by
    refine ⟨if other = index then mark.dispose all else mark, ?_, ?_, ?_⟩
    · rw [marks, List.getElem?_modify, marked]
      rfl
    · by_cases here : other = index <;> simp [here, Mark.dispose]
    · by_cases here : other = index <;> simp [here, Mark.dispose, Mark.gone]
  cases ending with
  | spent all done =>
      refine ⟨mark, marked, rfl, ?_⟩
      by_cases here : other = index
      · rcases done mark (here ▸ marked) with whole | ⟨_, part⟩
        · simp [Mark.gone, whole]
        · simp [Mark.gone, part]
      · simp [here]
  | whole after within panel marks => exact changed true marks
  | part after wiring wired panel marks => exact changed false marks

section

variable {studio : PlainStudio} (sound : Sound studio)

include sound

theorem listed_home {index : Nat} {own : Wiring} (wired : studio.wirings[index]? = some own)
    (entry : String × ControlId) (listed : entry ∈ own.controls) (c : Control)
    (found : studio.panel.control? entry.2 = some c) : own.section_ = some c.section_ := by
  obtain ⟨present, number⟩ := (sound.homed.tidy.control_iff entry.2 c).mp found
  have heard := listed_follows sound wired entry.2 (List.mem_map_of_mem listed) c present number
  exact sound.homed.lives c present index own heard wired

theorem leave_disposed (home : Option SectionId) : (leave home studio.panel).disposed = studio.panel.disposed := by
  cases home with
  | none => rfl
  | some home =>
      rw [leave, sound.homed.tidy.dispose_section home]

theorem leave_controls {index other : Nat} {own theirs : Wiring} (wired : studio.wirings[index]? = some own)
    (wired' : studio.wirings[other]? = some theirs) (entry : String × ControlId) (listed : entry ∈ theirs.controls) :
    (leave own.section_ studio.panel).control? entry.2 = none ↔
      index = other ∨ studio.panel.control? entry.2 = none := by
  cases found : studio.panel.control? entry.2 with
  | none =>
      refine ⟨fun _ => .inr rfl, fun _ => ?_⟩
      cases own.section_ with
      | none => exact found
      | some home => rw [leave, control_dispose_section _ sound.homed.tidy, found, Option.filter_none]
  | some c =>
      have home := listed_home sound wired' entry listed c found
      cases opened : own.section_ with
      | none =>
          have apart : index ≠ other := by
            rintro rfl
            obtain rfl := Option.some.inj (wired.symm.trans wired')
            rw [opened] at home
            cases home
          simp [leave, found, apart]
      | some gone =>
          have here : c.section_ = gone ↔ index = other := by
            constructor
            · rintro rfl
              exact sound.homed.apart index other own theirs c.section_ wired wired' opened home
            · rintro rfl
              obtain rfl := Option.some.inj (wired.symm.trans wired')
              exact Option.some.inj (home.symm.trans opened)
          rw [leave, control_dispose_section _ sound.homed.tidy, found]
          simp [Option.filter, here]

theorem dispose_truthful (truthful : Truthful studio.marks studio.panel) (all : Bool) (index : Nat)
    (after : PlainStudio) (ending : DisposeEnd index studio all after) : Truthful after.marks after.panel := by
  cases ending with
  | spent all done => exact truthful
  | whole after within panel marks =>
      rw [panel]
      refine ⟨fun _ _ _ _ => rfl, fun _ _ _ _ _ => ⟨fun _ => .inr rfl, fun _ => rfl⟩⟩
  | part after wiring wired panel marks =>
      rw [panel, marks]
      refine ⟨fun other mark marked whole => ?_, fun other mark marked entry listed => ?_⟩
      · obtain ⟨old, found, rfl⟩ := mark_disposed studio index other false mark marked
        rw [leave_disposed sound]
        apply truthful.whole other old found
        by_cases here : index = other
        · simpa [if_pos here, Mark.dispose] using whole
        · simpa [if_neg here] using whole
      · obtain ⟨old, found, rfl⟩ := mark_disposed studio index other false mark marked
        obtain ⟨theirs, wired', controls⟩ := mark_wiring studio other old found
        have listed : entry ∈ old.controls := by
          by_cases here : index = other
          · simpa [if_pos here, Mark.dispose] using listed
          · simpa [if_neg here] using listed
        rw [leave_disposed sound, leave_controls sound wired wired' entry (controls ▸ listed),
          truthful.settled other old found entry listed]
        by_cases here : index = other
        · simp [here, Mark.dispose, Mark.gone]
        · simp [here]

theorem dispose_disposed (truthful : Truthful studio.marks studio.panel) (all : Bool) (index : Nat)
    (after : PlainStudio) (ending : DisposeEnd index studio all after) : after.panel.disposed = true ↔
      studio.panel.disposed = true ∨ (all = true ∧ index < studio.shaders.length) := by
  cases ending with
  | spent all done =>
      constructor
      · exact .inl
      · rintro (gone | ⟨rfl, within⟩)
        · exact gone
        have marked : studio.marks[index]? = some (studio.shaders[index].mark) := by
          rw [marks, List.getElem?_map, List.getElem?_eq_getElem within, Option.map_some]
        rcases done _ marked with whole | ⟨never, _⟩
        · exact truthful.whole index _ marked whole
        · cases never
  | whole after within panel marks =>
      rw [panel]
      exact ⟨fun _ => .inr ⟨rfl, within⟩, fun _ => rfl⟩
  | part after wiring wired panel marks =>
      rw [panel, leave_disposed sound wiring.section_]
      simp

theorem edit_kept (control : ControlId) (setting : Setting) : Kept studio (edit control setting studio).2 := by
  rcases edit_end studio sound.coherent control setting with ⟨error, refused⟩ | ⟨c, index, wiring, value, takes, done⟩
  · rw [refused]
    exact .still studio
  · rw [done]
    refine ⟨marks_assign index c.spec.key value studio, rfl, fun id => ?_⟩
    change (studio.panel.updateControl control ({ · with setting := setting })).control? id = none ↔ _
    rw [control_set, Option.map_eq_none_iff]

theorem build_provides (name : String) (scene : SceneId) (options : Options) (after : PlainStudio) (index : Nat)
    (success : build name scene options studio = (.ok index, after)) :
    index = studio.marks.length ∧ ∃ controls, after.marks = studio.marks ++ [⟨controls, false, false⟩] ∧
      Provided controls studio.panel after.panel := by
  have tidy := (built_homed name scene options studio after index sound.coherent sound.homed success).tidy
  have ending := build_end name scene options studio
  rw [success] at ending
  cases ending with
  | built plan program material between engine notices drawn registered created =>
      let specs := plan.tunables.map (·.controlSpec)
      let made := makeSection name specs studio.panel
      let panel := attachAll studio.shaders.length made.1.2 made.2
      obtain ⟨gained, listed, grown, _, controls⟩ :=
        built_controls name studio.shaders.length specs studio.panel sound.coherent.panel.bounded
      have tidy : panel.Tidy := tidy
      have disposed : panel.disposed = studio.panel.disposed :=
        (attach_all_disposed studio.shaders.length made.1.2 made.2).trans (make_section_disposed name specs studio.panel)
      have live : ∀ entry ∈ made.1.2, ∃ c, panel.control? entry.2 = some c := by
        intro entry member
        rw [show made.1.2 = _ from listed] at member
        obtain ⟨own, present, rfl⟩ := List.mem_map.mp member
        refine ⟨own.following studio.shaders.length, (tidy.control_iff own.id _).mpr ⟨?_, rfl⟩⟩
        rw [show panel.controls = _ from controls]
        exact List.mem_append_right _ (List.mem_map_of_mem present)
      refine ⟨(List.length_map ..).symm, made.1.2, List.map_append, disposed, fun id bound => ?_, ?_, ?_⟩
      · have absent : (gained.map (Control.following studio.shaders.length)).find? (·.id = id) = none := by
          rw [List.find?_eq_none]
          intro c added same
          obtain ⟨own, present, rfl⟩ := List.mem_map.mp added
          exact grown.id_fresh own present id bound (of_decide_eq_true same)
        change panel.control? id = _
        rw [Panel.control?, controls, List.find?_append, absent, Option.or_none]
        rfl
      · intro entry member gone
        obtain ⟨c, found⟩ := live entry member
        cases found.symm.trans gone
      · intro entry member
        obtain ⟨c, found⟩ := live entry member
        rw [← disposed, ← Bool.not_eq_true]
        intro shut
        rw [Panel.control?, (tidy.shut shut).2] at found
        cases found

theorem provided_truthful (truthful : Truthful studio.marks studio.panel) (controls : List (String × ControlId))
    (panel : Panel) (provided : Provided controls studio.panel panel) :
    Truthful (studio.marks ++ [⟨controls, false, false⟩]) panel := by
  refine ⟨fun other mark marked whole => ?_, fun other mark marked entry listed => ?_⟩
  · rw [provided.disposed]
    rcases mark_added _ _ mark other marked with old | rfl
    · exact truthful.whole other mark old whole
    · cases whole
  · rw [provided.disposed]
    rcases mark_added _ _ mark other marked with old | rfl
    · obtain ⟨theirs, wired, same⟩ := mark_wiring studio other mark old
      have bound := (sound.coherent.panel.listed other theirs entry wired (same ▸ listed)).1
      rw [provided.older entry.2 bound]
      exact truthful.settled other mark old entry listed
    · rw [provided.alive entry listed]
      exact ⟨fun gone => absurd gone (provided.made entry listed), fun marked => by cases marked <;> contradiction⟩

theorem frame_kept (scene : SceneId) : Kept studio (renderFrame scene studio) := by
  have ticking := sound.coherent.engine.ticking
  have marks := run_hooks_marks scene studio.wirings studio.engine.hooks studio ticking
  have panel := run_hooks_panel scene studio.wirings studio.engine.hooks studio ticking
  exact .aside marks panel

theorem step_end (next : Act) : ActEnd studio next (step studio next) := by
  cases next with
  | build name scene options =>
      cases result : build name scene options studio with
      | mk answer after =>
          rw [step, result]
          cases answer with
          | error error =>
              obtain ⟨panel, shaders, _⟩ := failed_build_frame name scene options error studio after result
              exact .kept _ _ (.aside (congrArg (List.map LiveShader.mark) shaders) panel) fun _ => rfl
          | ok index =>
              obtain ⟨_, controls, marks, provided⟩ := build_provides sound name scene options after index result
              exact .built name scene options after controls marks provided
  | edit control setting => exact .kept _ _ (edit_kept sound control setting) fun _ => rfl
  | frame scene => exact .kept _ _ (frame_kept sound scene) fun _ => rfl
  | dispose all index => exact .disposed all index _ (dispose_end all index studio)

theorem step_truthful (truthful : Truthful studio.marks studio.panel) (next : Act) :
    Truthful (step studio next).marks (step studio next).panel := by
  have ending := step_end sound next
  generalize step studio next = after at ending
  cases ending with
  | kept next after kept silent =>
      rw [kept.marks]
      exact truthful.same kept.disposed kept.controls
  | built name scene options after controls marks provided =>
      rw [marks]
      exact provided_truthful sound truthful controls after.panel provided
  | disposed all index after ending => exact dispose_truthful sound truthful all index after ending

theorem step_mark (next : Act) (index : Nat) (mark : Mark) (marked : studio.marks[index]? = some mark) :
    ∃ now, (step studio next).marks[index]? = some now ∧ now.controls = mark.controls ∧
      now.gone = (mark.gone || next.disposes index) := by
  have ending := step_end sound next
  generalize step studio next = after at ending
  cases ending with
  | kept next after kept silent =>
      rw [kept.marks, silent index, Bool.or_false]
      exact ⟨mark, marked, rfl, rfl⟩
  | built name scene options after controls marks provided =>
      have within : index < studio.marks.length := (List.getElem?_eq_some_iff.mp marked).1
      rw [marks, List.getElem?_append_left within]
      exact ⟨mark, marked, rfl, (Bool.or_false _).symm⟩
  | disposed all other after ending => exact dispose_mark studio all other after ending index mark marked

theorem step_disposed (truthful : Truthful studio.marks studio.panel) (next : Act) :
    (step studio next).panel.disposed = true ↔
      studio.panel.disposed = true ∨ ∃ other, next = .dispose true other ∧ other < studio.shaders.length := by
  have others (silent : ∀ index, next.disposes index = false) :
      ¬∃ other, next = .dispose true other ∧ other < studio.shaders.length := by
    rintro ⟨other, rfl, _⟩
    simpa [Act.disposes] using silent other
  have ending := step_end sound next
  generalize step studio next = after at ending
  cases ending with
  | kept next after kept silent => rw [kept.disposed, or_iff_left (others silent)]
  | built name scene options after controls marks provided =>
      rw [provided.disposed, or_iff_left (others fun _ => rfl)]
  | disposed all index after ending =>
      rw [dispose_disposed sound truthful all index after ending]
      apply or_congr_right
      constructor
      · rintro ⟨rfl, within⟩
        exact ⟨index, rfl, within⟩
      · rintro ⟨other, disposal, within⟩
        obtain ⟨rfl, rfl⟩ := Act.dispose.inj disposal
        exact ⟨rfl, within⟩

end

theorem perform_truthful (acts : List Act) (studio : PlainStudio) (sound : Sound studio)
    (truthful : Truthful studio.marks studio.panel) :
    Sound (perform acts studio) ∧ Truthful (perform acts studio).marks (perform acts studio).panel := by
  induction acts generalizing studio with
  | nil => exact ⟨sound, truthful⟩
  | cons next rest ih => exact ih (step studio next) (sound.act next) (step_truthful sound truthful next)

theorem perform_mark (acts : List Act) (studio : PlainStudio) (sound : Sound studio) (index : Nat) (mark : Mark)
    (marked : studio.marks[index]? = some mark) :
    ∃ now, (perform acts studio).marks[index]? = some now ∧ now.controls = mark.controls ∧
      now.gone = (mark.gone || acts.any (·.disposes index)) := by
  induction acts generalizing studio mark with
  | nil => exact ⟨mark, marked, rfl, (Bool.or_false _).symm⟩
  | cons next rest ih =>
      obtain ⟨one, marked', controls, gone⟩ := step_mark sound next index mark marked
      obtain ⟨now, later, controls', gone'⟩ := ih (step studio next) (sound.act next) one marked'
      refine ⟨now, later, controls'.trans controls, ?_⟩
      rw [gone', gone, List.any_cons, Bool.or_assoc]

-- Some shader has disposed of the whole panel along the way.
def Torn (acts : List Act) (studio : PlainStudio) (shader : Nat → Prop) : Prop :=
  ∃ early other late, acts = early ++ .dispose true other :: late ∧ shader other ∧
    other < (perform early studio).shaders.length

theorem perform_disposed (acts : List Act) (studio : PlainStudio) (sound : Sound studio)
    (truthful : Truthful studio.marks studio.panel) :
    (perform acts studio).panel.disposed = true ↔ studio.panel.disposed = true ∨ Torn acts studio fun _ => True := by
  induction acts generalizing studio with
  | nil =>
      refine ⟨.inl, fun either => either.resolve_right ?_⟩
      rintro ⟨early, other, late, split, _⟩
      simp at split
  | cons next rest ih =>
      have later := ih (step studio next) (sound.act next) (step_truthful sound truthful next)
      rw [show perform (next :: rest) studio = perform rest (step studio next) from rfl, later,
        step_disposed sound truthful next]
      constructor
      · rintro ((gone | ⟨other, rfl, within⟩) | ⟨early, other, late, rfl, _, within⟩)
        · exact .inl gone
        · exact .inr ⟨[], other, rest, rfl, trivial, within⟩
        · exact .inr ⟨next :: early, other, late, rfl, trivial, within⟩
      · rintro (gone | ⟨early, other, late, split, _, within⟩)
        · exact .inl (.inl gone)
        · cases early with
          | nil =>
              obtain ⟨rfl, rfl⟩ := List.cons.inj split
              exact .inl (.inr ⟨other, rfl, within⟩)
          | cons first early =>
              obtain ⟨rfl, rfl⟩ := List.cons.inj split
              exact .inr ⟨early, other, late, rfl, trivial, within⟩

theorem fresh_truthful (lastProgram : Nat) :
    Sound (fresh lastProgram) ∧ Truthful (fresh lastProgram).marks (fresh lastProgram).panel := by
  refine ⟨⟨fresh_coherent lastProgram, fresh_homed lastProgram⟩, ?_, ?_⟩
  · intro index mark marked
    cases marked
  · intro index mark marked
    cases marked

theorem any_disposes (acts : List Act) (index : Nat) :
    acts.any (·.disposes index) = true ↔ ∃ all, .dispose all index ∈ acts := by
  rw [List.any_eq_true]
  constructor
  · rintro ⟨next, member, disposes⟩
    cases next with
    | dispose all other =>
        obtain rfl : other = index := of_decide_eq_true disposes
        exact ⟨all, member⟩
    | build _ _ _ => cases disposes
    | edit _ _ => cases disposes
    | frame _ => cases disposes
  · rintro ⟨all, member⟩
    exact ⟨_, member, decide_eq_true rfl⟩

theorem perform_settles (after : List Act) (studio : PlainStudio) (sound : Sound studio)
    (truthful : Truthful studio.marks studio.panel) (index : Nat) (controls : List (String × ControlId))
    (marked : studio.marks[index]? = some ⟨controls, false, false⟩)
    (alive : ∀ entry ∈ controls, studio.panel.disposed = false) :
    ∃ mark, (perform after studio).marks[index]? = some mark ∧ mark.controls = controls ∧
      (mark.gone = true ↔ ∃ all, .dispose all index ∈ after) ∧
      ∀ entry ∈ controls, (perform after studio).panel.control? entry.2 = none ↔
        mark.gone = true ∨ Torn after studio (· ≠ index) := by
  obtain ⟨mark, later, same, gone⟩ := perform_mark after studio sound index _ marked
  obtain ⟨_, truthful'⟩ := perform_truthful after studio sound truthful
  have own : mark.gone = true ↔ ∃ all, .dispose all index ∈ after := by
    rw [gone, ← any_disposes]
    exact Iff.rfl
  refine ⟨mark, later, same, own, fun entry listed => ?_⟩
  rw [truthful'.settled index mark later entry (same ▸ listed), perform_disposed after studio sound truthful,
    alive entry listed]
  constructor
  · rintro (marked | shut | ⟨early, other, late, rfl, _, within⟩)
    · exact .inl marked
    · cases shut
    · by_cases mine : other = index
      · exact .inl (own.mpr ⟨true, by simp [mine]⟩)
      · exact .inr ⟨early, other, late, rfl, mine, within⟩
  · rintro (marked | ⟨early, other, late, rfl, _, within⟩)
    · exact .inl marked
    · exact .inr (.inr ⟨early, other, late, rfl, trivial, within⟩)

theorem marked_unless_torn_by_others (lastProgram : Nat) (before : List Act) (name : String) (scene : SceneId)
    (options : Options) (index : Nat) (built : PlainStudio)
    (success : build name scene options (perform before (fresh lastProgram)) = (.ok index, built)) (after : List Act) :
    let studio := perform after built
    let tornByOthers := Torn after built (· ≠ index)
    ∃ shader now, built.shaders[index]? = some shader ∧ studio.shaders[index]? = some now ∧
      now.controls = shader.controls ∧ (now.isDisposed = true ↔ ∃ all, .dispose all index ∈ after) ∧
      (∀ entry ∈ now.controls,
        studio.panel.control? entry.2 = none ↔ now.isDisposed = true ∨ tornByOthers) ∧
      (now.controls ≠ [] → ¬tornByOthers →
        (now.isDisposed = true ↔ ∀ entry ∈ now.controls, studio.panel.control? entry.2 = none)) := by
  intro studio tornByOthers
  obtain ⟨sound, truthful⟩ := fresh_truthful lastProgram
  obtain ⟨sound, truthful⟩ := perform_truthful before _ sound truthful
  obtain ⟨place, controls, marks, provided⟩ := build_provides sound name scene options built index success
  have erected : step (perform before (fresh lastProgram)) (.build name scene options) = built := congrArg Prod.snd success
  have sound' : Sound built := erected ▸ sound.act (.build name scene options)
  have truthful' : Truthful built.marks built.panel := by
    rw [marks]
    exact provided_truthful sound truthful controls built.panel provided
  have marked : built.marks[index]? = some ⟨controls, false, false⟩ := by
    rw [marks, place]
    exact List.getElem?_concat_length
  have alive : ∀ entry ∈ controls, built.panel.disposed = false := by
    rw [provided.disposed]
    exact provided.alive
  obtain ⟨mark, later, same, own, each⟩ := perform_settles after built sound' truthful' index controls marked alive
  rw [Studio.marks, List.getElem?_map] at marked later
  obtain ⟨shader, live, first⟩ := Option.map_eq_some_iff.mp marked
  obtain ⟨now, live', rfl⟩ := Option.map_eq_some_iff.mp later
  have kept : now.controls = shader.controls := Eq.trans same (congrArg Mark.controls first).symm
  have each : ∀ entry ∈ now.controls, studio.panel.control? entry.2 = none ↔ now.isDisposed = true ∨ tornByOthers := by
    rw [show now.controls = controls from same]
    exact each
  refine ⟨shader, now, live, live', kept, own, each, fun given intact => ?_⟩
  constructor
  · exact fun marked entry listed => (each entry listed).mpr (.inl marked)
  · intro none
    obtain ⟨entry, listed⟩ := List.exists_mem_of_ne_nil _ given
    exact ((each entry listed).mp (none entry listed)).resolve_right intact

theorem first_marked_as_it_leaves :
    let acts : List Act := [.build "second" ⟨1⟩ gainOptions, .frame ⟨1⟩, .dispose false 0]
    ∃ built now, build "first" ⟨1⟩ gainOptions (perform [] (fresh 0)) = (.ok 0, built) ∧
      (perform acts built).shaders[0]? = some now ∧ now.controls = [("gain", ⟨2⟩)] ∧ now.isDisposed = true ∧
      (perform acts built).panel.control? ⟨2⟩ = none := by
  intro acts
  have success : (build "first" ⟨1⟩ gainOptions (perform [] (fresh 0))).1 = .ok 0 := by
    decide +kernel
  have listed : ((build "first" ⟨1⟩ gainOptions (perform [] (fresh 0))).2.shaders[0]?.map (·.controls)) =
      some [("gain", ⟨2⟩)] := by
    decide +kernel
  obtain ⟨built, whole⟩ : ∃ built, build "first" ⟨1⟩ gainOptions (perform [] (fresh 0)) = (.ok 0, built) :=
    ⟨_, answer_pair _ _ success⟩
  rw [whole] at listed
  obtain ⟨shader, now, live, live', controls, own, _, told⟩ :=
    marked_unless_torn_by_others 0 [] "first" ⟨1⟩ gainOptions 0 built whole acts
  rw [live] at listed
  have given : now.controls = [("gain", ⟨2⟩)] := controls.trans (Option.some.inj listed)
  have intact : ¬Torn acts built (· ≠ 0) := by
    rintro ⟨early, other, late, split, _⟩
    have member : Act.dispose true other ∈ acts := by
      rw [split]
      exact List.mem_append_right _ List.mem_cons_self
    simp [acts] at member
  have marked : now.isDisposed = true := own.mpr ⟨false, by simp [acts]⟩
  have gone := (told (by simp [given]) intact).mp marked ("gain", ⟨2⟩) (by simp [given])
  exact ⟨built, now, whole, live', given, marked, gone⟩

-- The first shader disposes of the whole panel, and the second one does not know.
theorem second_unmarked_without_controls :
    let studio := perform [.build "first" ⟨1⟩ gainOptions, .build "second" ⟨1⟩ gainOptions, .dispose true 0] (fresh 0)
    ∃ shader, studio.shaders[1]? = some shader ∧ shader.controls ≠ [] ∧
      ¬(shader.isDisposed = true ↔ ∀ entry ∈ shader.controls, studio.panel.control? entry.2 = none) := by
  intro studio
  have seen : studio.shaders[1]?.map (fun shader => (shader.controls, shader.isDisposed)) =
      some ([("gain", ⟨4⟩)], false) := by
    decide +kernel
  have gone : (studio.panel.control? ⟨4⟩).isNone = true := by
    decide +kernel
  obtain ⟨shader, live, fields⟩ := Option.map_eq_some_iff.mp seen
  obtain ⟨controls, unmarked⟩ := Prod.mk.inj fields
  refine ⟨shader, live, by simp [controls], fun claimed => ?_⟩
  rw [unmarked, controls] at claimed
  have marked := claimed.mpr fun entry listed => by
    rw [List.mem_singleton.mp listed]
    exact Option.isNone_iff_eq_none.mp gone
  cases marked

end Studio

end ShaderKnobs
