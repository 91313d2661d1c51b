import ShaderKnobs.Proofs.Studio.Notices
import ShaderKnobs.Proofs.Studio.Run

set_option autoImplicit false

namespace ShaderKnobs

namespace Studio

-- A hook that edits controls before the frames of a scene, and so while the engine is taken.
def editHook (edits : Nat → List (ControlId × Setting)) : FrameHook :=
  .script (fun turn => (edits turn).map fun edit => .edit edit.1 edit.2) 0

inductive Move where
  | act (next : Act)
  | busyEdit (control : ControlId) (setting : Setting)
  | hookEdits (scene : SceneId) (edits : Nat → List (ControlId × Setting))

def move (studio : PlainStudio) : Move → PlainStudio
  | .act next => step studio next
  | .busyEdit control setting => (editWhile false control setting studio).2
  | .hookEdits scene edits => { studio with engine := studio.engine.onBeforeRender scene (editHook edits) }

def play (moves : List Move) (studio : PlainStudio) : PlainStudio := moves.foldl move studio

def Tame (wirings : List Wiring) (hook : FrameHook) : Prop :=
  Ticks wirings hook ∨ ∃ edits, hook.atFirst = editHook edits

-- The twin has heard of every write, and so all is coherent with it in place of the engine.
structure Twin (studio : PlainStudio) (twin : Engine) : Prop where
  coherent : Coherent { studio with engine := twin }
  lastHandle : twin.lastHandle = studio.engine.lastHandle
  ledger : studio.engine.Ledger
  hooks : ∀ entry ∈ studio.engine.hooks, Tame studio.wirings entry.2

-- What becomes of a studio and a twin, with the notices given on the way: a slot in which the engines
-- agree is one in which they still agree, unless a notice tells that its uniform missed an edit.
structure Tracks (before after : PlainStudio) (twin later : Engine) (given : List Notice) : Prop where
  paired : Twin after later
  notices : after.notices = before.notices ++ given
  wirings : ∀ (index : Nat) (wiring : Wiring), before.wirings[index]? = some wiring → after.wirings[index]? = some wiring
  agree : ∀ wiring ∈ before.wirings, ∀ name, .engineBusy wiring.name name ∉ given →
    before.engine.uniform? wiring.material name = twin.uniform? wiring.material name →
    after.engine.uniform? wiring.material name = later.uniform? wiring.material name

theorem Tame.grow {before after : List Wiring} {hook : FrameHook} (tame : Tame before hook)
    (kept : ∀ (index : Nat) (wiring : Wiring), before[index]? = some wiring → after[index]? = some wiring) :
    Tame after hook := by
  rcases tame with ⟨index, wiring, name, shape, wired, head⟩ | edits
  · exact .inl ⟨index, wiring, name, shape, kept index wiring wired, head⟩
  · exact .inr edits

theorem Tame.same {wirings : List Wiring} {hook other : FrameHook} (tame : Tame wirings hook)
    (first : hook.atFirst = other.atFirst) : Tame wirings other := by
  rw [Tame, Ticks, first] at tame
  exact tame

theorem Coherent.same {before after : PlainStudio} (coherent : Coherent before) (engine : after.engine = before.engine)
    (panel : after.panel = before.panel) (shaders : after.shaders = before.shaders) : Coherent after := by
  obtain ⟨_, _, _, _, _, _⟩ := before
  obtain ⟨_, _, _, _, _, _⟩ := after
  subst engine panel shaders
  exact ⟨coherent.declared, coherent.engine, coherent.panel, coherent.ledger, coherent.mirrors, coherent.shows⟩

theorem Tracks.still {studio : PlainStudio} {twin : Engine} (paired : Twin studio twin) :
    Tracks studio studio twin twin [] :=
  ⟨paired, (List.append_nil _).symm, fun _ _ wired => wired, fun _ _ _ _ same => same⟩

theorem Tracks.trans {first second third : PlainStudio} {one two three : Engine} {early late : List Notice}
    (sooner : Tracks first second one two early) (later : Tracks second third two three late) :
    Tracks first third one three (early ++ late) where
  paired := later.paired
  notices := by rw [later.notices, sooner.notices, List.append_assoc]
  wirings index wiring wired := later.wirings index wiring (sooner.wirings index wiring wired)
  agree wiring member name silent same := by
    rw [List.mem_append, not_or] at silent
    obtain ⟨index, wired⟩ := List.getElem?_of_mem member
    exact later.agree wiring (List.mem_of_getElem? (sooner.wirings index wiring wired)) name silent.2
      (sooner.agree wiring member name silent.1 same)

theorem kept_tracks (before after : PlainStudio) (twin later : Engine) (paired : Twin before twin)
    (coherent : Coherent { after with engine := later }) (lastHandle : later.lastHandle = after.engine.lastHandle)
    (ledger : after.engine.Ledger) (hooks : after.engine.hooks = before.engine.hooks)
    (kept : after.wirings = before.wirings) (notices : after.notices = before.notices)
    (agree : ∀ material name, before.engine.uniform? material name = twin.uniform? material name →
      after.engine.uniform? material name = later.uniform? material name) :
    Tracks before after twin later [] := by
  refine ⟨⟨coherent, lastHandle, ledger, ?_⟩, ?_, ?_, ?_⟩
  · rw [hooks, kept]
    exact paired.hooks
  · rw [notices, List.append_nil]
  · rw [kept]
    exact fun _ _ wired => wired
  · exact fun wiring _ name _ same => agree wiring.material name same

theorem uniform_write_same (one two : Engine) (target material : MaterialHandle) (key name : String) (value : SlotValue)
    (same : one.uniform? material name = two.uniform? material name) :
    (one.write target key value).uniform? material name = (two.write target key value).uniform? material name := by
  rw [Engine.uniform_write, Engine.uniform_write, same]

theorem uniform_write_table_same (one two : Engine) (target material : MaterialHandle) (table : ValueTable)
    (name : String) (same : one.uniform? material name = two.uniform? material name) :
    (one.writeTable target table).uniform? material name = (two.writeTable target table).uniform? material name := by
  induction table generalizing one two with
  | nil => exact same
  | cons entry rest ih => exact ih _ _ (uniform_write_same one two target material entry.name name entry.current same)

theorem delivered_tracks (before : PlainStudio) (twin : Engine) (paired : Twin before twin) (studio : PlainStudio)
    (engine : studio.engine = before.engine) (kept : studio.wirings = before.wirings)
    (notices : studio.notices = before.notices) (index : Nat) (material : MaterialHandle) (name : String)
    (value : SlotValue) (coherent : Coherent (deliver index material name value { studio with engine := twin })) :
    Tracks before (deliver index material name value studio) twin (twin.write material name value) [] := by
  refine kept_tracks before _ twin _ paired coherent ?_ ?_ ?_ ?_ notices ?_
  · rw [deliver, engine]
    exact paired.lastHandle
  · rw [deliver, engine]
    exact Engine.ledger_write material name value before.engine paired.ledger
  · rw [deliver, engine]
    rfl
  · rw [wirings_deliver, kept]
  · intro material' name' same
    rw [deliver, engine]
    exact uniform_write_same before.engine twin material material' name name' value same

theorem edit_while_tracks (engineFree : Bool) (studio : PlainStudio) (twin : Engine) (paired : Twin studio twin)
    (control : ControlId) (setting : Setting) :
    ∃ later given, Tracks studio (editWhile engineFree control setting studio).2 twin later given := by
  rcases edit_while_end engineFree studio paired.coherent.declared paired.coherent.panel control setting with
    ⟨error, refused⟩ | ⟨c, index, wiring, value, takes, done⟩
  · rw [refused]
    exact ⟨twin, [], .still paired⟩
  rw [done]
  have takes' : Takes { studio with engine := twin } control setting c index wiring value :=
    ⟨takes.member, takes.own, takes.wired, takes.heard, takes.head, takes.written⟩
  have onward := taken_onward { studio with engine := twin } paired.coherent control setting c index wiring value takes'
  cases engineFree with
  | true =>
      exact ⟨_, [], delivered_tracks studio twin paired (setControl control setting studio) rfl rfl rfl index
        wiring.material c.spec.key value onward.coherent⟩
  | false =>
      have kept : (updateShader index (·.assign c.spec.key value) (setControl control setting studio)).wirings =
          studio.wirings := wirings_update index _ (setControl control setting studio)
        (LiveShader.wiring_assign c.spec.key value)
      refine ⟨twin.write wiring.material c.spec.key value, [.engineBusy wiring.name c.spec.key], ?_, rfl, ?_, ?_⟩
      · refine ⟨onward.coherent.same rfl rfl rfl, paired.lastHandle, paired.ledger, ?_⟩
        intro entry member
        exact (paired.hooks entry member).grow fun other wiring' wired => kept ▸ wired
      · intro other wiring' wired
        exact kept ▸ wired
      · intro wiring' member name silent same
        have apart : ¬(wiring'.material = wiring.material ∧ name = c.spec.key) := by
          rintro ⟨material, rfl⟩
          obtain ⟨other, wired⟩ := List.getElem?_of_mem member
          obtain rfl : other = index :=
            paired.coherent.engine.material_apart other index wiring' wiring wired takes.wired material
          obtain rfl := Option.some.inj (wired.symm.trans takes.wired)
          exact silent List.mem_cons_self
        rw [Engine.uniform_write, if_neg apart]
        exact same

theorem dispose_beside (all : Bool) (index : Nat) (studio : PlainStudio) (twin : Engine) :
    { studio.dispose true all index with engine := twin } = ({ studio with engine := twin }).dispose true all index := by
  simp only [dispose]
  cases studio.shaders[index]? with
  | none => rfl
  | some shader =>
      dsimp only
      by_cases gone : (shader.panelDisposed || (!all && shader.sectionDisposed)) = true
      · rw [if_pos gone, if_pos gone]
      · rw [if_neg gone, if_neg gone]
        cases all <;> rfl

theorem dispose_tracks (studio : PlainStudio) (twin : Engine) (paired : Twin studio twin) (all : Bool) (index : Nat) :
    Tracks studio (studio.dispose true all index) twin twin [] := by
  have beside := dispose_beside all index studio twin
  obtain ⟨engine, _, notices⟩ := dispose_frame true all index studio
  have onward := dispose_onward { studio with engine := twin } paired.coherent all index
  rw [← beside] at onward
  refine kept_tracks studio _ twin twin paired onward.coherent ?_ ?_ ?_ (wirings_dispose true all index studio)
    (notices rfl) ?_
  · rw [engine]
    exact paired.lastHandle
  · rw [engine]
    exact paired.ledger
  · rw [engine]
  · intro material name same
    rw [engine]
    exact same

theorem record_tracks (r : Record) (studio : PlainStudio) (twin : Engine) (paired : Twin studio twin) :
    Tracks studio (studio.record r) twin twin [] :=
  kept_tracks studio _ twin twin paired (paired.coherent.same rfl rfl rfl) paired.lastHandle paired.ledger rfl rfl rfl
    fun _ _ same => same

theorem edit_on_record_tracks (control : ControlId) (setting : Setting) (studio : PlainStudio) (twin : Engine)
    (paired : Twin studio twin) : ∃ later given, Tracks studio (editOnRecord control setting studio) twin later given := by
  obtain ⟨later, given, tracks⟩ := edit_while_tracks false studio twin paired control setting
  rw [editOnRecord]
  revert tracks
  rcases editWhile false control setting studio with ⟨error | done, edited⟩
  · exact fun tracks => ⟨later, _, tracks.trans (record_tracks (.refused error) edited later tracks.paired)⟩
  · exact fun tracks => ⟨later, given, tracks⟩

theorem run_edits_tracks (edits : List (ControlId × Setting)) (studio : PlainStudio) (twin : Engine)
    (paired : Twin studio twin) :
    ∃ later given, Tracks studio ((edits.map fun edit => .edit edit.1 edit.2).foldl runDeed studio) twin later given := by
  induction edits generalizing studio twin with
  | nil => exact ⟨twin, [], .still paired⟩
  | cons edit rest ih =>
      obtain ⟨between, early, now⟩ := edit_on_record_tracks edit.1 edit.2 studio twin paired
      obtain ⟨later, late, after⟩ := ih _ between now.paired
      exact ⟨later, early ++ late, now.trans after⟩

theorem run_hook_tracks (hook : FrameHook) (studio : PlainStudio) (twin : Engine) (paired : Twin studio twin)
    (tame : Tame studio.wirings hook) :
    (∃ later given, Tracks studio (runHook hook studio).2 twin later given) ∧
      (runHook hook studio).1.atFirst = hook.atFirst := by
  rcases tame with ⟨index, wiring, name, shape, wired, head⟩ | ⟨edits, shape⟩
  · cases hook with
    | script _ _ => cases shape
    | counter index' material name' frame =>
        obtain ⟨rfl, rfl, rfl, _⟩ := FrameHook.counter.inj shape
        have tick := tick_onward { studio with engine := twin } paired.coherent index' wiring wired name' head
          (.float (Number.Binary.ofInt Number.single frame.toNat))
        exact ⟨⟨_, [], delivered_tracks studio twin paired studio rfl rfl rfl index' wiring.material name' _
          tick.coherent⟩, rfl⟩
  · cases hook with
    | counter _ _ _ _ => cases shape
    | script deeds turn =>
        obtain ⟨rfl, _⟩ := FrameHook.script.inj shape
        exact ⟨run_edits_tracks (edits turn) studio twin paired, rfl⟩

-- The induction is on the hooks; what a hook is, does not change while it runs.
theorem run_hooks_tracks (scene : SceneId) (hooks : List (SceneId × FrameHook)) (studio : PlainStudio) (twin : Engine)
    (paired : Twin studio twin) (tame : ∀ entry ∈ hooks, Tame studio.wirings entry.2) :
    (∃ later given, Tracks studio (runHooks scene hooks studio).2 twin later given) ∧
      ∀ entry ∈ (runHooks scene hooks studio).1, Tame studio.wirings entry.2 := by
  induction hooks generalizing studio twin with
  | nil => exact ⟨⟨twin, [], .still paired⟩, fun _ member => (by cases member)⟩
  | cons entry rest ih =>
      obtain ⟨home, hook⟩ := entry
      have own := tame (home, hook) List.mem_cons_self
      have others : ∀ entry ∈ rest, Tame studio.wirings entry.2 :=
        fun entry member => tame entry (List.mem_cons_of_mem _ member)
      simp only [runHooks]
      by_cases here : home = scene
      · rw [if_pos here]
        obtain ⟨⟨later, given, now⟩, same⟩ := run_hook_tracks hook studio twin paired own
        have kept := wirings_run_hook hook studio
        obtain ⟨⟨last, more, after⟩, tame'⟩ := ih _ later now.paired (by rw [kept]; exact others)
        rw [kept] at tame'
        refine ⟨⟨last, given ++ more, now.trans after⟩, ?_⟩
        intro entry member
        rcases List.mem_cons.mp member with rfl | old
        · exact own.same same.symm
        · exact tame' entry old
      · rw [if_neg here]
        obtain ⟨tracks, tame'⟩ := ih studio twin paired others
        refine ⟨tracks, ?_⟩
        intro entry member
        rcases List.mem_cons.mp member with rfl | old
        · exact own
        · exact tame' entry old

theorem frame_tracks (scene : SceneId) (studio : PlainStudio) (twin : Engine) (paired : Twin studio twin) :
    ∃ later given, Tracks studio (renderFrame scene studio) twin later given := by
  obtain ⟨⟨later, given, tracks⟩, tame⟩ := run_hooks_tracks scene studio.engine.hooks studio twin paired paired.hooks
  have kept := wirings_run_hooks scene studio.engine.hooks studio
  refine ⟨later, given, ⟨tracks.paired.coherent, tracks.paired.lastHandle, tracks.paired.ledger, ?_⟩, tracks.notices,
    tracks.wirings, tracks.agree⟩
  intro entry member
  exact kept.symm ▸ tame entry member

theorem refused_tracks (before after : PlainStudio) (twin : Engine) (paired : Twin before twin) (given : List Notice)
    (quiet : before.engine.NoWrites after.engine) (panel : after.panel = before.panel)
    (shaders : after.shaders = before.shaders) (notices : after.notices = before.notices ++ given) :
    Tracks before after twin { twin with lastHandle := after.engine.lastHandle } given := by
  have kept : after.wirings = before.wirings := congrArg (List.map LiveShader.wiring) shaders
  have above : twin.lastHandle ≤ after.engine.lastHandle := Nat.le_trans (Nat.le_of_eq paired.lastHandle) quiet.lastHandle
  have onward := quiet_onward { before with engine := twin }
    { after with engine := { twin with lastHandle := after.engine.lastHandle } } paired.coherent
    ⟨rfl, rfl, rfl, above⟩ panel shaders
  refine ⟨⟨onward.coherent, rfl, quiet.ledger paired.ledger, ?_⟩, notices, ?_, ?_⟩
  · rw [quiet.hooks, kept]
    exact paired.hooks
  · rw [kept]
    exact fun _ _ wired => wired
  · intro wiring _ name _ same
    rw [quiet.uniform]
    exact same

theorem joined_tracks (name : String) (scene : SceneId) (plan : Blueprint) (program : ProgramId)
    (material : MaterialHandle) (engine : Engine) (before after : PlainStudio) (twin : Engine) (paired : Twin before twin)
    (given : List Notice) (distinct : (plan.heads.map (·.1)).Nodup) (quiet : before.engine.NoWrites engine)
    (unused : before.engine.lastHandle < material.number) (issued : material.number = engine.lastHandle)
    (equipped : after.engine = equip scene material before.shaders.length plan engine)
    (afterPanel : let made := makeSection name (plan.tunables.map (·.controlSpec)) before.panel
      after.panel = attachAll before.shaders.length made.1.2 made.2 ∧
      after.shaders = before.shaders ++ [freshShader name plan program material made.1])
    (notices : after.notices = before.notices ++ given) :
    let later : Engine := equip scene material before.shaders.length plan { twin with lastHandle := engine.lastHandle }
    Tracks before after twin later given ∧ ∀ tunable ∈ plan.tunables,
      after.engine.uniform? material tunable.name = later.uniform? material tunable.name := by
  intro later
  let still : Engine := { twin with lastHandle := engine.lastHandle }
  have onward := grown_onward name scene plan program material still { before with engine := twin }
    { after with engine := later } paired.coherent distinct
    ⟨rfl, rfl, rfl, Nat.le_trans (Nat.le_of_eq paired.lastHandle) quiet.lastHandle⟩
    (Nat.lt_of_le_of_lt (Nat.le_of_eq paired.lastHandle) unused) issued rfl afterPanel
  obtain ⟨uniform, ledger, lastHandle, hooks⟩ := equip_frame scene material before.shaders.length plan engine
  obtain ⟨uniform', _, lastHandle', hooks'⟩ := equip_frame scene material before.shaders.length plan still
  have table : ((firstValues plan).map (·.name)).Nodup := by
    rw [← ValueTable.heads_names, firstValues, initial_values_heads, List.map_map]
    exact names_distinct plan distinct
  refine ⟨⟨⟨onward.coherent, ?_, ?_, ?_⟩, notices, onward.wirings, ?_⟩, ?_⟩
  · rw [equipped, lastHandle]
    exact lastHandle'
  · rw [equipped]
    exact ledger (quiet.ledger paired.ledger)
  · intro entry member
    rw [equipped, hooks, quiet.hooks] at member
    rcases List.mem_append.mp member with old | new
    · exact (paired.hooks entry old).grow onward.wirings
    · refine .inl (onward.coherent.engine.ticking entry ?_)
      change entry ∈ (equip scene material before.shaders.length plan still).hooks
      rw [hooks']
      exact List.mem_append_right _ new
  · intro wiring _ key _ same
    rw [equipped, uniform]
    refine (uniform_write_table_same engine still material wiring.material (firstValues plan) key ?_).trans
      (uniform' wiring.material key).symm
    rw [quiet.uniform]
    exact same
  · intro tunable member
    obtain ⟨value, _, found, _⟩ := fresh_value name plan program material (none, []) (names_distinct plan distinct)
      tunable member
    rw [equipped, uniform, engine.uniform_write_table material tunable.name (firstValues plan) _ table found]
    refine Eq.trans ?_ (uniform' material tunable.name).symm
    rw [still.uniform_write_table material tunable.name (firstValues plan) _ table found]

theorem build_tracks (name : String) (scene : SceneId) (options : Options) (studio : PlainStudio) (twin : Engine)
    (paired : Twin studio twin) :
    ∃ later given, Tracks studio (build name scene options studio).2 twin later given ∧
      ∀ index, (build name scene options studio).1 = .ok index → ∃ plan wiring, Blueprint.ofOptions options = .ok plan ∧
        (build name scene options studio).2.wirings[index]? = some wiring ∧ wiring.tunables = plan.tunables ∧
        ∀ tunable ∈ plan.tunables, (build name scene options studio).2.engine.uniform? wiring.material tunable.name =
          later.uniform? wiring.material tunable.name := by
  obtain ⟨given, notices⟩ := build_keeps name scene options studio
  have ending := build_end name scene options studio
  revert notices
  generalize (build name scene options studio).1 = answer at *
  generalize (build name scene options studio).2 = after at *
  intro notices
  cases ending with
  | noBlueprint error _ drawn =>
      exact ⟨_, given, refused_tracks studio _ twin paired given ⟨rfl, rfl, rfl, Nat.le_refl _⟩ rfl rfl notices.symm,
        fun _ success => (by cases success)⟩
  | noProgram plan cause engine _ drawn registered =>
      exact ⟨_, given, refused_tracks studio _ twin paired given (registered_quiet _ _ _ _ _ _ registered) rfl rfl
        notices.symm, fun _ success => (by cases success)⟩
  | noMaterial plan program cause between engine _ drawn registered created =>
      have first := registered_quiet _ _ _ _ _ _ registered
      have second := created_quiet _ _ _ _ _ _ _ created
      exact ⟨_, given, refused_tracks studio _ twin paired given (first.trans second) rfl rfl notices.symm,
        fun _ success => (by cases success)⟩
  | built plan program material between engine _ drawn registered created =>
      have first := registered_quiet _ _ _ _ _ _ registered
      have second := created_quiet _ _ _ _ _ _ _ created
      have quiet := first.trans second
      obtain ⟨above, issued⟩ := between.create_material_fresh _ _ _ _ engine material created
      obtain ⟨tracks, born⟩ := joined_tracks name scene plan (.numbered name (studio.lastProgram + 1)) material engine
        studio _ twin paired given (blueprint_drawn options plan drawn).heads_distinct quiet
        (Nat.lt_of_le_of_lt first.lastHandle above) issued rfl ⟨rfl, rfl⟩ notices.symm
      refine ⟨_, given, tracks, ?_⟩
      intro index success
      obtain rfl := Except.ok.inj success
      let made := makeSection name (plan.tunables.map (·.controlSpec)) studio.panel
      let shader := freshShader name plan (.numbered name (studio.lastProgram + 1)) material made.1
      refine ⟨plan, shader.wiring, drawn, ?_, rfl, born⟩
      rw [wirings, List.map_append, List.getElem?_append_right (by simp)]
      simp [shader, made]

theorem hook_edits_tracks (scene : SceneId) (edits : Nat → List (ControlId × Setting)) (studio : PlainStudio)
    (twin : Engine) (paired : Twin studio twin) :
    Tracks studio (move studio (.hookEdits scene edits)) twin twin [] := by
  refine ⟨⟨paired.coherent, paired.lastHandle, paired.ledger, ?_⟩, (List.append_nil _).symm, fun _ _ wired => wired,
    fun _ _ _ _ same => same⟩
  intro entry member
  rcases List.mem_append.mp member with old | new
  · exact paired.hooks entry old
  · rw [List.mem_singleton.mp new]
    exact .inr ⟨edits, rfl⟩

theorem move_tracks (studio : PlainStudio) (twin : Engine) (paired : Twin studio twin) (next : Move) :
    ∃ later given, Tracks studio (move studio next) twin later given := by
  cases next with
  | busyEdit control setting => exact edit_while_tracks false studio twin paired control setting
  | hookEdits scene edits => exact ⟨twin, [], hook_edits_tracks scene edits studio twin paired⟩
  | act next =>
      cases next with
      | build name scene options =>
          obtain ⟨later, given, tracks, _⟩ := build_tracks name scene options studio twin paired
          exact ⟨later, given, tracks⟩
      | edit control setting => exact edit_while_tracks true studio twin paired control setting
      | frame scene => exact frame_tracks scene studio twin paired
      | dispose all shader => exact ⟨twin, [], dispose_tracks studio twin paired all shader⟩

theorem play_tracks (moves : List Move) (studio : PlainStudio) (twin : Engine) (paired : Twin studio twin) :
    ∃ later given, Tracks studio (play moves studio) twin later given := by
  induction moves generalizing studio twin with
  | nil => exact ⟨twin, [], .still paired⟩
  | cons next rest ih =>
      obtain ⟨between, early, now⟩ := move_tracks studio twin paired next
      obtain ⟨later, late, after⟩ := ih (move studio next) between now.paired
      exact ⟨later, early ++ late, now.trans after⟩

theorem fresh_paired (lastProgram : Nat) : Twin (fresh lastProgram) Engine.empty :=
  ⟨fresh_coherent lastProgram, rfl, Engine.ledger_empty, fun _ member => (by cases member)⟩

end Studio

end ShaderKnobs
