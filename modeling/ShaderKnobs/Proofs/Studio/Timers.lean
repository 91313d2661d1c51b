import ShaderKnobs.Proofs.Studio.Run

set_option autoImplicit false

namespace ShaderKnobs

def Wiring.counter? (wiring : Wiring) : Option String :=
  (wiring.heads.find? (·.2 = .frameCounter)).map (·.1)

def frameValue (frame : Nat) : SlotValue := .float (Number.Binary.ofInt Number.single frame)

structure Timer where
  scene : SceneId
  shader : Nat
  material : MaterialHandle
  name : String

namespace Timer

def frames (engine : Engine) (t : Timer) : Nat := (engine.writesTo t.material t.name).length

-- The hook that stands for a counter, which counts in 64-bit words.
def hook (engine : Engine) (t : Timer) : SceneId × FrameHook :=
  (t.scene, .counter t.shader t.material t.name (UInt64.ofNat (t.frames engine)))

def record (engine : Engine) (t : Timer) : SlotWrite :=
  ⟨t.material, t.name, frameValue (t.frames engine % 2 ^ 64)⟩

def Apart (one two : Timer) : Prop := one.material ≠ two.material ∧ one.shader ≠ two.shader

theorem Apart.symm {one two : Timer} (apart : one.Apart two) : two.Apart one := ⟨apart.1.symm, apart.2.symm⟩

instance : Std.Symm Apart := ⟨fun _ _ => Apart.symm⟩

end Timer

theorem Wiring.counter_head (wiring : Wiring) (name : String) (counter : wiring.counter? = some name) :
    (name, .frameCounter) ∈ wiring.heads := by
  obtain ⟨head, found, rfl⟩ := Option.map_eq_some_iff.mp counter
  have source : head.2 = .frameCounter := by simpa using List.find?_some found
  rw [← source]
  exact List.mem_of_find?_eq_some found

namespace Studio

variable {E P : Type}

def timer? (engine : Engine) (wiring : Wiring) (index : Nat) : Option Timer :=
  wiring.counter?.bind fun name =>
    (engine.material? wiring.material).map fun material => ⟨material.scene, index, wiring.material, name⟩

-- The counters of a studio in the order in which their shaders were built.
def timers (studio : Studio Engine P) : List Timer :=
  studio.wirings.zipIdx.filterMap fun entry => timer? studio.engine entry.1 entry.2

theorem mem_timers (studio : Studio Engine P) (t : Timer) :
    t ∈ studio.timers ↔ ∃ wiring material, studio.wirings[t.shader]? = some wiring ∧ wiring.material = t.material ∧
      wiring.counter? = some t.name ∧ studio.engine.material? t.material = some material ∧
      material.scene = t.scene := by
  simp only [timers, List.mem_filterMap, timer?, Option.bind_eq_some_iff, Option.map_eq_some_iff]
  constructor
  · rintro ⟨⟨wiring, index⟩, member, name, counter, material, placed, rfl⟩
    exact ⟨wiring, material, List.mem_zipIdx_iff_getElem?.mp member, rfl, counter, placed, rfl⟩
  · obtain ⟨scene, index, handle, name⟩ := t
    rintro ⟨wiring, material, wired, rfl, counter, placed, rfl⟩
    exact ⟨(wiring, index), List.mem_zipIdx_iff_getElem?.mpr wired, name, counter, material, placed, rfl⟩

theorem timers_same (before after : Studio Engine P) (wirings : after.wirings = before.wirings)
    (materials : after.engine.materials = before.engine.materials) : after.timers = before.timers := by
  simp only [timers, timer?, Engine.material?]
  rw [wirings, materials]

theorem timers_apart (studio : Studio Engine P) (apart : (studio.wirings.map (·.material)).Nodup) :
    studio.timers.Pairwise Timer.Apart := by
  have materials : studio.wirings.zipIdx.Pairwise fun one two => one.1.material ≠ two.1.material := by
    rw [← List.zipIdx_map_fst 0 studio.wirings, List.map_map] at apart
    exact List.pairwise_map.mp apart
  have indices : studio.wirings.zipIdx.Pairwise fun one two => one.2 ≠ two.2 := by
    rw [← List.pairwise_map (f := Prod.snd), List.zipIdx_map_snd]
    exact List.nodup_range'
  rw [timers, List.pairwise_filterMap]
  refine (materials.and indices).imp fun {one two} both t first t' second => ?_
  obtain ⟨_, _, here⟩ := Option.bind_eq_some_iff.mp first
  obtain ⟨_, _, rfl⟩ := Option.map_eq_some_iff.mp here
  obtain ⟨_, _, there⟩ := Option.bind_eq_some_iff.mp second
  obtain ⟨_, _, rfl⟩ := Option.map_eq_some_iff.mp there
  exact both

def held (studio : Studio E P) (index : Nat) (name : String) : Option SlotValue :=
  studio.shaders[index]?.bind (·.value? name)

theorem held_assign (index other : Nat) (name key : String) (value : SlotValue) (studio : Studio E P) :
    (studio.updateShader index (·.assign key value)).held other name =
      if index = other ∧ name = key then (studio.held other name).map fun _ => value else studio.held other name := by
  simp only [held, updateShader, List.getElem?_modify]
  cases studio.shaders[other]? with
  | none => simp
  | some shader =>
      by_cases here : index = other
      · simp [here, LiveShader.value_assign]
      · simp [here]

-- A counter has written one number after the other, and its shader has the last of them.
structure Counts (studio : Studio Engine P) (t : Timer) : Prop where
  written : studio.engine.writesTo t.material t.name =
    (List.range (t.frames studio.engine)).map fun frame => frameValue (frame % 2 ^ 64)
  holds : studio.held t.shader t.name = some (frameValue ((t.frames studio.engine - 1) % 2 ^ 64))

structure Clocked (studio : Studio Engine P) : Prop where
  declared : ∀ wiring ∈ studio.wirings, Declared wiring
  issued : ∀ wiring ∈ studio.wirings, wiring.material.number ≤ studio.engine.lastHandle
  apart : (studio.wirings.map (·.material)).Nodup
  recorded : ∀ material ∈ studio.engine.materials, material.handle.number ≤ studio.engine.lastHandle
  logged : ∀ write ∈ studio.engine.log.toList, write.material.number ≤ studio.engine.lastHandle
  hooks : studio.engine.hooks = studio.timers.map (Timer.hook studio.engine)
  counts : ∀ t ∈ studio.timers, Counts studio t

structure Rests (t : Timer) (before after : Studio Engine P) : Prop where
  written : after.engine.writesTo t.material t.name = before.engine.writesTo t.material t.name
  held : after.held t.shader t.name = before.held t.shader t.name

theorem Rests.frames {t : Timer} {before after : Studio Engine P} (rests : Rests t before after) :
    t.frames after.engine = t.frames before.engine := congrArg List.length rests.written

theorem Rests.trans {t : Timer} {first second third : Studio Engine P} (early : Rests t first second)
    (late : Rests t second third) : Rests t first third :=
  ⟨late.written.trans early.written, late.held.trans early.held⟩

theorem hooks_rest (ts : List Timer) (before after : Studio Engine P) (rests : ∀ t ∈ ts, Rests t before after) :
    ts.map (Timer.hook after.engine) = ts.map (Timer.hook before.engine) := by
  rw [List.map_inj_left]
  intro t member
  rw [Timer.hook, Timer.hook, (rests t member).frames]

theorem Rests.counts {t : Timer} {before after : Studio Engine P} (rests : Rests t before after)
    (counts : Counts before t) : Counts after t where
  written := by
    rw [rests.written, rests.frames]
    exact counts.written
  holds := by
    rw [rests.held, rests.frames]
    exact counts.holds

-- A step that no counter notices. It may write, but only where a control may.
structure Unticked (before after : Studio Engine P) : Prop where
  wirings : after.wirings = before.wirings
  materials : after.engine.materials = before.engine.materials
  lastHandle : before.engine.lastHandle ≤ after.engine.lastHandle
  hooks : after.engine.hooks = before.engine.hooks
  logged : ∀ write ∈ after.engine.log.toList, write ∈ before.engine.log.toList ∨
    ∃ wiring ∈ before.wirings, wiring.material = write.material
  rests : ∀ t ∈ before.timers, Rests t before after

theorem quiet_unticked (before after : Studio Engine P) (quiet : before.engine.NoWrites after.engine)
    (materials : after.engine.materials = before.engine.materials) (shaders : after.shaders = before.shaders) :
    Unticked before after where
  wirings := congrArg (List.map LiveShader.wiring) shaders
  materials := materials
  lastHandle := quiet.lastHandle
  hooks := quiet.hooks
  logged write member := by
    rw [quiet.log] at member
    exact .inl member
  rests t _ := by
    refine ⟨?_, ?_⟩
    · simp only [Engine.writesTo, quiet.log]
    · simp only [held, shaders]

theorem Unticked.aside {before after : Studio Engine P} (engine : after.engine = before.engine)
    (shaders : after.shaders = before.shaders) : Unticked before after := by
  refine quiet_unticked before after ?_ ?_ shaders
  · rw [engine]
    exact ⟨rfl, rfl, rfl, Nat.le_refl _⟩
  · rw [engine]

theorem Unticked.still (studio : Studio Engine P) : Unticked studio studio := .aside rfl rfl

theorem Unticked.timers {before after : Studio Engine P} (unticked : Unticked before after) :
    after.timers = before.timers :=
  timers_same before after unticked.wirings unticked.materials

theorem Unticked.trans {first second third : Studio Engine P} (early : Unticked first second)
    (late : Unticked second third) : Unticked first third where
  wirings := late.wirings.trans early.wirings
  materials := late.materials.trans early.materials
  lastHandle := Nat.le_trans early.lastHandle late.lastHandle
  hooks := late.hooks.trans early.hooks
  logged write member := by
    rcases late.logged write member with before | ⟨wiring, wired, material⟩
    · exact early.logged write before
    · rw [early.wirings] at wired
      exact .inr ⟨wiring, wired, material⟩
  rests t member := (early.rests t member).trans (late.rests t (by rw [early.timers]; exact member))

theorem Unticked.clocked {before after : Studio Engine P} (unticked : Unticked before after)
    (clocked : Clocked before) : Clocked after := by
  refine ⟨?_, ?_, ?_, ?_, ?_, ?_, ?_⟩
  · rw [unticked.wirings]
    exact clocked.declared
  · rw [unticked.wirings]
    exact fun wiring member => Nat.le_trans (clocked.issued wiring member) unticked.lastHandle
  · rw [unticked.wirings]
    exact clocked.apart
  · rw [unticked.materials]
    exact fun material member => Nat.le_trans (clocked.recorded material member) unticked.lastHandle
  · intro write member
    refine Nat.le_trans ?_ unticked.lastHandle
    rcases unticked.logged write member with before | ⟨wiring, wired, material⟩
    · exact clocked.logged write before
    · rw [← material]
      exact clocked.issued wiring wired
  · rw [unticked.hooks, unticked.timers, clocked.hooks, hooks_rest before.timers before after unticked.rests]
  · intro t member
    rw [unticked.timers] at member
    exact (unticked.rests t member).counts (clocked.counts t member)

section

variable {studio : Studio Engine P} (declared : ∀ wiring ∈ studio.wirings, Declared wiring)
  (apart : (studio.wirings.map (·.material)).Nodup)

include declared apart

theorem timer_apart (t : Timer) (member : t ∈ studio.timers) (index : Nat) (wiring : Wiring)
    (wired : studio.wirings[index]? = some wiring) (key : String) (knob : Knob)
    (head : (key, .knob knob) ∈ wiring.heads) :
    ¬(t.material = wiring.material ∧ t.name = key) ∧ ¬(index = t.shader ∧ t.name = key) := by
  obtain ⟨own, _, ownWired, material, counter, _⟩ := (mem_timers studio t).mp member
  have elsewhere : ¬(index = t.shader ∧ t.name = key) := by
    rintro ⟨rfl, rfl⟩
    obtain rfl : wiring = own := Option.some.inj (wired.symm.trans ownWired)
    have distinct := (declared wiring (List.mem_of_getElem? wired)).distinct
    cases head_unique wiring.heads t.name _ _ distinct (wiring.counter_head t.name counter) head
  refine ⟨fun both => elsewhere ⟨?_, both.2⟩, elsewhere⟩
  exact wired_apart apart index t.shader wiring own wired ownWired (both.1.symm.trans material.symm)

theorem taken_unticked (index : Nat) (wiring : Wiring) (wired : studio.wirings[index]? = some wiring) (key : String)
    (knob : Knob) (head : (key, .knob knob) ∈ wiring.heads) (value : SlotValue) (engine : Engine)
    (notices : List Notice) (wrote : engine = studio.engine ∨ engine = studio.engine.write wiring.material key value) :
    Unticked studio { studio.updateShader index (·.assign key value) with engine := engine, notices := notices } where
  wirings := wirings_update index _ studio (LiveShader.wiring_assign key value)
  materials := by rcases wrote with rfl | rfl <;> rfl
  lastHandle := by rcases wrote with rfl | rfl <;> exact Nat.le_refl _
  hooks := by rcases wrote with rfl | rfl <;> rfl
  logged write member := by
    rcases wrote with rfl | rfl
    · exact .inl member
    · rw [Engine.log_write, List.mem_append, List.mem_singleton] at member
      rcases member with old | rfl
      · exact .inl old
      · exact .inr ⟨wiring, List.mem_of_getElem? wired, rfl⟩
  rests t member := by
    obtain ⟨slot, entry⟩ := timer_apart declared apart t member index wiring wired key knob head
    refine ⟨?_, (held_assign index t.shader t.name key value studio).trans (if_neg entry)⟩
    rcases wrote with rfl | rfl
    · rfl
    · rw [Engine.writes_write, if_neg slot, List.append_nil]

theorem follow_unticked (engineFree : Bool) (event : ChangeEvent) (index : Nat) :
    Unticked studio (studio.follow engineFree event index) := by
  unfold follow
  split
  · exact .still studio
  next shader live =>
  have wired : studio.wirings[index]? = some shader.wiring := by
    rw [wirings, List.getElem?_map, live, Option.map_some]
  simp only [LiveShader.reaction]
  cases found : ValueTable.get? event.key shader.values with
  | none => exact .still studio
  | some entry =>
      have head := ValueTable.get_head event.key shader.values entry found
      cases source : entry.source with
      | frameCounter =>
          simp only [source]
          exact .still studio
      | knob knob =>
          rw [source] at head
          simp only [source]
          cases knob.slotValue? event.setting with
          | none => exact .aside rfl rfl
          | some value =>
              have taken := taken_unticked declared apart index shader.wiring wired event.key knob head value
              cases engineFree with
              | true => exact taken _ studio.notices (.inr (Engine.apply_write ..))
              | false => exact taken studio.engine _ (.inl rfl)

end

theorem dispose_unticked [PanelHost P] (panelFree all : Bool) (index : Nat) (studio : Studio Engine P) :
    Unticked studio (studio.dispose panelFree all index) := by
  have flagged : ∀ (mark : LiveShader → LiveShader) (panel : P), (∀ shader, (mark shader).wiring = shader.wiring) →
      (∀ shader, (mark shader).values = shader.values) →
      Unticked studio (updateShader index mark { studio with panel := panel }) := by
    intro mark panel wiring values
    refine ⟨wirings_update index mark { studio with panel := panel } wiring, rfl, Nat.le_refl _, rfl,
      fun _ member => .inl member, fun t _ => ⟨rfl, ?_⟩⟩
    simp only [held, updateShader, List.getElem?_modify]
    cases studio.shaders[t.shader]? with
    | none => rfl
    | some shader => split <;> simp [LiveShader.value?, values]
  unfold dispose
  split
  · exact .still studio
  split
  · exact .still studio
  split
  · exact .aside rfl rfl
  split
  · exact flagged _ _ (fun _ => rfl) (fun _ => rfl)
  · exact flagged _ _ (fun _ => rfl) (fun _ => rfl)

theorem edit_unticked [EditHost P] (control : ControlId) (setting : Setting) (studio : Studio Engine P)
    (declared : ∀ wiring ∈ studio.wirings, Declared wiring) (apart : (studio.wirings.map (·.material)).Nodup) :
    Unticked studio (edit control setting studio).2 := by
  simp only [edit, editWhile]
  cases EditHost.edit control setting studio.panel with
  | error e => exact .still studio
  | ok edited =>
      obtain ⟨panel, event, listeners⟩ := edited
      dsimp only
      -- whatever the panel makes of an edit, it can only have shaders follow events and be disposed of
      suffices heard : ∀ between : Studio Engine P, Unticked studio between →
          Unticked studio (listeners.foldl (hear true event) between) from
        heard { studio with panel := panel } (.aside rfl rfl)
      induction listeners with
      | nil => exact fun _ unticked => unticked
      | cons listener rest ih =>
          intro between unticked
          refine ih _ (unticked.trans ?_)
          cases listener with
          | follow index =>
              refine follow_unticked ?_ ?_ true event index
              · rw [unticked.wirings]
                exact declared
              · rw [unticked.wirings]
                exact apart
          | observe tag target =>
              have recorded : Unticked between (between.record (.change tag event)) := .aside rfl rfl
              cases target with
              | none => exact recorded
              | some target => exact recorded.trans (dispose_unticked false target.2 target.1 _)

end Studio

end ShaderKnobs
