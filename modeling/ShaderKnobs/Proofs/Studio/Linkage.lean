import Mathlib.Data.List.Nodup
import ShaderKnobs.Proofs.Engine.Slots
import ShaderKnobs.Proofs.Panel.Growth
import ShaderKnobs.Proofs.Studio.Blueprint
import ShaderKnobs.Proofs.Studio.Wiring

set_option autoImplicit false

namespace ShaderKnobs

structure Declared (wiring : Wiring) : Prop where
  distinct : (wiring.heads.map (·.1)).Nodup
  annotated : ∀ tunable ∈ wiring.tunables, (tunable.name, .knob tunable.knob) ∈ wiring.heads

-- A hook as it was before its first frame.
def FrameHook.atFirst : FrameHook → FrameHook
  | .counter index material name _ => .counter index material name 0
  | .script deeds _ => .script deeds 0

def Ticks (wirings : List Wiring) (hook : FrameHook) : Prop :=
  ∃ index wiring name, hook.atFirst = .counter index wiring.material name 0 ∧
    wirings[index]? = some wiring ∧ (name, .frameCounter) ∈ wiring.heads

structure EngineLinked (wirings : List Wiring) (engine : Engine) : Prop where
  issued : ∀ wiring ∈ wirings, wiring.material.number ≤ engine.lastHandle
  apart : (wirings.map (·.material)).Nodup
  ticking : ∀ entry ∈ engine.hooks, Ticks wirings entry.2

def Serves (wirings : List Wiring) (c : Control) : Prop :=
  ∃ index wiring, wirings[index]? = some wiring ∧ c.listeners = [.follow index] ∧
    ∃ tunable ∈ wiring.tunables, tunable.name = c.spec.key ∧ tunable.knob = c.spec.knob

def Control.slot (c : Control) : List Listener × String := (c.listeners, c.spec.key)

structure PanelLinked (wirings : List Wiring) (panel : Panel) : Prop where
  bounded : ∀ c ∈ panel.controls, c.id.number ≤ panel.lastId
  ids : (panel.controls.map (·.id)).Nodup
  slots : (panel.controls.map Control.slot).Nodup
  serves : ∀ c ∈ panel.controls, Serves wirings c
  listed : ∀ index wiring entry, wirings[index]? = some wiring → entry ∈ wiring.controls →
    entry.2.number ≤ panel.lastId ∧
      ∀ c ∈ panel.controls, c.id = entry.2 → c.slot = ([.follow index], entry.1)

theorem wired_append (wirings : List Wiring) (more wiring : Wiring) (index : Nat)
    (wired : (wirings ++ [more])[index]? = some wiring) :
    wirings[index]? = some wiring ∨ (index = wirings.length ∧ wiring = more) := by
  by_cases old : index < wirings.length
  · rw [List.getElem?_append_left old] at wired
    exact .inl wired
  · rw [List.getElem?_append_right (Nat.le_of_not_lt old), List.getElem?_singleton] at wired
    split at wired
    · exact .inr ⟨by omega, (Option.some.inj wired).symm⟩
    · cases wired

theorem wired_grow {wirings : List Wiring} {wiring : Wiring} {index : Nat} (wired : wirings[index]? = some wiring)
    (more : Wiring) : (wirings ++ [more])[index]? = some wiring := by
  rw [List.getElem?_append_left (List.getElem?_eq_some_iff.mp wired).1]
  exact wired

theorem Ticks.grow {wirings : List Wiring} {hook : FrameHook} (ticks : Ticks wirings hook) (more : Wiring) :
    Ticks (wirings ++ [more]) hook := by
  obtain ⟨index, wiring, name, shape, wired, head⟩ := ticks
  exact ⟨index, wiring, name, shape, wired_grow wired more, head⟩

theorem EngineLinked.same {wirings : List Wiring} {before after : Engine} (linked : EngineLinked wirings before)
    (lastHandle : before.lastHandle ≤ after.lastHandle) (hooks : after.hooks = before.hooks) :
    EngineLinked wirings after where
  issued wiring member := Nat.le_trans (linked.issued wiring member) lastHandle
  apart := linked.apart
  ticking := by
    rw [hooks]
    exact linked.ticking

theorem wired_apart {wirings : List Wiring} (apart : (wirings.map (·.material)).Nodup) (i j : Nat) (a b : Wiring)
    (first : wirings[i]? = some a) (second : wirings[j]? = some b) (same : a.material = b.material) : i = j := by
  have bound : i < (wirings.map (·.material)).length := by
    rw [List.length_map]
    exact (List.getElem?_eq_some_iff.mp first).1
  apply (List.getElem?_inj bound apart).mp
  rw [List.getElem?_map, List.getElem?_map, first, second, Option.map_some, Option.map_some, same]

theorem EngineLinked.material_apart {wirings : List Wiring} {engine : Engine} (linked : EngineLinked wirings engine)
    (i j : Nat) (a b : Wiring) (first : wirings[i]? = some a) (second : wirings[j]? = some b)
    (same : a.material = b.material) : i = j := wired_apart linked.apart i j a b first second same

theorem EngineLinked.grow {wirings : List Wiring} {before after : Engine} (linked : EngineLinked wirings before)
    (more : Wiring) (fresh : before.lastHandle < more.material.number)
    (issued : more.material.number ≤ after.lastHandle)
    (ticking : ∀ entry ∈ after.hooks, entry ∈ before.hooks ∨ Ticks (wirings ++ [more]) entry.2) :
    EngineLinked (wirings ++ [more]) after where
  issued := by
    intro wiring member
    rcases List.mem_append.mp member with old | new
    · have := linked.issued wiring old
      omega
    · rw [List.mem_singleton.mp new]
      exact issued
  apart := by
    rw [List.map_append, List.nodup_append]
    refine ⟨linked.apart, by simp, ?_⟩
    intro material old other new same
    obtain ⟨wiring, member, rfl⟩ := List.mem_map.mp old
    rw [List.map_singleton, List.mem_singleton] at new
    have := linked.issued wiring member
    rw [same, new] at this
    omega
  ticking := by
    intro entry member
    rcases ticking entry member with old | new
    · exact (linked.ticking entry old).grow more
    · exact new

theorem controls_map_update {α : Type} (g : Control → α) (id : ControlId) (f : Control → Control)
    (kept : ∀ c, g (f c) = g c) (panel : Panel) :
    (panel.updateControl id f).controls.map g = panel.controls.map g := by
  simp only [Panel.updateControl, List.map_map, List.map_inj_left, Function.comp_apply]
  intro c _
  split
  · exact kept c
  · rfl

theorem set_control_old (id : ControlId) (setting : Setting) (panel : Panel) (c : Control)
    (changed : c ∈ (panel.updateControl id ({ · with setting := setting })).controls) :
    ∃ old ∈ panel.controls, ∃ own, c = { old with setting := own } := by
  obtain ⟨old, present, rfl⟩ := List.mem_map.mp changed
  by_cases here : old.id = id
  · exact ⟨old, present, setting, if_pos here⟩
  · exact ⟨old, present, old.setting, if_neg here⟩

theorem PanelLinked.update {wirings : List Wiring} {panel : Panel} (linked : PanelLinked wirings panel)
    (id : ControlId) (setting : Setting) :
    PanelLinked wirings (panel.updateControl id ({ · with setting := setting })) := by
  refine ⟨?_, ?_, ?_, ?_, ?_⟩
  · intro c changed
    obtain ⟨old, present, own, rfl⟩ := set_control_old id setting panel c changed
    exact linked.bounded old present
  · rw [controls_map_update (·.id) id ({ · with setting := setting }) (fun _ => rfl)]
    exact linked.ids
  · rw [controls_map_update Control.slot id ({ · with setting := setting }) (fun _ => rfl)]
    exact linked.slots
  · intro c changed
    obtain ⟨old, present, own, rfl⟩ := set_control_old id setting panel c changed
    exact linked.serves old present
  · intro index wiring entry wired listed
    obtain ⟨bound, owner⟩ := linked.listed index wiring entry wired listed
    refine ⟨bound, fun c changed same => ?_⟩
    obtain ⟨old, present, own, rfl⟩ := set_control_old id setting panel c changed
    exact owner old present same

theorem PanelLinked.shrink {wirings : List Wiring} {before after : Panel} (linked : PanelLinked wirings before)
    (lastId : after.lastId = before.lastId) (fewer : after.controls.Sublist before.controls) :
    PanelLinked wirings after where
  bounded c member := by
    rw [lastId]
    exact linked.bounded c (fewer.subset member)
  ids := linked.ids.sublist (fewer.map _)
  slots := linked.slots.sublist (fewer.map _)
  serves c member := linked.serves c (fewer.subset member)
  listed index wiring entry wired listed := by
    rw [lastId]
    obtain ⟨bound, owner⟩ := linked.listed index wiring entry wired listed
    exact ⟨bound, fun c member => owner c (fewer.subset member)⟩

theorem Serves.grow {wirings : List Wiring} {c : Control} (serves : Serves wirings c) (more : Wiring) :
    Serves (wirings ++ [more]) c := by
  obtain ⟨index, wiring, wired, heard, annotated⟩ := serves
  exact ⟨index, wiring, wired_grow wired more, heard, annotated⟩

section

variable {wirings : List Wiring} {before between after : Panel} {more : Wiring} {gained : List Control}

theorem PanelLinked.grown_ids (linked : PanelLinked wirings before)
    (grown : Grown (more.tunables.map (·.controlSpec)) gained before between) :
    ((before.controls ++ gained.map (Control.following wirings.length)).map (·.id)).Nodup := by
  rw [List.map_append, List.nodup_append, List.map_map]
  refine ⟨linked.ids, grown.apart, ?_⟩
  intro id old other added same
  obtain ⟨c, present, rfl⟩ := List.mem_map.mp old
  obtain ⟨c', present', rfl⟩ := List.mem_map.mp added
  exact grown.id_fresh c' present' c.id (linked.bounded c present) same.symm

-- No old control follows the new shader, and the new ones have different keys.
theorem PanelLinked.grown_slots (linked : PanelLinked wirings before) (keys : (gained.map (·.spec.key)).Nodup) :
    ((before.controls ++ gained.map (Control.following wirings.length)).map Control.slot).Nodup := by
  rw [List.map_append, List.nodup_append, List.map_map]
  refine ⟨linked.slots, ?_, ?_⟩
  · have paired := keys.map (f := fun key => ([Listener.follow wirings.length], key))
      (fun a b same => (Prod.mk.inj same).2)
    rw [List.map_map] at paired
    exact paired
  · intro slot old other added same
    obtain ⟨c, present, rfl⟩ := List.mem_map.mp old
    obtain ⟨c', present', rfl⟩ := List.mem_map.mp added
    obtain ⟨index, wiring, wired, heard, _⟩ := linked.serves c present
    have listeners : c.listeners = [.follow wirings.length] := (Prod.mk.inj same).1
    rw [heard] at listeners
    obtain rfl : index = wirings.length := by simpa using listeners
    simp at wired

theorem grown_serves (grown : Grown (more.tunables.map (·.controlSpec)) gained before between) (c : Control)
    (member : c ∈ gained) : Serves (wirings ++ [more]) (c.following wirings.length) := by
  obtain ⟨tunable, annotated, spec⟩ := List.mem_map.mp (grown.specs.subset (List.mem_map_of_mem member))
  refine ⟨wirings.length, more, by simp, rfl, tunable, annotated, ?_, ?_⟩
  · exact congrArg ControlSpec.key spec
  · exact congrArg ControlSpec.knob spec

theorem PanelLinked.grown_owner (linked : PanelLinked wirings before)
    (grown : Grown (more.tunables.map (·.controlSpec)) gained before between) (own : Control) (made : own ∈ gained)
    (c : Control) (present : c ∈ before.controls ++ gained.map (Control.following wirings.length))
    (same : c.id = own.id) : c = own.following wirings.length := by
  rcases List.mem_append.mp present with old | added
  · exact absurd same.symm (grown.id_fresh own made c.id (linked.bounded c old))
  · obtain ⟨other, made', rfl⟩ := List.mem_map.mp added
    obtain rfl : other = own := List.inj_on_of_nodup_map grown.apart made' made same
    rfl

theorem PanelLinked.grow (linked : PanelLinked wirings before) (names : (more.tunables.map (·.name)).Nodup)
    (listed : more.controls = gained.map Control.entry)
    (grown : Grown (more.tunables.map (·.controlSpec)) gained before between) (lastId : after.lastId = between.lastId)
    (controls : after.controls = before.controls ++ gained.map (Control.following wirings.length)) :
    PanelLinked (wirings ++ [more]) after := by
  refine ⟨?_, ?_, ?_, ?_, ?_⟩
  · intro c member
    rw [controls] at member
    rw [lastId]
    rcases List.mem_append.mp member with old | added
    · exact Nat.le_trans (linked.bounded c old) grown.lastId
    · obtain ⟨own, present, rfl⟩ := List.mem_map.mp added
      exact grown.below own present
  · rw [controls]
    exact linked.grown_ids grown
  · rw [controls]
    refine linked.grown_slots (grown.keys ?_)
    rw [List.map_map]
    exact names
  · intro c member
    rw [controls] at member
    rcases List.mem_append.mp member with old | added
    · exact (linked.serves c old).grow more
    · obtain ⟨own, present, rfl⟩ := List.mem_map.mp added
      exact grown_serves grown own present
  · intro index wiring entry wired member
    rw [controls, lastId]
    rcases wired_append wirings more wiring index wired with old | ⟨rfl, rfl⟩
    · obtain ⟨bound, owner⟩ := linked.listed index wiring entry old member
      refine ⟨Nat.le_trans bound grown.lastId, fun c present same => ?_⟩
      rcases List.mem_append.mp present with old | added
      · exact owner c old same
      · obtain ⟨own, made, rfl⟩ := List.mem_map.mp added
        exact absurd same (grown.id_fresh own made entry.2 bound)
    · rw [listed] at member
      obtain ⟨own, made, rfl⟩ := List.mem_map.mp member
      refine ⟨grown.below own made, fun c present same => ?_⟩
      rw [linked.grown_owner grown own made c present same]
      rfl

end

end ShaderKnobs
