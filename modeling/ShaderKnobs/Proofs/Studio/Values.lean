import ShaderKnobs.Studio.LiveShader
import ShaderKnobs.Proofs.Knob.Shape

set_option autoImplicit false

namespace ShaderKnobs

theorem find_key {α κ : Type} [DecidableEq κ] (key : α → κ) (entries : List α) (entry : α)
    (distinct : (entries.map key).Nodup) (member : entry ∈ entries) :
    entries.find? (key · = key entry) = some entry := by
  induction entries with
  | nil => cases member
  | cons first rest ih =>
      rw [List.map_cons, List.nodup_cons] at distinct
      rcases List.mem_cons.mp member with rfl | later
      · simp
      · have different : key first ≠ key entry := by
          intro same
          exact distinct.1 (same ▸ List.mem_map_of_mem later)
        simpa [different] using ih distinct.2 later

theorem find_key_map {α κ : Type} [DecidableEq κ] (key : α → κ) (f : α → α) (kept : ∀ entry, key (f entry) = key entry)
    (entries : List α) (k : κ) : (entries.map f).find? (key · = k) = (entries.find? (key · = k)).map f := by
  rw [List.find?_map]
  congr 2
  funext entry
  rw [Function.comp_apply, kept]

namespace ValueTable

-- What never changes in a table: whose values it holds and where they come from.
def heads (table : ValueTable) : List (String × ValueSource) :=
  table.map fun entry => (entry.name, entry.source)

theorem get_name (name : String) (table : ValueTable) (entry : UniformValue)
    (found : get? name table = some entry) : entry.name = name := by
  simpa using List.find?_some found

theorem get_head (name : String) (table : ValueTable) (entry : UniformValue)
    (found : get? name table = some entry) : (name, entry.source) ∈ heads table := by
  have member : entry ∈ table := List.mem_of_find?_eq_some found
  rw [← get_name name table entry found]
  exact List.mem_map.mpr ⟨entry, member, rfl⟩

theorem heads_names (table : ValueTable) : (heads table).map (·.1) = table.map (·.name) := by
  simp [heads]

theorem get_of_member (table : ValueTable) (entry : UniformValue) (distinct : (table.map (·.name)).Nodup)
    (member : entry ∈ table) : get? entry.name table = some entry := find_key UniformValue.name table entry distinct member

theorem get_of_head (name : String) (source : ValueSource) (table : ValueTable)
    (distinct : ((heads table).map (·.1)).Nodup) (head : (name, source) ∈ heads table) :
    ∃ value, get? name table = some ⟨name, source, value⟩ := by
  obtain ⟨entry, member, same⟩ := List.mem_map.mp head
  obtain ⟨rfl, rfl⟩ := Prod.mk.inj same
  rw [heads_names] at distinct
  exact ⟨entry.current, get_of_member table entry distinct member⟩

theorem get_assign (name other : String) (value : SlotValue) (table : ValueTable) :
    get? name (assign other value table) =
      (get? name table).map fun entry => if name = other then { entry with current := value } else entry := by
  induction table with
  | nil => rfl
  | cons entry rest ih =>
      simp only [assign, List.map_cons] at ih ⊢
      by_cases written : entry.name = other <;> by_cases here : entry.name = name <;>
        simp_all [get?]

theorem assign_held (name : String) (value : SlotValue) (table : ValueTable) (distinct : (table.map (·.name)).Nodup)
    (held : (get? name table).map (·.current) = some value) : assign name value table = table := by
  obtain ⟨entry, found, rfl⟩ := Option.map_eq_some_iff.mp held
  have same : ∀ other ∈ table, other.name = name → other = entry := by
    intro other member here
    have own := get_of_member table other distinct member
    rw [here, found] at own
    exact (Option.some.inj own).symm
  conv => rhs; rw [← List.map_id table]
  refine List.map_congr_left fun other member => ?_
  by_cases here : other.name = name
  · rw [if_pos here, same other member here, id]
  · rw [if_neg here, id]

theorem heads_assign (name : String) (value : SlotValue) (table : ValueTable) :
    heads (assign name value table) = heads table := by
  simp only [heads, assign, List.map_map, List.map_inj_left, Function.comp_apply]
  intro entry _
  split <;> rfl

theorem heads_append (front back : ValueTable) : heads (front ++ back) = heads front ++ heads back := by
  simp [heads]

end ValueTable

open ValueTable

theorem initial_values_heads (tunables : List Tunable) :
    heads (initialValues (tunables.map (·.controlSpec))) = tunables.map fun t => (t.name, .knob t.knob) := by
  induction tunables with
  | nil => rfl
  | cons tunable rest ih =>
      obtain ⟨value, accepted⟩ := tunable.initial_accepted
      have first : tunable.controlSpec.knob.slotValue? tunable.controlSpec.initial = some value := accepted
      simp only [heads, initialValues, List.map_cons, List.filterMap_cons, first, Option.map_some] at ih ⊢
      exact congrArg _ ih

theorem specs_accepted (tunables : List Tunable) :
    ∀ spec ∈ tunables.map (·.controlSpec), spec.knob.accepts spec.initial = true := by
  intro spec member
  obtain ⟨tunable, _, rfl⟩ := List.mem_map.mp member
  exact Option.isSome_iff_exists.mpr tunable.initial_accepted

theorem initial_values_iff (tunables : List Tunable) (entry : UniformValue) :
    entry ∈ initialValues (tunables.map (·.controlSpec)) ↔
      ∃ t ∈ tunables, ∃ value, t.knob.slotValue? t.initial = some value ∧ ⟨t.name, .knob t.knob, value⟩ = entry := by
  simp only [initialValues, List.filterMap_map, List.mem_filterMap, Function.comp_apply, Option.map_eq_some_iff]
  rfl

theorem initial_values_get (tunables : List Tunable) (tunable : Tunable) (member : tunable ∈ tunables)
    (distinct : (tunables.map (·.name)).Nodup) :
    ∃ value, tunable.knob.slotValue? tunable.initial = some value ∧
      get? tunable.name (initialValues (tunables.map (·.controlSpec))) =
        some ⟨tunable.name, .knob tunable.knob, value⟩ := by
  obtain ⟨value, accepted⟩ := tunable.initial_accepted
  have present := (initial_values_iff tunables _).mpr ⟨tunable, member, value, accepted, rfl⟩
  refine ⟨value, accepted, get_of_member _ _ ?_ present⟩
  rw [← heads_names, initial_values_heads, List.map_map]
  exact distinct

def Blueprint.heads (plan : Blueprint) : List (String × ValueSource) :=
  plan.tunables.map (fun t => (t.name, .knob t.knob)) ++ plan.counter.toList.map (·, .frameCounter)

theorem blueprint_values_heads (plan : Blueprint) :
    heads (initialValues (plan.tunables.map (·.controlSpec)) ++ (plan.counter.map counterValue).toList) =
      plan.heads := by
  rw [heads_append, initial_values_heads]
  simp only [Blueprint.heads]
  cases plan.counter <;> rfl

end ShaderKnobs
