import ShaderKnobs.Json.Value

set_option autoImplicit false

namespace ShaderKnobs.Fields

def Rising (fields : Fields) : Prop := fields.Pairwise fun a b => a.1 < b.1

theorem get_put (key other : String) (value : Json) (fields : Fields) :
    get? key (put other value fields) = if key = other then some value else get? key fields := by
  induction fields with
  | nil => rfl
  | cons field rest ih =>
      obtain ⟨first, old⟩ := field
      by_cases same : other = first
      · simp only [put, if_pos same]
        subst same
        by_cases here : key = other
        · simp only [get?, if_pos here]
        · simp only [get?, if_neg here]
      by_cases less : other < first
      · simp only [put, if_neg same, if_pos less]
        rfl
      · simp only [put, if_neg same, if_neg less, get?, ih]
        by_cases here : key = first
        · have different : key ≠ other := fun also => same (also.symm.trans here)
          simp only [if_pos here, if_neg different]
        · simp only [if_neg here]

theorem put_keys (key : String) (value : Json) (fields : Fields) (field : String × Json)
    (member : field ∈ put key value fields) : field.1 = key ∨ field ∈ fields := by
  induction fields with
  | nil =>
      rw [put, List.mem_singleton] at member
      exact .inl (congrArg Prod.fst member)
  | cons head rest ih =>
      obtain ⟨first, old⟩ := head
      by_cases same : key = first
      · simp only [put, if_pos same] at member
        rcases List.mem_cons.mp member with here | later
        · exact .inl (congrArg Prod.fst here)
        · exact .inr (List.mem_cons_of_mem _ later)
      by_cases less : key < first
      · simp only [put, if_neg same, if_pos less] at member
        rcases List.mem_cons.mp member with here | later
        · exact .inl (congrArg Prod.fst here)
        · exact .inr later
      · simp only [put, if_neg same, if_neg less] at member
        rcases List.mem_cons.mp member with here | later
        · exact .inr (here ▸ List.mem_cons_self)
        · exact (ih later).imp_right (List.mem_cons_of_mem _)

theorem put_rising (key : String) (value : Json) (fields : Fields) (rising : Rising fields) :
    Rising (put key value fields) := by
  induction fields with
  | nil => exact List.pairwise_singleton _ _
  | cons head rest ih =>
      obtain ⟨first, old⟩ := head
      obtain ⟨above, later⟩ := List.pairwise_cons.mp rising
      by_cases same : key = first
      · simp only [put, if_pos same]
        exact List.pairwise_cons.mpr ⟨same ▸ above, later⟩
      by_cases less : key < first
      · simp only [put, if_neg same, if_pos less]
        refine List.pairwise_cons.mpr ⟨fun field member => ?_, rising⟩
        rcases List.mem_cons.mp member with rfl | member
        · exact less
        · exact String.lt_trans less (above field member)
      · simp only [put, if_neg same, if_neg less]
        refine List.pairwise_cons.mpr ⟨fun field member => ?_, ih later⟩
        rcases put_keys key value rest field member with own | old
        · rw [own]
          apply Decidable.byContradiction
          exact fun notMore => same (String.le_antisymm notMore less)
        · exact above field old

theorem get_member (key : String) (value : Json) (fields : Fields) (found : get? key fields = some value) :
    (key, value) ∈ fields := by
  induction fields with
  | nil => cases found
  | cons head rest ih =>
      obtain ⟨first, old⟩ := head
      by_cases here : key = first
      · rw [get?, if_pos here] at found
        rw [here, Option.some.inj found]
        exact List.mem_cons_self
      · rw [get?, if_neg here] at found
        exact List.mem_cons_of_mem _ (ih found)

theorem rising_absent (key : String) (value : Json) (rest : Fields) (rising : Rising ((key, value) :: rest)) :
    get? key rest = none := by
  cases found : get? key rest with
  | none => rfl
  | some later =>
      exact absurd ((List.pairwise_cons.mp rising).1 _ (get_member key later rest found)) (String.lt_irrefl key)

theorem member_get (key : String) (value : Json) (fields : Fields) (rising : Rising fields)
    (member : (key, value) ∈ fields) : get? key fields = some value := by
  induction fields with
  | nil => cases member
  | cons head rest ih =>
      obtain ⟨above, later⟩ := List.pairwise_cons.mp rising
      rcases List.mem_cons.mp member with rfl | member
      · rw [get?, if_pos rfl]
      · have less : head.1 < key := above (key, value) member
        have different : key ≠ head.1 := fun same => String.lt_irrefl key (same ▸ less)
        rw [get?, if_neg different]
        exact ih later member

theorem last_of_rising (key : String) (fields : Fields) (rising : Rising fields) :
    (fields.reverse.find? (·.1 = key)).map (·.2) = get? key fields := by
  induction fields with
  | nil => rfl
  | cons head rest ih =>
      obtain ⟨first, value⟩ := head
      rw [List.reverse_cons, List.find?_append, Option.map_or, ih (List.pairwise_cons.mp rising).2]
      by_cases here : key = first
      · rw [here, rising_absent first value rest rising, get?, if_pos rfl]
        simp
      · rw [get?, if_neg here]
        simp [Ne.symm here]

theorem rising_head (key other : String) (value old : Json) (front rest : Fields)
    (rising : Rising ((other, old) :: rest)) (same : get? key ((key, value) :: front) = get? key ((other, old) :: rest)) :
    key = other ∨ other < key := by
  by_cases here : key = other
  · exact .inl here
  · rw [get?, if_pos rfl, get?, if_neg here] at same
    exact .inr ((List.pairwise_cons.mp rising).1 _ (get_member key value rest same.symm))

theorem rising_unique (a b : Fields) (first : Rising a) (second : Rising b)
    (same : ∀ key, get? key a = get? key b) : a = b := by
  induction a generalizing b with
  | nil =>
      cases b with
      | nil => rfl
      | cons head rest =>
          have found := same head.1
          rw [get?, get?, if_pos rfl] at found
          cases found
  | cons head rest ih =>
      obtain ⟨k, v⟩ := head
      cases b with
      | nil =>
          have found := same k
          rw [get?, get?, if_pos rfl] at found
          cases found
      | cons head' rest' =>
          obtain ⟨l, w⟩ := head'
          have equal : k = l := by
            rcases rising_head k l v w rest rest' second (same k) with equal | less
            · exact equal
            · rcases rising_head l k w v rest' rest first (same l).symm with equal | more
              · exact equal.symm
              · exact absurd (String.lt_trans less more) (String.lt_irrefl l)
          subst equal
          have value := same k
          rw [get?, get?, if_pos rfl, if_pos rfl] at value
          obtain rfl := Option.some.inj value
          refine congrArg ((k, v) :: ·) (ih rest' (List.pairwise_cons.mp first).2 (List.pairwise_cons.mp second).2 ?_)
          intro key
          by_cases here : key = k
          · rw [here, rising_absent k v rest first, rising_absent k v rest' second]
          · have agree := same key
            rw [get?, get?, if_neg here, if_neg here] at agree
            exact agree

theorem put_all (entries : List (String × Json)) (fields : Fields) (rising : Rising fields) :
    let all := entries.foldl (fun fields entry => put entry.1 entry.2 fields) fields
    Rising all ∧ ∀ key, get? key all = ((entries.reverse.find? (·.1 = key)).map (·.2)).or (get? key fields) := by
  induction entries generalizing fields with
  | nil => exact ⟨rising, fun key => rfl⟩
  | cons entry rest ih =>
      obtain ⟨rising', found⟩ := ih (put entry.1 entry.2 fields) (put_rising entry.1 entry.2 fields rising)
      refine ⟨rising', fun key => ?_⟩
      rw [List.foldl_cons, found key, get_put, List.reverse_cons, List.find?_append]
      cases rest.reverse.find? (·.1 = key) with
      | some later => rfl
      | none =>
          by_cases here : key = entry.1
          · simp [here]
          · simp [here, Ne.symm here]

theorem get_of_entries (key : String) (entries : List (String × Json)) :
    get? key (ofEntries entries) = (entries.reverse.find? (·.1 = key)).map (·.2) := by
  rw [ofEntries, (put_all entries [] .nil).2, get?, Option.or_none]

theorem of_entries_rising (entries : List (String × Json)) : Rising (ofEntries entries) :=
  (put_all entries [] .nil).1

theorem of_rising_entries (fields : Fields) (rising : Rising fields) : ofEntries fields = fields := by
  refine rising_unique _ fields (of_entries_rising fields) rising fun key => ?_
  rw [get_of_entries, last_of_rising key fields rising]

end ShaderKnobs.Fields
