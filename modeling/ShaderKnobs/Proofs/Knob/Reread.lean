import ShaderKnobs.Knob.Decode
import ShaderKnobs.Proofs.Json.Image
import ShaderKnobs.Proofs.Knob.Range

set_option autoImplicit false

namespace ShaderKnobs

open Number (Binary Double)

namespace Json

def ofDouble : Double → Json
  | .finite x => .real x
  | _ => .null

theorem of_double_document (x : Double) : (ofDouble x).document = .double x := by
  cases x <;> rfl

theorem of_double_leaf (x : Double) : Within 0 (ofDouble x) := by
  cases x <;> trivial

def kept (x : Double) : Option Double := if x.isFinite then some x else none

theorem kept_iff (x y : Double) : kept x = some y ↔ x.isFinite ∧ x = y := by
  rw [kept, Option.ite_none_right_eq_some, Option.some.injEq]

theorem of_double_number (x : Double) : (ofDouble x).number? = kept x := by
  cases x <;> rfl

theorem of_double_optional (x : Double) : optional? number? (some (ofDouble x)) = some (kept x) := by
  cases x <;> rfl

def channelsDocument (channels : List (String × Double)) : Document :=
  .object (channels.map fun channel => (channel.1, .double channel.2))

def ofChannels (channels : List (String × Double)) : Json :=
  .object (Fields.ofEntries (channels.map fun channel => (channel.1, ofDouble channel.2)))

theorem channels_read (channels : List (String × Double)) :
    read? (channelsDocument channels).compact = some (ofChannels channels) := by
  let entries := channels.map fun channel => (channel.1, ofDouble channel.2)
  have documents : channelsDocument channels = .object (fieldDocuments entries) := by
    rw [field_documents_map, List.map_map]
    exact congrArg Document.object (List.map_congr_left fun channel _ => by rw [← of_double_document]; rfl)
  rw [documents]
  refine entries_read .nearest nearest_exact entries fun entry member => ?_
  obtain ⟨channel, _, rfl⟩ := List.mem_map.mp member
  exact within_more 0 _ (Nat.zero_le _) _ (of_double_leaf channel.2)

theorem channel_field (key : String) (channels : List (String × Double)) :
    (ofChannels channels).field? key = ((channels.reverse.find? (·.1 = key)).map (·.2)).map ofDouble := by
  rw [ofChannels, field?, Fields.get_of_entries, ← List.map_reverse, List.find?_map, Option.map_map, Option.map_map]
  rfl

theorem channel_number (key : String) (channels : List (String × Double)) :
    (ofChannels channels).numberField? key = ((channels.reverse.find? (·.1 = key)).map (·.2)).bind kept := by
  rw [numberField?, channel_field, Option.bind_map]
  exact Option.bind_congr fun x _ => of_double_number x

end Json

namespace Setting

open Json (channelsDocument ofChannels channel_field channel_number kept kept_iff)

theorem leaf_reread (setting : Setting) (data : Json) (leaf : Json.Within 0 data)
    (same : setting.document = data.document) : read? setting.document.compact = ofJson? data := by
  have within := Json.within_more 0 Json.maxDepth (Nat.zero_le _) data leaf
  have again : Json.read? data.document.compact = some data :=
    (Json.compact_read_iff .nearest data).mpr ⟨within, fun x _ => Json.nearest_exact x⟩
  rw [read?, same, again, Option.bind_some]

theorem channels_reread (channels : List (String × Double)) :
    read? (channelsDocument channels).compact =
      ((color? (ofChannels channels)).or (Knob.point3.setting? (ofChannels channels))).or
        (Knob.point2.setting? (ofChannels channels)) := by
  rw [read?, Json.channels_read, Option.bind_some]
  rfl

theorem color_reread (r g b : Double) (a : Option Double) :
    read? (Setting.color r g b a).document.compact = some (.color r g b a) ↔ (Setting.color r g b a).Finite := by
  let channels := [("r", r), ("g", g), ("b", b)] ++ (a.map fun alpha => ("a", alpha)).toList
  have text : (Setting.color r g b a).document = channelsDocument channels := by
    cases a <;> rfl
  have noPoint3 : Knob.point3.setting? (ofChannels channels) = none := by
    cases a <;> simp [Knob.setting?, channel_number, channels]
  have noPoint2 : Knob.point2.setting? (ofChannels channels) = none := by
    cases a <;> simp [Knob.setting?, channel_number, channels]
  have seen : color? (ofChannels channels) = (kept r).bind fun r => (kept g).bind fun g =>
      (kept b).bind fun b => some (.color r g b (a.bind kept)) := by
    cases a with
    | none => simp [color?, channel_number, channel_field, channels, Json.optional?]
    | some alpha => simp [color?, channel_number, channel_field, channels, Json.of_double_optional]
  rw [text, channels_reread, noPoint3, noPoint2, Option.or_none, Option.or_none, seen]
  cases a <;> simp [Option.bind_eq_some_iff, kept_iff, Finite]

-- Colors are tried before points, but a point has no red channel.
theorem point_no_color (channels : List (String × Double)) (plain : ∀ channel ∈ channels, channel.1 ≠ "r") :
    color? (ofChannels channels) = none := by
  have absent : channels.reverse.find? (·.1 = "r") = none := by
    simpa using plain
  rw [color?, channel_number, absent]
  rfl

theorem point3_reread (x y z : Double) :
    read? (Setting.vec3 x y z).document.compact = some (.vec3 x y z) ↔ (Setting.vec3 x y z).Finite := by
  let channels := [("x", x), ("y", y), ("z", z)]
  have text : (Setting.vec3 x y z).document = channelsDocument channels := rfl
  have seen : Knob.point3.setting? (ofChannels channels) =
      (kept x).bind fun x => (kept y).bind fun y => (kept z).bind fun z => some (.vec3 x y z) := by
    simp [Knob.setting?, channel_number, channels]
  -- Without a finite third coordinate a point of the plane may be read, which is another setting.
  have other : Knob.point2.setting? (ofChannels channels) ≠ some (.vec3 x y z) := by
    simp [Knob.setting?, Option.bind_eq_some_iff]
  rw [text, channels_reread, point_no_color channels (by simp [channels]), Option.none_or, Option.or_eq_some_iff, seen]
  simp [Option.bind_eq_some_iff, kept_iff, Finite, other]

theorem point2_reread (x y : Double) :
    read? (Setting.vec2 x y).document.compact = some (.vec2 x y) ↔ (Setting.vec2 x y).Finite := by
  let channels := [("x", x), ("y", y)]
  have text : (Setting.vec2 x y).document = channelsDocument channels := rfl
  have noPoint3 : Knob.point3.setting? (ofChannels channels) = none := by
    simp [Knob.setting?, channel_number, channels]
  have seen : Knob.point2.setting? (ofChannels channels) =
      (kept x).bind fun x => (kept y).bind fun y => some (.vec2 x y) := by
    simp [Knob.setting?, channel_number, channels]
  rw [text, channels_reread, point_no_color channels (by simp [channels]), noPoint3, Option.none_or, Option.none_or, seen]
  simp [Option.bind_eq_some_iff, kept_iff, Finite]

theorem integer_reread (n : Int64) : read? (Setting.int n).document.compact = some (.int n) := by
  have small : n.toInt < 2 ^ 63 := n.toInt_lt
  rw [leaf_reread (.int n) (Json.ofInt64 n) trivial rfl, Json.ofInt64, ofJson?, if_pos small, Int64.ofInt_toInt]

theorem number_reread (x : Double) :
    read? (Setting.float x).document.compact = some (.float x) ↔ (Setting.float x).Finite := by
  rw [leaf_reread (.float x) (Json.ofDouble x) (Json.of_double_leaf x) (Json.of_double_document x).symm]
  cases x with
  | nan => simp [Json.ofDouble, ofJson?, color?, Knob.setting?, Json.numberField?, Json.field?, Finite, Binary.isFinite]
  | infinite negative =>
      simp [Json.ofDouble, ofJson?, color?, Knob.setting?, Json.numberField?, Json.field?, Finite, Binary.isFinite]
  | finite x => simp [Json.ofDouble, ofJson?, Finite, Binary.isFinite]

theorem reread_iff_finite (setting : Setting) : read? setting.document.compact = some setting ↔ setting.Finite := by
  cases setting with
  | bool value =>
      rw [leaf_reread (.bool value) (.bool value) trivial rfl]
      exact ⟨fun _ => trivial, fun _ => rfl⟩
  | int n => exact ⟨fun _ => trivial, fun _ => integer_reread n⟩
  | float x => exact number_reread x
  | color r g b a => exact color_reread r g b a
  | vec3 x y z => exact point3_reread x y z
  | vec2 x y => exact point2_reread x y

end Setting

end ShaderKnobs
