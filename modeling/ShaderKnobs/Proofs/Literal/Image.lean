import ShaderKnobs.Proofs.Json.Fields
import ShaderKnobs.Proofs.Literal.Grammar

set_option autoImplicit false

namespace ShaderKnobs.Literal

-- Data that a literal can stand for, given what its items and fields may be.
inductive Fits (inside : Json → Prop) : Json → Prop where
  | null : Fits inside .null
  | bool (value : Bool) : Fits inside (.bool value)
  | whole (n : Whole) : n.value < 2 ^ 63 → Fits inside (.whole n)
  | real (x : Number.Finite Number.double) : Fits inside (.real x)
  | text (value : String) : Fits inside (.text value)
  | array (items : List Json) : (∀ item ∈ items, inside item) → Fits inside (.array items)
  | object (fields : Fields) : Fields.Rising fields → (∀ field ∈ fields, inside field.2) → Fits inside (.object fields)

def Shallow : Nat → Json → Prop
  | 0 => Fits fun _ => False
  | depth + 1 => Fits (Shallow depth)

theorem signed_below (negative : Bool) (magnitude bound : Nat) (below : magnitude < bound) :
    signed negative magnitude < bound := by
  cases negative with
  | false => exact Int.ofNat_lt.mpr below
  | true =>
      rw [signed, if_pos rfl]
      omega

theorem number_fits (inside : Json → Prop) (text : List Char) (data : Json) (rest : List Char)
    (number : Numerical text data rest) : Fits inside data := by
  cases number with
  | hex digits rest negative mark magnitude n _ _ _ _ bound same =>
      exact .whole n (same ▸ signed_below negative magnitude _ bound)
  | integer digits rest negative n _ _ _ _ range => exact .whole n range.2
  | real whole after next rest negative fraction exponent x => exact .real x

theorem sequence_all {α : Type} (closing : Char) (element : List Char → α → List Char → Prop) (known : α → Prop)
    (each : ∀ text a rest, element text a rest → known a) (text : List Char) (all : List α) (rest : List Char)
    (sequence : Sequence closing element text all rest) : ∀ a ∈ all, known a := by
  induction sequence with
  | close text rest _ => exact fun a member => nomatch member
  | last text body next rest a _ first _ =>
      intro b member
      rw [List.mem_singleton.mp member]
      exact each body a next first
  | more text body next after rest a others _ first _ _ ih =>
      intro b member
      rcases List.mem_cons.mp member with rfl | later
      · exact each body b next first
      · exact ih b later

theorem gathered_member (members : List (String × Json)) (fields : Fields) (gathers : Gathers members fields)
    (field : String × Json) (member : field ∈ fields) : field ∈ members := by
  obtain ⟨key, value⟩ := field
  have found := Fields.member_get key value fields gathers.rising member
  rw [gathers.last] at found
  obtain ⟨entry, last, rfl⟩ := Option.map_eq_some_iff.mp found
  have named := List.find?_some last
  obtain rfl : entry.1 = key := of_decide_eq_true named
  exact List.mem_reverse.mp (List.mem_of_find?_eq_some last)

theorem level_fits (element : List Char → Json → List Char → Prop) (inside : Json → Prop)
    (each : ∀ text data rest, element text data rest → inside data) (text : List Char) (data : Json) (rest : List Char)
    (spelled : Level element text data rest) : Fits inside data := by
  cases spelled with
  | word word _ _ known =>
      simp only [words, List.mem_cons, Prod.mk.injEq, List.not_mem_nil, or_false] at known
      rcases known with ⟨_, rfl⟩ | ⟨_, rfl⟩ | ⟨_, rfl⟩ | ⟨_, rfl⟩
      · exact .bool true
      · exact .bool false
      · exact .null
      · exact .null
  | text _ value _ _ => exact .text value
  | number _ _ _ number => exact number_fits inside text data rest number
  | array text items _ sequence => exact .array items (sequence_all _ element inside each text items rest sequence)
  | object text members fields _ sequence gathers =>
      have member : ∀ text (field : String × Json) rest, Member element text field rest → inside field.2 := by
        intro text field rest spelled
        cases spelled with
        | mk between after body _ key data _ _ _ spelled => exact each body data rest spelled
      have all := sequence_all _ (Member element) (fun field => inside field.2) member text members rest sequence
      exact .object fields gathers.rising fun field inFields =>
        all field (gathered_member members fields gathers field inFields)

theorem nested_shallow (depth : Nat) (text : List Char) (data : Json) (rest : List Char)
    (spelled : Nested depth text data rest) : Shallow depth data := by
  induction depth generalizing text data rest with
  | zero => exact level_fits _ _ (fun _ _ _ absent => absent) text data rest spelled
  | succ depth ih => exact level_fits (Nested depth) (Shallow depth) ih text data rest spelled

end ShaderKnobs.Literal
