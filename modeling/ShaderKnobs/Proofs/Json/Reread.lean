import Mathlib.Data.List.Forall2
import ShaderKnobs.Proofs.Json.Token
import ShaderKnobs.Proofs.Literal.Reprint

set_option autoImplicit false

namespace ShaderKnobs

open Document (compactChars quoted)
open Literal (listed writeField)
open Piece (spelled)

namespace Json

-- Data with at most so many arrays and objects inside one another, and fields by rising key.
def Within : Nat → Json → Prop
  | 0, .array _ => False
  | 0, .object _ => False
  | levels + 1, .array items => ∀ item ∈ items, Within levels item
  | levels + 1, .object fields => Fields.Rising fields ∧ ∀ field ∈ fields, Within levels field.2
  | _, _ => True

theorem within_more (fewer more : Nat) (fits : fewer ≤ more) (data : Json) (within : Within fewer data) :
    Within more data := by
  induction fewer generalizing more data with
  | zero =>
      cases data with
      | array items => exact within.elim
      | object fields => exact within.elim
      | _ => cases more <;> trivial
  | succ fewer ih =>
      obtain ⟨more, rfl⟩ := Nat.exists_eq_add_of_le' (Nat.le_of_add_left_le fits)
      have fits := Nat.le_of_succ_le_succ fits
      cases data with
      | array items => exact fun item member => ih more fits item (within item member)
      | object fields => exact ⟨within.1, fun field member => ih more fits field.2 (within.2 field member)⟩
      | _ => trivial

inductive Occurs (x : Number.Finite Number.double) : Json → Prop where
  | here : Occurs x (.real x)
  | item (items : List Json) (item : Json) : item ∈ items → Occurs x item → Occurs x (.array items)
  | field (fields : Fields) (field : String × Json) : field ∈ fields → Occurs x field.2 → Occurs x (.object fields)

end Json

-- A double that its own text gives again.
def RealReader.Keeps (real : RealReader) (x : Number.Finite Number.double) : Prop :=
  Json.readWith? real (Json.real x).compact = some (.real x)

def RealReader.Exact (real : RealReader) : Prop := ∀ x, real.Keeps x

namespace Raw

theorem listed_more {α : Type} (closing : Char) (write : α → List Char) (a b : α) (others : List α) (rest : List Char) :
    listed closing [] [] write (a :: b :: others) ++ rest =
      write a ++ ',' :: (listed closing [] [] write (b :: others) ++ rest) := by
  simp [listed]

def Reads {α β : Type} (element : Read β) (write : α → List Char) (value : α → β) (a : α) : Prop :=
  ∀ rest, Stops rest →
    skipSpace (write a ++ rest) = write a ++ rest ∧ element (write a ++ rest) = some (value a, rest)

theorem closing_stops (closing : Char) (closes : closing = ']' ∨ closing = '\x7d') (rest : List Char) :
    Stops (closing :: rest) := by
  intro c head
  obtain rfl := Option.some.inj head
  rcases closes with rfl | rfl <;> decide

theorem comma_stops (rest : List Char) : Stops (',' :: rest) := by
  intro c head
  obtain rfl := Option.some.inj head
  decide

section

variable {α β : Type} (closing : Char) (closes : closing = ']' ∨ closing = '\x7d') (element : Read β)
  (write : α → List Char) (value : α → β)

include closes

theorem listed_read (all : List α) (each : ∀ a ∈ all, Reads element write value a) (some_ : all ≠ []) (fuel : Nat)
    (enough : all.length ≤ fuel) (rest : List Char) :
    readListed? closing element fuel (listed closing [] [] write all ++ rest) = some (all.map value, rest) := by
  have apart : skipSpace (closing :: rest) = closing :: rest ∧ closing ≠ ',' := by
    rcases closes with rfl | rfl <;> exact ⟨rfl, by decide⟩
  induction all generalizing fuel with
  | nil => exact absurd rfl some_
  | cons a others ih =>
      obtain ⟨fuel, rfl⟩ := Nat.exists_eq_add_one_of_ne_zero (Nat.ne_zero_of_lt enough)
      have first := each a List.mem_cons_self
      cases others with
      | nil =>
          obtain ⟨begins, read⟩ := first (closing :: rest) (closing_stops closing closes rest)
          simp [listed, readListed?, begins, read, apart]
      | cons b others =>
          have later := ih (fun c member => each c (List.mem_cons_of_mem a member)) (List.cons_ne_nil b others) fuel
            (Nat.le_of_succ_le_succ enough)
          obtain ⟨begins, read⟩ := first (',' :: (listed closing [] [] write (b :: others) ++ rest)) (comma_stops _)
          have comma : ∀ rest, skipSpace (',' :: rest) = ',' :: rest := fun _ => rfl
          rw [listed_more, readListed?, begins, read]
          simp [comma, later]

omit closes in
theorem listed_length (all : List α) : all.length ≤ (listed closing [] [] write all).length := by
  induction all with
  | nil => exact Nat.zero_le _
  | cons a others ih =>
      cases others with
      | nil => simp [listed]
      | cons b others =>
          have parts := congrArg List.length (listed_more closing write a b others [])
          simp only [List.length_append, List.length_cons, List.append_nil] at ih parts ⊢
          omega

omit closes in
theorem listed_member_length (all : List α) (a : α) (member : a ∈ all) :
    (write a).length ≤ (listed closing [] [] write all).length := by
  induction all with
  | nil => cases member
  | cons first others ih =>
      cases others with
      | nil =>
          obtain rfl := List.mem_singleton.mp member
          simp [listed]
      | cons second others =>
          have parts := congrArg List.length (listed_more closing write first second others [])
          simp only [List.length_append, List.length_cons, List.append_nil] at parts
          rcases List.mem_cons.mp member with rfl | later
          · omega
          · have inside := ih later
            omega

theorem listed_read_whole (all : List α) (each : ∀ a ∈ all, Reads element write value a) (some_ : all ≠ [])
    (rest : List Char) :
    let text := listed closing [] [] write all ++ rest
    readListed? closing element (text.length + 1) text = some (all.map value, rest) := by
  have enough := listed_length closing write all
  refine listed_read closing closes element write value all each some_ _ ?_ rest
  rw [List.length_append]
  omega

theorem listed_first (a : α) (others : List α) (rest : List Char) :
    ∃ next, Stops next ∧ listed closing [] [] write (a :: others) ++ rest = write a ++ next := by
  cases others with
  | nil => exact ⟨closing :: rest, closing_stops closing closes rest, by simp [listed]⟩
  | cons b others =>
      exact ⟨',' :: (listed closing [] [] write (b :: others) ++ rest), comma_stops _,
        listed_more closing write a b others rest⟩

end

def Within : Nat → Raw → Prop
  | 0, .array _ => False
  | 0, .object _ => False
  | levels + 1, .array items => ∀ item ∈ items, Within levels item
  | levels + 1, .object entries => ∀ entry ∈ entries, Within levels entry.2
  | _, _ => True

-- What a text's front is read as, whatever stops it. A level for each of its characters is enough.
def ReadAs (chars : List Char) (raw : Raw) : Prop :=
  ∀ levels, chars.length ≤ levels → ∀ rest, Stops rest → readValue? levels (chars ++ rest) = some (raw, rest)

theorem ReadAs.unique {chars : List Char} {one two : Raw} (first : ReadAs chars one) (second : ReadAs chars two) :
    one = two := by
  have read := first _ (Nat.le_refl _) [] (fun _ none => nomatch none)
  rw [second _ (Nat.le_refl _) [] (fun _ none => nomatch none)] at read
  exact (Prod.mk.inj (Option.some.inj read)).1.symm

theorem read_begins (levels : Nat) (chars : List Char) (raw : Raw) (rest : List Char)
    (read : readValue? levels chars = some (raw, rest)) :
    ∃ c tail, chars = c :: tail ∧ isSpace c = false ∧ c ≠ ']' := by
  have fails : ∀ c ∈ [' ', '\n', '\t', '\r', ']'], ∀ tail, readValue? levels (c :: tail) = none := by
    intro c member tail
    simp only [List.mem_cons, List.not_mem_nil, or_false] at member
    rcases member with rfl | rfl | rfl | rfl | rfl <;> cases levels <;> rfl
  cases chars with
  | nil => cases levels <;> cases read
  | cons c tail =>
      have apart : c ∉ [' ', '\n', '\t', '\r', ']'] := by
        intro member
        rw [fails c member tail] at read
        cases read
      simp only [List.mem_cons, List.not_mem_nil, or_false, not_or] at apart
      exact ⟨c, tail, rfl, by simp [isSpace, apart], apart.2.2.2.2⟩

theorem read_as_reads {α : Type} (levels : Nat) (write : α → List Char) (value : α → Raw) (a : α)
    (read : ReadAs (write a) (value a)) (enough : (write a).length ≤ levels) : Reads (readValue? levels) write value a := by
  intro rest stops
  have whole := read levels enough rest stops
  obtain ⟨c, tail, shape, plain, _⟩ := read_begins levels _ _ rest whole
  refine ⟨?_, whole⟩
  rw [shape, skipSpace, List.dropWhile_cons_of_neg (by simp [plain])]

theorem array_read (items : List (Document × Raw)) (each : ∀ item ∈ items, ReadAs item.1.compactChars item.2) :
    ReadAs (compactChars (.array (items.map Prod.fst))) (.array (items.map Prod.snd)) := by
  intro levels enough rest _
  rw [compactChars, Literal.compact_items] at enough ⊢
  obtain ⟨levels, rfl⟩ := Nat.exists_eq_add_one_of_ne_zero (Nat.ne_zero_of_lt enough)
  have reads : ∀ item ∈ items, Reads (readValue? levels) (fun item => compactChars item.1) Prod.snd item := by
    intro item member
    have inside := listed_member_length ']' (fun item : Document × Raw => compactChars item.1) items item member
    refine read_as_reads levels _ _ item (each item member) (inside.trans ?_)
    simpa using enough
  rw [List.cons_append, readValue?]
  cases items with
  | nil => rfl
  | cons item others =>
      obtain ⟨next, stops, front⟩ := listed_first ']' (.inl rfl) (fun item => compactChars item.1) item others rest
      obtain ⟨begins, first⟩ := reads item List.mem_cons_self next stops
      have open_ : ∀ tail, compactChars item.1 ++ next ≠ ']' :: tail := by
        obtain ⟨c, _, shape, _, other⟩ := read_begins levels _ _ next first
        intro tail same
        exact other (List.cons.inj (shape.symm.trans same)).1
      have all := listed_read_whole ']' (.inl rfl) _ _ _ (item :: others) reads (List.cons_ne_nil _ _) rest
      unfold readArray?
      split
      · next tail closed =>
          rw [front, begins] at closed
          exact absurd closed (open_ tail)
      · rw [all]
        rfl

theorem field_read (levels : Nat) (entry : String × Document × Raw) (read : ReadAs entry.2.1.compactChars entry.2.2)
    (enough : entry.2.1.compactChars.length ≤ levels) :
    Reads (readField? (readValue? levels)) (writeField [] fun value => compactChars value.1)
      (fun entry => (spelled entry.1, entry.2.2)) entry := by
  intro rest stops
  obtain ⟨begins, value⟩ := read_as_reads levels (fun value : Document × Raw => compactChars value.1) Prod.snd entry.2 read
    enough rest stops
  obtain ⟨body, shape, key⟩ := text_read entry.1 (':' :: (compactChars entry.2.1 ++ rest))
  have colon : ∀ rest, skipSpace (':' :: rest) = ':' :: rest := fun _ => rfl
  have text : writeField [] (fun value => compactChars value.1) entry ++ rest = '"' :: body := by
    rw [← shape, writeField, List.nil_append, List.append_assoc, List.cons_append]
  refine ⟨by rw [text]; rfl, ?_⟩
  rw [text, readField?, key]
  dsimp only at begins value
  simp [colon, begins, value]

theorem object_read (entries : List (String × Document × Raw))
    (each : ∀ entry ∈ entries, ReadAs entry.2.1.compactChars entry.2.2) :
    ReadAs (compactChars (.object (entries.map fun entry => (entry.1, entry.2.1))))
      (.object (entries.map fun entry => (spelled entry.1, entry.2.2))) := by
  intro levels enough rest _
  rw [compactChars, Literal.compact_fields Prod.fst] at enough ⊢
  obtain ⟨levels, rfl⟩ := Nat.exists_eq_add_one_of_ne_zero (Nat.ne_zero_of_lt enough)
  have reads : ∀ entry ∈ entries, Reads (readField? (readValue? levels)) (writeField [] fun value => compactChars value.1)
      (fun entry => (spelled entry.1, entry.2.2)) entry := by
    intro entry member
    have inside := listed_member_length '\x7d' (writeField [] fun value : Document × Raw => compactChars value.1) entries
      entry member
    refine field_read levels entry (each entry member) ?_
    simp only [writeField, List.length_append, List.length_cons, List.length_nil] at inside enough
    omega
  rw [List.cons_append, readValue?]
  cases entries with
  | nil => rfl
  | cons entry others =>
      obtain ⟨next, stops, front⟩ := listed_first '\x7d' (.inr rfl)
        (writeField [] fun value => compactChars value.1) entry others rest
      obtain ⟨begins, first⟩ := reads entry List.mem_cons_self next stops
      have all := listed_read_whole '\x7d' (.inr rfl) _ _ _ (entry :: others) reads (List.cons_ne_nil _ _) rest
      unfold readObject?
      split
      · next tail closed =>
          rw [front, begins] at closed
          rw [closed] at first
          cases first
      · rw [all]
        rfl

theorem scalar_read (chars : List Char) (raw : Raw)
    (read : ∀ rest, Stops rest → readScalar? (chars ++ rest) = some (raw, rest)) : ReadAs chars raw := by
  intro levels _ rest stops
  have scalar := read rest stops
  cases levels with
  | zero => exact scalar
  | succ levels =>
      unfold readValue?
      split
      · next same =>
          rw [same] at scalar
          cases scalar
      · next same =>
          rw [same] at scalar
          cases scalar
      · exact scalar

theorem quoted_read (value : String) : ReadAs (quoted value) (.text (spelled value)) := by
  refine scalar_read _ _ fun rest _ => ?_
  obtain ⟨body, shape, read⟩ := text_read value rest
  rw [shape, readScalar?, read]
  rfl

theorem read_compact (doc : Document) (raw : Raw) (read : ReadAs doc.compactChars raw) :
    read? doc.compact = some raw := by
  have whole := read _ (Nat.le_refl _) [] (fun _ none => nomatch none)
  rw [List.append_nil] at whole
  obtain ⟨c, tail, shape, plain, _⟩ := read_begins _ _ raw [] whole
  have begins : skipSpace doc.compactChars = doc.compactChars := by
    rw [shape, skipSpace, List.dropWhile_cons_of_neg (by simp [plain])]
  rw [read?, Document.compact, String.toList_ofList, begins, whole]
  rfl

section

variable (real : RealReader) (levels : Nat)

theorem json_null : json? real levels .null = some .null := by
  cases levels <;> rfl

theorem json_bool (value : Bool) : json? real levels (.bool value) = some (.bool value) := by
  cases levels <;> rfl

theorem json_number (numeral : Number.Numeral) (isInteger : Bool) :
    json? real levels (.number numeral isInteger) = number? real numeral isInteger := by
  cases levels <;> rfl

theorem json_text (pieces : List Piece) : json? real levels (.text pieces) = (Piece.text? pieces).map .text := by
  cases levels <;> rfl

theorem json_spelled (value : String) : json? real levels (.text (spelled value)) = some (.text value) := by
  rw [json_text, Piece.spelled_text, Option.map_some]

end

theorem keyed_spelled {α : Type} (value : α → Raw) (entries : List (String × α)) :
    keyed? (entries.map fun entry => (spelled entry.1, value entry.2)) =
      some (entries.map fun entry => (entry.1, value entry.2)) := by
  rw [keyed?]
  induction entries with
  | nil => rfl
  | cons entry rest ih => simp [Piece.spelled_text, ih]

theorem map_m_matched {α β : Type} (decode : α → Option β) (all : List α) (decoded : List β) :
    all.mapM decode = some decoded ↔ List.Forall₂ (fun a b => decode a = some b) all decoded := by
  induction all generalizing decoded with
  | nil => simp [eq_comm]
  | cons a rest ih =>
      rw [List.mapM_cons, List.forall₂_cons_left_iff]
      simp only [Option.bind_eq_bind, Option.bind_eq_some_iff, ih]
      constructor
      · rintro ⟨b, first, others, later, same⟩
        exact ⟨b, others, first, later, (Option.some.inj same).symm⟩
      · rintro ⟨b, others, first, later, rfl⟩
        exact ⟨b, first, others, later, rfl⟩

def Decodes (decode : Raw → Option Json) (entry : String × Raw) (field : String × Json) : Prop :=
  entry.1 = field.1 ∧ decode entry.2 = some field.2

theorem fields_matched (decode : Raw → Option Json) (entries : List (String × Raw)) (fields : Fields) :
    fields? decode entries = some fields ↔
      ∃ decoded, List.Forall₂ (Decodes decode) entries decoded ∧ Fields.ofEntries decoded = fields := by
  have each : (fun entry field => (decode entry.2).map (entry.1, ·) = some field) = Decodes decode := by
    funext entry field
    simp [Decodes, Option.map_eq_some_iff, Prod.ext_iff, and_comm]
  rw [fields?, Option.map_eq_some_iff]
  simp only [map_m_matched]
  rw [each]

theorem matched_keys (decode : Raw → Option Json) (entries : List (String × Raw)) (decoded : List (String × Json))
    (matched : List.Forall₂ (Decodes decode) entries decoded) : decoded.map (·.1) = entries.map (·.1) := by
  induction matched with
  | nil => rfl
  | cons first _ ih => rw [List.map_cons, List.map_cons, ih, first.1]

end Raw

namespace Json

open Raw (ReadAs json?)

theorem map_m_same {α β : Type} (decode : β → Option α) (write : α → β) (all : List α) :
    (all.map write).mapM decode = some all ↔ ∀ a ∈ all, decode (write a) = some a := by
  rw [Raw.map_m_matched, List.forall₂_map_left_iff, List.forall₂_same]

section

variable (decode : Raw → Option Json) (write : Json → Raw) (fields : Fields)

theorem entries_same :
    List.Forall₂ (Raw.Decodes decode) (fields.map fun field => (field.1, write field.2)) fields ↔
      ∀ field ∈ fields, decode (write field.2) = some field.2 := by
  rw [List.forall₂_map_left_iff, List.forall₂_same]
  exact forall₂_congr fun field _ => and_iff_right rfl

theorem fields_decoded (each : ∀ field ∈ fields, decode (write field.2) = some field.2) :
    Raw.fields? decode (fields.map fun field => (field.1, write field.2)) = some (Fields.ofEntries fields) :=
  (Raw.fields_matched _ _ _).mpr ⟨fields, (entries_same decode write fields).mpr each, rfl⟩

theorem fields_same (rising : Fields.Rising fields) :
    Raw.fields? decode (fields.map fun field => (field.1, write field.2)) = some fields ↔
      ∀ field ∈ fields, decode (write field.2) = some field.2 := by
  constructor
  · intro gathered
    obtain ⟨decoded, matched, gathered⟩ := (Raw.fields_matched _ _ _).mp gathered
    have keys := Raw.matched_keys decode _ decoded matched
    have rising' : Fields.Rising decoded := by
      have sorted : (decoded.map (·.1)).Pairwise (· < ·) := by
        rw [keys, List.map_map]
        exact List.pairwise_map.mpr rising
      exact List.pairwise_map.mp sorted
    rw [Fields.of_rising_entries decoded rising'] at gathered
    exact (entries_same decode write fields).mp (gathered ▸ matched)
  · intro each
    rw [fields_decoded decode write fields each, Fields.of_rising_entries fields rising]

end

structure ReadBack (levels : Nat) (data : Json) (raw : Raw) : Prop where
  text : ReadAs data.document.compactChars raw
  within : raw.Within levels
  same : ∀ real, json? real levels raw = some data ↔ ∀ x, Occurs x data → real.Keeps x

theorem without_reals (levels : Nat) (data : Json) (raw : Raw) (text : ReadAs data.document.compactChars raw)
    (within : raw.Within levels) (none : ∀ x, ¬Occurs x data) (made : ∀ real, json? real levels raw = some data) :
    ReadBack levels data raw :=
  ⟨text, within, fun real => ⟨fun _ x occurs => absurd occurs (none x), fun _ => made real⟩⟩

theorem leaf_read (levels : Nat) (data : Json) (leaf : Within 0 data) : ∃ raw, ReadBack levels data raw := by
  cases data with
  | null =>
      have text : ReadAs Json.null.document.compactChars .null := Raw.scalar_read _ _ fun _ _ => rfl
      exact ⟨.null, without_reals levels .null .null text (by cases levels <;> trivial) (by rintro _ ⟨⟩)
        fun real => Raw.json_null real levels⟩
  | bool value =>
      have text : ReadAs (Json.bool value).document.compactChars (.bool value) :=
        Raw.scalar_read _ _ fun _ _ => by cases value <;> rfl
      exact ⟨.bool value, without_reals levels _ _ text (by cases levels <;> trivial) (by rintro _ ⟨⟩)
        fun real => Raw.json_bool real levels value⟩
  | whole n =>
      obtain ⟨numeral, read, made⟩ := Raw.whole_number_read n
      exact ⟨.number numeral true, without_reals levels _ _ (Raw.scalar_read _ _ read) (by cases levels <;> trivial)
        (by rintro _ ⟨⟩) fun real => (Raw.json_number real levels numeral true).trans (made real)⟩
  | real x =>
      obtain ⟨numeral, read, _⟩ := Raw.real_number_read x
      have text : ReadAs (Json.real x).document.compactChars (.number numeral false) := Raw.scalar_read _ _ read
      have own : ∀ real levels, json? real levels (.number numeral false) = (real numeral).map .real := by
        intro real levels
        simp [Raw.json_number, Raw.number?]
      refine ⟨.number numeral false, text, by cases levels <;> trivial, fun real => ?_⟩
      have keeps : RealReader.Keeps real x ↔ (real numeral).map Json.real = some (.real x) := by
        rw [RealReader.Keeps, readWith?, Json.compact, Raw.read_compact _ _ text, Option.bind_some, own]
      rw [own, ← keeps]
      refine ⟨fun kept y occurs => ?_, fun all => all x .here⟩
      cases occurs
      exact kept
  | text value =>
      exact ⟨.text (spelled value), without_reals levels _ _ (Raw.quoted_read value) (by cases levels <;> trivial)
        (by rintro _ ⟨⟩) fun real => Raw.json_spelled real levels value⟩
  | array items => exact leaf.elim
  | object fields => exact leaf.elim

theorem array_read_back (levels : Nat) (raw : Json → Raw) (items : List Json)
    (each : ∀ item ∈ items, ReadBack levels item (raw item)) :
    ReadBack (levels + 1) (.array items) (.array (items.map raw)) := by
  have text := Raw.array_read (items.map fun item => (item.document, raw item))
    (List.forall_mem_map.mpr fun item member => (each item member).text)
  simp only [List.map_map, Function.comp_def] at text
  refine ⟨by rwa [document, documents_map], List.forall_mem_map.mpr fun item member => (each item member).within,
    fun real => ?_⟩
  rw [json?, Option.map_eq_some_iff]
  simp only [Json.array.injEq, exists_eq_right, map_m_same (json? real levels) raw items]
  constructor
  · intro all x occurs
    cases occurs with
    | item _ item member inside => exact ((each item member).same real).mp (all item member) x inside
  · intro kept item member
    exact ((each item member).same real).mpr fun x inside => kept x (.item items item member inside)

theorem object_read_back (levels : Nat) (raw : Json → Raw) (fields : Fields) (rising : Fields.Rising fields)
    (each : ∀ field ∈ fields, ReadBack levels field.2 (raw field.2)) :
    ReadBack (levels + 1) (.object fields) (.object (fields.map fun field => (spelled field.1, raw field.2))) := by
  have text := Raw.object_read (fields.map fun field => (field.1, field.2.document, raw field.2))
    (List.forall_mem_map.mpr fun field member => (each field member).text)
  simp only [List.map_map, Function.comp_def] at text
  refine ⟨by rwa [document, field_documents_map], List.forall_mem_map.mpr fun field member => (each field member).within,
    fun real => ?_⟩
  rw [json?, Raw.keyed_spelled, Option.bind_some, Option.map_eq_some_iff]
  simp only [Json.object.injEq, exists_eq_right, fields_same (json? real levels) raw fields rising]
  constructor
  · intro all x occurs
    cases occurs with
    | field _ field member inside => exact ((each field member).same real).mp (all field member) x inside
  · intro kept field member
    exact ((each field member).same real).mpr fun x inside => kept x (.field fields field member inside)

-- By induction on the levels: what stands inside an array or object is one level less deep.
theorem within_read (levels : Nat) (data : Json) (within : Within levels data) : ∃ raw, ReadBack levels data raw := by
  induction levels generalizing data with
  | zero => exact leaf_read 0 data within
  | succ levels ih =>
      have some_ : Nonempty Raw := ⟨.null⟩
      choose! raw back using ih
      by_cases leaf : Within 0 data
      · exact leaf_read (levels + 1) data leaf
      cases data with
      | array items => exact ⟨_, array_read_back levels raw items fun item member => back item (within item member)⟩
      | object fields =>
          exact ⟨_, object_read_back levels raw fields within.1 fun field member => back field.2 (within.2 field member)⟩
      | _ => exact absurd trivial leaf

theorem entries_read (real : RealReader) (keeps : real.Exact) (entries : List (String × Json))
    (within : ∀ entry ∈ entries, Within (maxDepth - 1) entry.2) :
    readWith? real (Document.object (fieldDocuments entries)).compact = some (.object (Fields.ofEntries entries)) := by
  have some_ : Nonempty Raw := ⟨.null⟩
  choose! raw back using within_read (maxDepth - 1)
  have text := Raw.object_read (entries.map fun entry => (entry.1, entry.2.document, raw entry.2))
    (List.forall_mem_map.mpr fun entry member => (back entry.2 (within entry member)).text)
  simp only [List.map_map, Function.comp_def] at text
  have each : ∀ entry ∈ entries, json? real (maxDepth - 1) (raw entry.2) = some entry.2 :=
    fun entry member => ((back entry.2 (within entry member)).same real).mpr fun x _ => keeps x
  rw [readWith?, field_documents_map, Raw.read_compact _ _ text, Option.bind_some]
  change ((Raw.keyed? _).bind (Raw.fields? (json? real (maxDepth - 1)))).map Json.object = _
  rw [Raw.keyed_spelled, Option.bind_some, fields_decoded _ raw entries each, Option.map_some]

theorem nearest_exact : RealReader.nearest.Exact := by
  intro x
  obtain ⟨numeral, read, nearest⟩ := Raw.real_number_read x
  have reads : ReadAs (Json.real x).document.compactChars (.number numeral false) := Raw.scalar_read _ _ read
  rw [RealReader.Keeps, readWith?, Json.compact, Raw.read_compact _ _ reads, Option.bind_some, Raw.json_number, Raw.number?]
  simp [nearest]

end Json

end ShaderKnobs
