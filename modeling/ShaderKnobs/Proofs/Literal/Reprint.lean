import ShaderKnobs.Proofs.Literal.Exact
import ShaderKnobs.Proofs.Literal.Image
import ShaderKnobs.Proofs.Literal.Printed

set_option autoImplicit false

namespace ShaderKnobs.Literal

open Document (compactChars compactItems compactFields prettyChars prettyItems prettyFields newLine quoted)

def Blanks (gap : List Char) : Prop := ∀ c ∈ gap, Text.isAsciiBlank c = true

theorem blanks_gap (gap rest : List Char) (blanks : Blanks gap) : Gap (gap ++ rest) rest := by
  induction gap with
  | nil => exact .none rest
  | cons c gap ih =>
      exact .blank c _ rest (blanks c List.mem_cons_self) (ih fun d member => blanks d (List.mem_cons_of_mem c member))

theorem new_line_blanks (depth : Nat) : Blanks (newLine depth) := by
  intro c member
  rcases List.mem_cons.mp member with rfl | space
  · rfl
  · rw [(List.mem_replicate.mp space).2]
    rfl

-- Elements between commas, each after one gap, and a gap before the closing bracket.
def listed {α : Type} (closing : Char) (gap last : List Char) (write : α → List Char) : List α → List Char
  | [] => last ++ [closing]
  | [a] => gap ++ (write a ++ (last ++ [closing]))
  | a :: rest => gap ++ (write a ++ ',' :: listed closing gap last write rest)

theorem listed_sequence {α : Type} (closing : Char) (gap last : List Char) (write : α → List Char)
    (element : List Char → α → List Char → Prop) (blanks : Blanks gap) (blanks' : Blanks last) (all : List α)
    (each : ∀ a ∈ all, ∀ rest, element (write a ++ rest) a rest) (rest : List Char) :
    Sequence closing element (listed closing gap last write all ++ rest) all rest := by
  have closed : Gap (last ++ [closing] ++ rest) (closing :: rest) := by
    rw [List.append_assoc]
    exact blanks_gap last (closing :: rest) blanks'
  induction all with
  | nil => exact .close _ rest closed
  | cons a others ih =>
      have first := each a List.mem_cons_self
      have later := ih fun b member => each b (List.mem_cons_of_mem a member)
      cases others with
      | nil =>
          rw [listed, List.append_assoc, List.append_assoc]
          exact .last _ _ _ rest a (blanks_gap gap _ blanks) (first _) closed
      | cons b others =>
          rw [listed, List.append_assoc, List.append_assoc]
          exact .more _ _ _ _ rest a (b :: others) (blanks_gap gap _ blanks) (first _) (.none _) later
          · simp

def writeField {α : Type} (space : List Char) (write : α → List Char) (field : String × α) : List Char :=
  quoted field.1 ++ ':' :: (space ++ write field.2)

theorem listed_array (element : List Char → Json → List Char → Prop) (gap last : List Char) (write : Json → List Char)
    (blanks : Blanks gap) (blanks' : Blanks last) (items : List Json)
    (each : ∀ item ∈ items, ∀ rest, element (write item ++ rest) item rest) (rest : List Char) :
    Level element ('[' :: (listed ']' gap last write items ++ rest)) (.array items) rest :=
  .array _ items rest (listed_sequence ']' gap last write element blanks blanks' items each rest)

theorem listed_object (element : List Char → Json → List Char → Prop) (gap last space : List Char)
    (write : Json → List Char) (blanks : Blanks gap) (blanks' : Blanks last) (spaces : Blanks space) (fields : Fields)
    (rising : Fields.Rising fields) (each : ∀ field ∈ fields, ∀ rest, element (write field.2 ++ rest) field.2 rest)
    (rest : List Char) :
    Level element ('\x7b' :: (listed '\x7d' gap last (writeField space write) fields ++ rest)) (.object fields) rest := by
  have member : ∀ field ∈ fields, ∀ rest, Member element (writeField space write field ++ rest) field rest := by
    intro field inFields rest
    rw [writeField, List.append_assoc, List.cons_append, List.append_assoc]
    exact .mk _ _ _ _ rest field.1 field.2 (.quoted _ _ _ (printed_text field.1 _)) (.none _) (blanks_gap space _ spaces)
      (each field inFields rest)
  exact .object _ fields fields rest (listed_sequence '\x7d' gap last _ _ blanks blanks' fields member rest)
    ⟨rising, fun key => (Fields.last_of_rising key fields rising).symm⟩

theorem compact_items {α : Type} (document : α → Document) (items : List α) :
    compactItems (items.map document) = listed ']' [] [] (fun item => compactChars (document item)) items := by
  induction items with
  | nil => rfl
  | cons item rest ih =>
      cases rest with
      | nil => rfl
      | cons next rest => exact congrArg (fun others => compactChars (document item) ++ ',' :: others) ih

theorem compact_fields {α : Type} (document : α → Document) (fields : List (String × α)) :
    compactFields (fields.map fun field => (field.1, document field.2)) =
      listed '\x7d' [] [] (writeField [] fun value => compactChars (document value)) fields := by
  induction fields with
  | nil => rfl
  | cons field rest ih =>
      obtain ⟨key, value⟩ := field
      cases rest with
      | nil => simp [compactFields, listed, writeField]
      | cons next rest =>
          calc compactFields (((key, value) :: next :: rest).map fun field => (field.1, document field.2))
            _ = quoted key ++ ':' :: (compactChars (document value) ++ ',' ::
                compactFields ((next :: rest).map fun field => (field.1, document field.2))) := rfl
            _ = _ := by simp only [ih, listed, writeField, List.nil_append, List.append_assoc, List.cons_append]

theorem pretty_items (depth : Nat) (items : List Json) :
    prettyItems depth (Json.documents items) =
      listed ']' (newLine (depth + 1)) (newLine depth) (fun item => prettyChars (depth + 1) item.document) items := by
  induction items with
  | nil => rfl
  | cons item rest ih =>
      cases rest with
      | nil => simp [Json.documents, prettyItems, listed]
      | cons next rest =>
          calc prettyItems depth (Json.documents (item :: next :: rest))
            _ = newLine (depth + 1) ++ prettyChars (depth + 1) item.document ++ ',' ::
                prettyItems depth (Json.documents (next :: rest)) := rfl
            _ = _ := by simp [ih, listed]

theorem pretty_fields (depth : Nat) (fields : Fields) :
    prettyFields depth (Json.fieldDocuments fields) =
      listed '\x7d' (newLine (depth + 1)) (newLine depth)
        (writeField [' '] fun value => prettyChars (depth + 1) value.document) fields := by
  induction fields with
  | nil => rfl
  | cons field rest ih =>
      obtain ⟨key, value⟩ := field
      cases rest with
      | nil => simp [Json.fieldDocuments, prettyFields, listed, writeField]
      | cons next rest =>
          calc prettyFields depth (Json.fieldDocuments ((key, value) :: next :: rest))
            _ = newLine (depth + 1) ++ quoted key ++ ':' :: ' ' :: prettyChars (depth + 1) value.document ++ ',' ::
                prettyFields depth (Json.fieldDocuments (next :: rest)) := rfl
            _ = _ := by simp [ih, listed, writeField]

theorem layout_level (element : List Char → Json → List Char → Prop) (inside : Json → Prop) (write : Document → List Char)
    (leaf : ∀ text, write (.leaf text) = text)
    (array : ∀ items, (∀ item ∈ items, inside item) → ∀ rest,
      Level element (write (.array (Json.documents items)) ++ rest) (.array items) rest)
    (object : ∀ fields, Fields.Rising fields → (∀ field ∈ fields, inside field.2) → ∀ rest,
      Level element (write (.object (Json.fieldDocuments fields)) ++ rest) (.object fields) rest)
    (data : Json) (fits : Fits inside data) (rest : List Char) : Level element (write data.document ++ rest) data rest := by
  cases fits with
  | null =>
      rw [Json.document, leaf]
      exact .word "null" .null rest (by simp [words])
  | bool value =>
      rw [Json.document, Document.bool, leaf]
      cases value with
      | false => exact .word "false" (.bool false) rest (by simp [words])
      | true => exact .word "true" (.bool true) rest (by simp [words])
  | whole n small =>
      rw [Json.document, Document.int, leaf]
      exact .number _ _ rest (printed_whole n rest small)
  | real x =>
      rw [Json.document, leaf]
      exact .number _ _ rest (printed_real x rest)
  | text value =>
      rw [Json.document, Document.text, leaf]
      exact .text _ value rest (printed_text value rest)
  | array items within => exact array items within rest
  | object fields rising within => exact object fields rising within rest

theorem no_blanks : Blanks [] := fun _ member => nomatch member

theorem compact_level (element : List Char → Json → List Char → Prop) (inside : Json → Prop)
    (each : ∀ data, inside data → ∀ rest, element (compactChars data.document ++ rest) data rest) (data : Json)
    (fits : Fits inside data) (rest : List Char) : Level element (compactChars data.document ++ rest) data rest := by
  refine layout_level element inside compactChars (fun _ => rfl) ?_ ?_ data fits rest
  · intro items within rest
    rw [Json.documents_map, compactChars, compact_items]
    exact listed_array element [] [] _ no_blanks no_blanks items (fun item member => each item (within item member)) rest
  · intro fields rising within rest
    rw [Json.field_documents_map, compactChars, compact_fields]
    exact listed_object element [] [] [] _ no_blanks no_blanks no_blanks fields rising
      (fun field member => each field.2 (within field member)) rest

theorem pretty_level (element : List Char → Json → List Char → Prop) (inside : Json → Prop) (depth : Nat)
    (each : ∀ data, inside data → ∀ rest, element (prettyChars (depth + 1) data.document ++ rest) data rest) (data : Json)
    (fits : Fits inside data) (rest : List Char) : Level element (prettyChars depth data.document ++ rest) data rest := by
  have gap := new_line_blanks (depth + 1)
  have last := new_line_blanks depth
  refine layout_level element inside (prettyChars depth) (fun _ => rfl) ?_ ?_ data fits rest
  · intro items within rest
    have level := listed_array element _ _ _ gap last items (fun item member => each item (within item member)) rest
    rw [← pretty_items] at level
    cases items with
    | nil => exact .array _ [] rest (.close _ rest (.none _))
    | cons item items => exact level
  · intro fields rising within rest
    have space : Blanks [' '] := by simp [Blanks, Text.isAsciiBlank]
    have level := listed_object element _ _ [' '] (fun value => prettyChars (depth + 1) value.document) gap last space
      fields rising (fun field member => each field.2 (within field member)) rest
    rw [← pretty_fields] at level
    cases fields with
    | nil => exact .object _ [] [] rest (.close _ rest (.none _)) ⟨rising, fun _ => rfl⟩
    | cons field fields => exact level

-- By induction on the depth, for every indentation.
theorem pretty_nested (depth indent : Nat) (data : Json) (shallow : Shallow depth data) (rest : List Char) :
    Nested depth (prettyChars indent data.document ++ rest) data rest := by
  induction depth generalizing indent data rest with
  | zero => exact pretty_level _ _ indent (fun _ absent => absent.elim) data shallow rest
  | succ depth ih => exact pretty_level (Nested depth) (Shallow depth) indent (ih (indent + 1)) data shallow rest

theorem compact_nested (depth : Nat) (data : Json) (shallow : Shallow depth data) (rest : List Char) :
    Nested depth (compactChars data.document ++ rest) data rest := by
  induction depth generalizing data rest with
  | zero => exact compact_level _ _ (fun _ absent => absent.elim) data shallow rest
  | succ depth ih => exact compact_level (Nested depth) (Shallow depth) ih data shallow rest

theorem parse_nested (chars : List Char) (data : Json) (nested : ∀ rest, Nested maxDepth (chars ++ rest) data rest) :
    parse (String.ofList chars) = .ok data := by
  have whole := nested []
  rw [List.append_nil] at whole
  have parsed := (parse_chars_exact chars data).mpr ⟨chars, [], .none chars, whole, .none []⟩
  rw [parse, String.toList_ofList, parsed]
  rfl

theorem parse_shallow (text : String) (data : Json) (parsed : parse text = .ok data) : Shallow maxDepth data := by
  obtain ⟨start, next, _, nested, _⟩ := (parse_chars_exact text.toList data).mp (map_error_ok _ _ data parsed)
  exact nested_shallow maxDepth start data next nested

theorem parse_image (data : Json) : (∃ text, parse text = .ok data) ↔ Shallow maxDepth data :=
  ⟨fun ⟨text, parsed⟩ => parse_shallow text data parsed,
    fun shallow => ⟨data.compact, parse_nested _ data (compact_nested maxDepth data shallow)⟩⟩

theorem parse_printed (text : String) (data : Json) (parsed : parse text = .ok data) :
    parse data.compact = .ok data ∧ parse data.document.pretty = .ok data :=
  have shallow := parse_shallow text data parsed
  ⟨parse_nested _ data (compact_nested maxDepth data shallow), parse_nested _ data (pretty_nested maxDepth 0 data shallow)⟩

theorem bell_and_zero_printed :
    ∃ data, data = .object
        [("bell", .array [.text "\x07\"", .whole ⟨16, by decide⟩]), ("zero", .real ⟨true, 0, -1074, by decide⟩)] ∧
      parse "\x7bzero: -0.0, bell: ['\\u0007\"', 0x10]\x7d" = .ok data ∧ parse data.compact = .ok data ∧
      parse data.document.pretty = .ok data :=
  have parsed : parse "\x7bzero: -0.0, bell: ['\\u0007\"', 0x10]\x7d" = .ok _ := rfl
  ⟨_, rfl, parsed, parse_printed _ _ parsed⟩

end ShaderKnobs.Literal
