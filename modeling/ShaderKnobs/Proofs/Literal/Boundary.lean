import ShaderKnobs.Proofs.Literal.Cursor
import ShaderKnobs.Proofs.Literal.Unicode

set_option autoImplicit false

namespace ShaderKnobs.Literal.Cursor

theorem octets_append (front back : List Char) : octets (front ++ back) = octets front ++ octets back := by
  simp [octets]

theorem octets_cons (c : Char) (rest : List Char) : octets (c :: rest) = octets [c] ++ octets rest :=
  octets_append [c] rest

theorem octets_length (text : List Char) : (octets text).length = byteCount text := by
  induction text with
  | nil => rfl
  | cons c rest ih =>
      have first : (octets [c]).length = c.utf8Size := by simp [octets]
      rw [octets_cons, List.length_append, first, ih]
      rfl

theorem byte_count_append (front back : List Char) : byteCount (front ++ back) = byteCount front + byteCount back := by
  rw [← octets_length, octets_append, List.length_append, octets_length, octets_length]

theorem byte_length_count (text : List Char) : Text.byteLength text = byteCount text := by
  have from_ : ∀ n, text.foldl (fun n c => n + c.utf8Size) n = n + byteCount text := by
    induction text with
    | nil => exact fun n => rfl
    | cons c rest ih =>
        intro n
        rw [List.foldl_cons, ih, Nat.add_assoc]
        rfl
  exact (from_ 0).trans (Nat.zero_add _)

theorem length_le_byte_count (text : List Char) : text.length ≤ byteCount text := by
  induction text with
  | nil => exact Nat.le_refl _
  | cons c rest ih =>
      have size := c.utf8Size_pos
      simp only [byteCount, List.length_cons]
      omega

theorem of_byte (n : Nat) (small : n < 256) : Char.ofUInt8 (UInt8.ofNat n) = Char.ofNat n := by
  have valid := of_nat_valid n (.inl (by omega))
  refine Char.toNat_inj.mp ?_
  rw [valid]
  change n % 256 = n
  exact Nat.mod_eq_of_lt small

theorem ascii_octets (c : Char) (ascii : c.toNat < 128) : octets [c] = [c] ∧ Text.leadByte c = c ∧ c.utf8Size = 1 := by
  have short : c.toNat ≤ 127 := Nat.le_of_lt_succ ascii
  have bytes : String.utf8EncodeChar c = [UInt8.ofNat c.toNat] := if_pos short
  have count := String.length_utf8EncodeChar c
  rw [bytes] at count
  refine ⟨?_, if_pos ascii, count.symm⟩
  rw [octets, List.flatMap_singleton, bytes, List.map_singleton, of_byte c.toNat (by omega), Char.ofNat_toNat]

theorem high_bytes (first : Nat) (others : List Nat) (range : ∀ n ∈ first :: others, 128 ≤ n ∧ n < 256) :
    let bytes := ((first :: others).map UInt8.ofNat).map Char.ofUInt8
    bytes.head? = some (Char.ofNat first) ∧ ∀ b ∈ bytes, ¬b.toNat < 128 := by
  constructor
  · rw [List.map_cons, List.map_cons, List.head?_cons, of_byte first (range first List.mem_cons_self).2]
  · intro b member
    rw [List.map_map] at member
    obtain ⟨n, listed, rfl⟩ := List.mem_map.mp member
    obtain ⟨large, small⟩ := range n listed
    rw [Function.comp_apply, of_byte n small, of_nat_valid n (.inl (by omega))]
    omega

theorem wide_octets (c : Char) (wide : ¬c.toNat < 128) :
    (octets [c]).head? = some (Text.leadByte c) ∧ ∀ b ∈ octets [c], ¬b.toNat < 128 := by
  have limit : c.toNat < 0x110000 := by
    rcases c.valid with low | high
    · exact Nat.lt_trans low (by decide)
    · exact high.2
  rw [octets, List.flatMap_singleton]
  simp only [String.utf8EncodeChar, Text.leadByte]
  unfold Char.toNat at *
  generalize c.val.toNat = n at *
  rw [if_neg (show ¬n ≤ 127 by omega), if_neg wide]
  by_cases two : n < 0x800
  · rw [if_pos (show n ≤ 2047 by omega), if_pos two, show 0xc0 + n / 0x40 = n / 64 % 32 + 192 by omega]
    exact high_bytes _ [_] (by simp; omega)
  rw [if_neg (show ¬n ≤ 2047 by omega), if_neg two]
  by_cases three : n < 0x10000
  · rw [if_pos (show n ≤ 65535 by omega), if_pos three, show 0xe0 + n / 0x1000 = n / 4096 % 16 + 224 by omega]
    exact high_bytes _ [_, _] (by simp; omega)
  · rw [if_neg (show ¬n ≤ 65535 by omega), if_neg three, show 0xf0 + n / 0x40000 = n / 262144 % 8 + 240 by omega]
    exact high_bytes _ [_, _, _] (by simp; omega)

-- A class of characters that are all ASCII, which bytes can be tested for.
def Ascii (p : Char → Bool) : Prop := ∀ c, p c = true → c.toNat < 128

theorem lead_wide (c : Char) (wide : ¬c.toNat < 128) : ¬(Text.leadByte c).toNat < 128 := by
  obtain ⟨first, high⟩ := wide_octets c wide
  exact high _ (List.mem_of_mem_head? (Option.mem_def.mpr first))

theorem lead_class (p : Char → Bool) (ascii : Ascii p) (c : Char) : p (Text.leadByte c) = p c := by
  by_cases short : c.toNat < 128
  · rw [(ascii_octets c short).2.1]
  · rw [Bool.eq_false_iff.mpr (mt (ascii c) short), Bool.eq_false_iff.mpr (mt (ascii _) (lead_wide c short))]

theorem lead_iff (c d : Char) (ascii : d.toNat < 128) : Text.leadByte c = d ↔ c = d := by
  have same := lead_class (· == d) (fun b equal => eq_of_beq equal ▸ ascii) c
  rw [← beq_iff_eq (a := c), ← same, beq_iff_eq]

theorem lead_quote (c : Char) (isQuote : c = '"' ∨ c = '\'') : Text.leadByte c = c := by
  rcases isQuote with rfl | rfl <;> rfl

theorem octets_head (text : List Char) : (octets text).head? = text.head?.map Text.leadByte := by
  cases text with
  | nil => rfl
  | cons c rest =>
      rw [octets_cons]
      by_cases short : c.toNat < 128
      · rw [(ascii_octets c short).1, List.singleton_append, List.head?_cons, List.head?_cons, Option.map_some,
          (ascii_octets c short).2.1]
      · obtain ⟨tail, bytes⟩ := List.head?_eq_some_iff.mp (wide_octets c short).1
        rw [bytes]
        rfl

theorem octets_head_iff (text : List Char) (c : Char) (ascii : c.toNat < 128) :
    (octets text).head? = some c ↔ text.head? = some c := by
  rw [octets_head]
  cases text with
  | nil => simp
  | cons d rest =>
      rw [List.head?_cons, Option.map_some, Option.some_inj, Option.some_inj]
      exact lead_iff d c ascii

theorem octets_take (p : Char → Bool) (ascii : Ascii p) (text : List Char) :
    (octets text).takeWhile p = text.takeWhile p := by
  induction text with
  | nil => rfl
  | cons c rest ih =>
      rw [octets_cons]
      by_cases short : c.toNat < 128
      · rw [(ascii_octets c short).1, List.singleton_append, List.takeWhile_cons, List.takeWhile_cons, ih]
      · obtain ⟨tail, bytes⟩ := List.head?_eq_some_iff.mp (wide_octets c short).1
        rw [bytes, List.cons_append, List.takeWhile_cons, List.takeWhile_cons, lead_class p ascii c,
          Bool.eq_false_iff.mpr (mt (ascii c) short)]
        rfl

theorem run_byte_count (p : Char → Bool) (ascii : Ascii p) (text : List Char) (inside : Text.Run p text) :
    byteCount text = text.length :=
  byte_count_single text fun c member => (ascii_octets c (ascii c (inside c member))).2.2

def At (text left : List Char) (pos : Nat) : Prop := ∃ front, text = front ++ left ∧ byteCount front = pos

theorem at_start (text : List Char) : At text text 0 := ⟨[], rfl, rfl⟩

section

variable {text left : List Char} {pos : Nat}

theorem At.octets_drop (place : At text left pos) : (octets text).drop pos = octets left := by
  obtain ⟨front, rfl, rfl⟩ := place
  rw [octets_append]
  exact List.drop_left' (octets_length front)

theorem At.peek (place : At text left pos) : peek text pos = left.head?.map Text.leadByte := by
  rw [← octets_head, ← place.octets_drop, List.head?_drop]
  rfl

theorem At.peek_iff (place : At text left pos) (c : Char) (ascii : c.toNat < 128) :
    Cursor.peek text pos = some c ↔ left.head? = some c := by
  rw [place.peek, ← octets_head, octets_head_iff left c ascii]

theorem At.peek_first {c : Char} {rest : List Char} (place : At text (c :: rest) pos) (ascii : c.toNat < 128) :
    Cursor.peek text pos = some c := (place.peek_iff c ascii).mpr rfl

theorem At.peek_other (place : At text left pos) (c : Char) (ascii : c.toNat < 128)
    (other : ∀ rest, left = c :: rest → False) : ¬Cursor.peek text pos = some c := by
  intro peeked
  obtain ⟨rest, shape⟩ := List.head?_eq_some_iff.mp ((place.peek_iff c ascii).mp peeked)
  exact other rest shape

theorem At.past {body rest : List Char} (place : At text (body ++ rest) pos) : At text rest (pos + byteCount body) := by
  obtain ⟨front, rfl, rfl⟩ := place
  exact ⟨front ++ body, (List.append_assoc front body rest).symm, byte_count_append front body⟩

theorem At.next {c : Char} {rest : List Char} (place : At text (c :: rest) pos) : At text rest (pos + c.utf8Size) := by
  have first : At text ([c] ++ rest) pos := place
  exact first.past

theorem At.next_ascii {c : Char} {rest : List Char} (place : At text (c :: rest) pos) (ascii : c.toNat < 128) :
    At text rest (pos + 1) := by
  have after := place.next
  rwa [(ascii_octets c ascii).2.2] at after

theorem At.run (place : At text left pos) (p : Char → Bool) (ascii : Ascii p) :
    run text p pos = pos + (left.takeWhile p).length ∧ At text (left.dropWhile p) (run text p pos) := by
  have stop : Cursor.run text p pos = pos + (left.takeWhile p).length := by
    rw [Cursor.run, place.octets_drop, octets_take p ascii]
  refine ⟨stop, ?_⟩
  rw [stop, ← run_byte_count p ascii _ (Text.span_inside p left)]
  refine At.past ?_
  rw [List.takeWhile_append_dropWhile]
  exact place

theorem At.part (place : At text left pos) (n : Nat) :
    part? text pos (pos + n) = (Text.splitBytes? n left).map (·.1) := by
  obtain ⟨front, rfl, rfl⟩ := place
  rw [part?, if_neg (by omega), split_whole, Option.bind_some, Nat.add_sub_cancel_left]

theorem At.slice {body rest : List Char} (place : At text (body ++ rest) pos) :
    slice text pos (pos + byteCount body) = .ok body := by
  rw [Cursor.slice, place.part, split_whole]
  rfl

theorem At.slice_run (place : At text left pos) (p : Char → Bool) (ascii : Ascii p) :
    Cursor.slice text pos (Cursor.run text p pos) = .ok (left.takeWhile p) := by
  rw [(place.run p ascii).1, ← run_byte_count p ascii _ (Text.span_inside p left)]
  have parts : At text (left.takeWhile p ++ left.dropWhile p) pos := by
    rw [List.takeWhile_append_dropWhile]
    exact place
  exact parts.slice

theorem At.size (place : At text left pos) : size text = pos + byteCount left := by
  obtain ⟨front, rfl, rfl⟩ := place
  rw [Cursor.size, octets_length, byte_count_append]

theorem At.unique {pos' : Nat} (place : At text left pos) (place' : At text left pos') : pos = pos' := by
  have first := place.size
  have second := place'.size
  omega

theorem At.slice_left (place : At text left pos) : Cursor.slice text pos (Cursor.size text) = .ok left := by
  have whole : At text (left ++ []) pos := by
    rw [List.append_nil]
    exact place
  rw [place.size]
  exact whole.slice

theorem At.left_length (place : At text left pos) : left.length ≤ Cursor.size text := by
  have count := length_le_byte_count left
  have whole := place.size
  omega

theorem At.at_end (place : At text left pos) : Cursor.size text ≤ pos ↔ left = [] := by
  have count := length_le_byte_count left
  rw [place.size]
  constructor
  · intro none_
    exact List.eq_nil_of_length_eq_zero (by omega)
  · rintro rfl
    exact Nat.le_refl _

theorem At.within (place : At text left pos) (cause : Cause) :
    Failure.within text ⟨cause, left⟩ = ⟨cause, pos⟩ := by
  obtain ⟨front, rfl, rfl⟩ := place
  simp only [Failure.within]
  rw [byte_length_count, byte_length_count, byte_count_append, Nat.add_sub_cancel_right]

end

theorem byte_count_size (text : String) : byteCount text.toList = text.utf8ByteSize := by
  rw [← octets_length, ← String.size_toByteArray, octets, List.length_map]
  conv_rhs => rw [← String.ofList_toList (s := text), String.toByteArray_ofList]
  rw [List.utf8Encode, List.size_toByteArray]

theorem at_iff_valid (text : String) (pos : Nat) :
    (∃ left, At text.toList left pos) ↔ String.Pos.Raw.IsValid text ⟨pos⟩ := by
  rw [String.Pos.Raw.isValid_iff_exists_append]
  constructor
  · rintro ⟨left, front, whole, rfl⟩
    refine ⟨String.ofList front, String.ofList left, ?_, ?_⟩
    · rw [← String.ofList_append, ← whole, String.ofList_toList]
    · have size := byte_count_size (String.ofList front)
      rw [String.toList_ofList] at size
      exact congrArg String.Pos.Raw.mk size
  · rintro ⟨front, left, rfl, same⟩
    refine ⟨left.toList, front.toList, String.toList_append, ?_⟩
    rw [byte_count_size]
    exact (congrArg String.Pos.Raw.byteIdx same).symm

theorem slice_iff (text : List Char) (start stop : Nat) :
    (∃ part, slice text start stop = .ok part) ↔
      start ≤ stop ∧ (∃ left, At text left start) ∧ ∃ left, At text left stop := by
  constructor
  · rintro ⟨part, taken⟩
    simp only [slice, part?] at taken
    split at taken
    · next found =>
        split at found
        · cases found
        · next order =>
            obtain ⟨⟨front, back⟩, first, found⟩ := Option.bind_eq_some_iff.mp found
            obtain ⟨⟨body, rest⟩, second, _⟩ := Option.map_eq_some_iff.mp found
            obtain ⟨rfl, rfl⟩ := split_bytes text start front back first
            obtain ⟨rfl, count⟩ := split_bytes back _ body rest second
            have place : At (front ++ (body ++ rest)) (body ++ rest) (byteCount front) := ⟨front, rfl, rfl⟩
            have after := place.past
            rw [count, Nat.add_sub_cancel' (Nat.le_of_not_lt order)] at after
            exact ⟨Nat.le_of_not_lt order, ⟨_, place⟩, ⟨rest, after⟩⟩
    · cases taken
  · rintro ⟨order, ⟨left, front, rfl, rfl⟩, ⟨rest, front', same, rfl⟩⟩
    rcases List.append_eq_append_iff.mp same with ⟨body, rfl, rfl⟩ | ⟨body, rfl, rfl⟩
    · have place : At (front ++ (body ++ rest)) (body ++ rest) (byteCount front) := ⟨front, rfl, rfl⟩
      rw [byte_count_append]
      exact ⟨body, place.slice⟩
    · rw [byte_count_append] at order
      have empty := length_le_byte_count body
      obtain rfl := List.eq_nil_of_length_eq_zero (l := body) (by omega)
      have place : At (front' ++ [] ++ left) ([] ++ left) (byteCount (front' ++ [])) := ⟨front' ++ [], rfl, rfl⟩
      have taken := place.slice
      rw [List.append_nil] at taken ⊢
      exact ⟨[], taken⟩

end ShaderKnobs.Literal.Cursor
