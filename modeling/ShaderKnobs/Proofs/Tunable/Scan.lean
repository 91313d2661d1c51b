import Mathlib.Data.List.Forall2
import ShaderKnobs.Tunable.Scan
import ShaderKnobs.Proofs.Answer
import ShaderKnobs.Proofs.Text.Lines

set_option autoImplicit false

namespace ShaderKnobs.Tunable

def nameOf? (text : List Char) : Option String := (matchLine? text).map fun parts => String.ofList parts.name

-- The tunable that a line declares; lines are counted from zero here and from one in the tunable.
inductive Declares (text : List Char) (index : Nat) : Tunable → Prop where
  | mk (parts : Parts) (type : UniformType) (attributes : Attributes) : matchLine? text = some parts →
      UniformType.ofName? (String.ofList parts.type) = some type →
      Literal.parseObject (String.ofList parts.literal) = .ok attributes →
      Declares text index ⟨type, String.ofList parts.name, attributes, index + 1⟩

-- What is wrong with a line: its type, else its literal, else a name that an earlier line has.
inductive Fault (before : List (List Char)) (text : List Char) : ScanError → Prop where
  | unsupportedType (parts : Parts) : matchLine? text = some parts →
      UniformType.ofName? (String.ofList parts.type) = none →
      Fault before text (.unsupportedType (String.ofList parts.name) (before.length + 1) (String.ofList parts.type))
  | badLiteral (parts : Parts) (type : UniformType) (cause : LiteralError) : matchLine? text = some parts →
      UniformType.ofName? (String.ofList parts.type) = some type →
      Literal.parseObject (String.ofList parts.literal) = .error cause →
      Fault before text (.badLiteral (String.ofList parts.name) (before.length + 1) cause)
  | duplicate (parts : Parts) (type : UniformType) (attributes : Attributes) : matchLine? text = some parts →
      UniformType.ofName? (String.ofList parts.type) = some type →
      Literal.parseObject (String.ofList parts.literal) = .ok attributes →
      String.ofList parts.name ∈ before.filterMap nameOf? →
      Fault before text (.duplicate (String.ofList parts.name) (before.length + 1))

structure Sound (lines : List (List Char)) : Prop where
  declared : ∀ text ∈ lines, ∀ parts, matchLine? text = some parts →
    (∃ type, UniformType.ofName? (String.ofList parts.type) = some type) ∧
      ∃ attributes, Literal.parseObject (String.ofList parts.literal) = .ok attributes
  distinct : (lines.filterMap nameOf?).Nodup

-- The annotated lines, each with the number of lines before it.
def annotated (lines : List (List Char)) : List (List Char × Nat) :=
  lines.zipIdx.filter fun entry => (matchLine? entry.1).isSome

def DeclaredBy (lines : List (List Char)) (tunables : List Tunable) : Prop :=
  List.Forall₂ (fun entry tunable => Declares entry.1 entry.2 tunable) (annotated lines) tunables

theorem annotated_more (before : List (List Char)) (text : List Char) :
    annotated (before ++ [text]) =
      annotated before ++ if (matchLine? text).isSome then [(text, before.length)] else [] := by
  simp only [annotated, List.zipIdx_append, List.filter_append, List.zipIdx_singleton, List.filter_singleton,
    Nat.zero_add]
  cases (matchLine? text).isSome <;> rfl

theorem annotated_names (lines : List (List Char)) :
    (annotated lines).filterMap (fun entry => nameOf? entry.1) = lines.filterMap nameOf? := by
  have names : lines.filterMap nameOf? = (lines.zipIdx.map Prod.fst).filterMap nameOf? := by
    rw [List.zipIdx_map_fst]
  rw [names, List.filterMap_map, annotated, List.filterMap_filter]
  refine List.filterMap_congr fun entry _ => ?_
  simp only [nameOf?, Function.comp_apply]
  cases matchLine? entry.1 <;> rfl

theorem declared_names (lines : List (List Char)) (tunables : List Tunable) (declared : DeclaredBy lines tunables) :
    tunables.map (·.name) = lines.filterMap nameOf? := by
  rw [← annotated_names]
  simp only [DeclaredBy] at declared
  generalize annotated lines = entries at declared
  induction declared with
  | nil => rfl
  | cons declares _ ih =>
      obtain ⟨parts, type, attributes, matched, _, _⟩ := declares
      simp [nameOf?, matched, ih]

theorem declared_lines (lines : List (List Char)) (tunables : List Tunable) (declared : DeclaredBy lines tunables) :
    tunables.map (·.line) = (annotated lines).map fun entry => entry.2 + 1 := by
  simp only [DeclaredBy] at declared
  generalize annotated lines = entries at declared
  induction declared with
  | nil => rfl
  | cons declares _ ih =>
      cases declares
      rw [List.map_cons, List.map_cons, ih]

theorem declared_member (lines : List (List Char)) (tunables : List Tunable) (declared : DeclaredBy lines tunables)
    (tunable : Tunable) (member : tunable ∈ tunables) :
    ∃ text index, index < lines.length ∧ Declares text index tunable := by
  have indices : ∀ entry ∈ annotated lines, entry.2 < lines.length :=
    fun entry inside => List.snd_lt_of_mem_zipIdx (List.mem_filter.mp inside).1
  simp only [DeclaredBy] at declared
  generalize annotated lines = entries at declared indices
  induction declared with
  | nil => cases member
  | cons declares _ ih =>
      rcases List.mem_cons.mp member with rfl | later
      · exact ⟨_, _, indices _ List.mem_cons_self, declares⟩
      · exact ih later fun entry inside => indices entry (List.mem_cons_of_mem _ inside)

theorem declared_rising (lines : List (List Char)) (tunables : List Tunable) (declared : DeclaredBy lines tunables) :
    (tunables.map (·.line)).Pairwise (· < ·) := by
  have indices : lines.zipIdx.Pairwise fun a b => a.2 < b.2 := by
    rw [List.pairwise_iff_getElem]
    intro i j below below' less
    simpa using less
  rw [declared_lines lines tunables declared, List.pairwise_map]
  exact (indices.filter _).imp Nat.succ_lt_succ

theorem sound_nil : Sound [] := ⟨by simp, List.nodup_nil⟩

theorem sound_more (before : List (List Char)) (text : List Char) (sound : Sound before)
    (declares : ∀ parts, matchLine? text = some parts →
      (∃ type, UniformType.ofName? (String.ofList parts.type) = some type) ∧
        (∃ attributes, Literal.parseObject (String.ofList parts.literal) = .ok attributes) ∧
          String.ofList parts.name ∉ before.filterMap nameOf?) : Sound (before ++ [text]) where
  declared line member parts matched := by
    rcases List.mem_append.mp member with old | new
    · exact sound.declared line old parts matched
    · obtain rfl := List.mem_singleton.mp new
      obtain ⟨type, attributes, _⟩ := declares parts matched
      exact ⟨type, attributes⟩
  distinct := by
    rw [List.filterMap_append]
    cases matched : matchLine? text with
    | none => simpa [nameOf?, matched] using sound.distinct
    | some parts =>
        obtain ⟨_, _, fresh⟩ := declares parts matched
        have named : [text].filterMap nameOf? = [String.ofList parts.name] := by
          simp [nameOf?, matched]
        rw [named, List.nodup_append]
        refine ⟨sound.distinct, by simp, ?_⟩
        intro name old other new same
        obtain rfl := List.mem_singleton.mp new
        exact fresh (same ▸ old)

theorem sound_no_fault (before : List (List Char)) (text : List Char) (after : List (List Char))
    (sound : Sound (before ++ text :: after)) (error : ScanError) : ¬Fault before text error := by
  have member : text ∈ before ++ text :: after := List.mem_append_right before List.mem_cons_self
  intro fault
  cases fault with
  | unsupportedType parts matched unknown =>
      obtain ⟨⟨type, known⟩, _⟩ := sound.declared text member parts matched
      rw [unknown] at known
      cases known
  | badLiteral parts type cause matched _ bad =>
      obtain ⟨_, attributes, good⟩ := sound.declared text member parts matched
      rw [bad] at good
      cases good
  | duplicate parts type attributes matched _ _ taken =>
      have distinct := sound.distinct
      rw [List.filterMap_append, List.nodup_append] at distinct
      have named : String.ofList parts.name ∈ (text :: after).filterMap nameOf? :=
        List.mem_filterMap.mpr ⟨text, List.mem_cons_self, by simp [nameOf?, matched]⟩
      exact distinct.2.2 _ taken _ named rfl

theorem of_parts_end (before : List (List Char)) (seen : List String) (text : List Char) (parts : Parts)
    (sound : Sound before) (matched : matchLine? text = some parts)
    (names : ∀ name, name ∈ seen ↔ name ∈ before.filterMap nameOf?) :
    (∃ tunable, ofParts seen (before.length + 1) parts = .ok tunable ∧ Declares text before.length tunable ∧
        Sound (before ++ [text])) ∨
      ∃ error, ofParts seen (before.length + 1) parts = .error error ∧ Fault before text error := by
  simp only [ofParts]
  cases known : UniformType.ofName? (String.ofList parts.type) with
  | none => exact .inr ⟨_, rfl, .unsupportedType parts matched known⟩
  | some type =>
      cases literal : Literal.parseObject (String.ofList parts.literal) with
      | error cause => exact .inr ⟨_, rfl, .badLiteral parts type cause matched known literal⟩
      | ok attributes =>
          by_cases taken : String.ofList parts.name ∈ seen
          · simp only [if_pos taken]
            exact .inr ⟨_, rfl, .duplicate parts type attributes matched known literal ((names _).mp taken)⟩
          · simp only [if_neg taken]
            refine .inl ⟨_, rfl, .mk parts type attributes matched known literal, ?_⟩
            refine sound_more before text sound ?_
            intro parts' matched'
            obtain rfl := Option.some.inj (matched.symm.trans matched')
            exact ⟨⟨type, known⟩, ⟨attributes, literal⟩, fun member => taken ((names _).mpr member)⟩

-- How a scan goes on over `rest` once the lines before are read: it declares every line, or it stops
-- at a line and never sees the ones after it.
inductive Onward (before rest : List (List Char)) (done : List Tunable) : Prop where
  | declared (tunables : List Tunable) : Sound (before ++ rest) → DeclaredBy (before ++ rest) tunables →
      scanLines done (before.length + 1) rest = .ok tunables → Onward before rest done
  | stopped (front : List (List Char)) (text : List Char) (after : List (List Char)) (error : ScanError) :
      rest = front ++ text :: after → Sound (before ++ front) → Fault (before ++ front) text error →
      (∀ others, scanLines done (before.length + 1) (front ++ text :: others) = .error error) →
      Onward before rest done

theorem Onward.read (before : List (List Char)) (text : List Char) (rest : List (List Char)) (done next : List Tunable)
    (later : Onward (before ++ [text]) rest next)
    (step : ∀ others, scanLines done (before.length + 1) (text :: others) =
      scanLines next (before.length + 1 + 1) others) : Onward before (text :: rest) done := by
  have length : (before ++ [text]).length + 1 = before.length + 1 + 1 := by
    rw [List.length_append, List.length_singleton]
  cases later with
  | declared tunables good each result =>
      rw [List.append_assoc, List.singleton_append] at good each
      rw [length] at result
      exact .declared tunables good each ((step rest).trans result)
  | stopped front line after error split good fault result =>
      rw [List.append_assoc, List.singleton_append] at good fault
      refine .stopped (text :: front) line after error (by rw [split, List.cons_append]) good fault ?_
      intro others
      rw [List.cons_append, step, ← length]
      exact result others

theorem line_end (before : List (List Char)) (text : List Char) (done : List Tunable) (sound : Sound before)
    (declared : DeclaredBy before done.reverse) :
    (∃ next, Sound (before ++ [text]) ∧ DeclaredBy (before ++ [text]) next.reverse ∧
        ∀ others, scanLines done (before.length + 1) (text :: others) = scanLines next (before.length + 1 + 1) others) ∨
      ∃ error, Fault before text error ∧
        ∀ others, scanLines done (before.length + 1) (text :: others) = .error error := by
  have names : ∀ name, name ∈ done.map (·.name) ↔ name ∈ before.filterMap nameOf? := by
    intro name
    rw [← declared_names before done.reverse declared, List.map_reverse, List.mem_reverse]
  cases matched : matchLine? text with
  | none =>
      refine .inl ⟨done, sound_more before text sound ?_, ?_, ?_⟩
      · intro parts matched'
        rw [matched] at matched'
        cases matched'
      · simpa [DeclaredBy, annotated_more, matched] using declared
      · intro others
        rw [scanLines, matched]
  | some parts =>
      rcases of_parts_end before (done.map (·.name)) text parts sound matched names with
        ⟨tunable, result, declares, sound'⟩ | ⟨error, result, fault⟩
      · refine .inl ⟨tunable :: done, sound', ?_, ?_⟩
        · rw [DeclaredBy, annotated_more, matched, List.reverse_cons]
          exact List.rel_append declared (.cons declares .nil)
        · intro others
          simp only [scanLines, matched, result]
      · refine .inr ⟨error, fault, ?_⟩
        intro others
        simp only [scanLines, matched, result]

theorem onward (before rest : List (List Char)) (done : List Tunable) (sound : Sound before)
    (declared : DeclaredBy before done.reverse) : Onward before rest done := by
  induction rest generalizing before done with
  | nil =>
      rw [← List.append_nil before] at sound declared
      exact .declared done.reverse sound declared rfl
  | cons text rest ih =>
      rcases line_end before text done sound declared with ⟨next, sound', declared', step⟩ | ⟨error, fault, result⟩
      · exact .read before text rest done next (ih (before ++ [text]) next sound' declared') step
      · rw [← List.append_nil before] at sound fault
        exact .stopped [] text rest error rfl sound fault result

theorem scan_declares (source : String) (tunables : List Tunable) (scanned : scan source = .ok tunables) :
    Sound (Text.lines source.toList) ∧ DeclaredBy (Text.lines source.toList) tunables := by
  cases onward [] (Text.lines source.toList) [] sound_nil .nil with
  | declared others sound each result =>
      obtain rfl := Except.ok.inj (scanned.symm.trans result)
      exact ⟨sound, each⟩
  | stopped front text after error split good fault result =>
      have refused := result after
      rw [← split] at refused
      cases scanned.symm.trans refused

-- Where a scan stops: the lines before are sound, this one is not, and the rest of the text is not read.
structure StopsAt (source : String) (index : Nat) (error : ScanError) : Prop where
  earlier : Sound ((Text.lines source.toList).take index)
  fault : ∃ text, (Text.lines source.toList)[index]? = some text ∧
    Fault ((Text.lines source.toList).take index) text error
  unread : ∀ other : String, (Text.lines other.toList).take (index + 1) = (Text.lines source.toList).take (index + 1) →
    scan other = .error error

theorem scan_first_fault (source : String) :
    Text.Splits source.toList (Text.lines source.toList) ∧
      (Sound (Text.lines source.toList) → ∃ tunables, scan source = .ok tunables ∧
        DeclaredBy (Text.lines source.toList) tunables ∧ (tunables.map (·.name)).Nodup ∧
          (tunables.map (·.line)).Pairwise (· < ·)) ∧
      (¬Sound (Text.lines source.toList) → ∃ index error, scan source = .error error ∧
        StopsAt source index error) := by
  refine ⟨Text.splits_lines source.toList, ?_⟩
  cases onward [] (Text.lines source.toList) [] sound_nil .nil with
  | declared tunables sound each result =>
      rw [List.nil_append] at sound each
      refine ⟨fun _ => ⟨tunables, result, each, ?_, declared_rising _ tunables each⟩, fun bad => absurd sound bad⟩
      rw [declared_names _ tunables each]
      exact sound.distinct
  | stopped front text after error split good fault result =>
      rw [List.nil_append] at good fault
      refine ⟨fun sound => ?_, fun _ => ⟨front.length, error, ?_, ?_⟩⟩
      · rw [split] at sound
        exact absurd fault (sound_no_fault front text after sound error)
      · rw [scan, split]
        exact result after
      · have before : (Text.lines source.toList).take front.length = front := by
          rw [split, List.take_left]
        refine ⟨?_, ⟨text, ?_, ?_⟩, ?_⟩
        · rwa [before]
        · rw [split, List.getElem?_append_right (Nat.le_refl _), Nat.sub_self, List.getElem?_cons_zero]
        · rwa [before]
        · intro other same
          have through : (Text.lines source.toList).take (front.length + 1) = front ++ [text] := by
            rw [split, List.take_length_add_append, List.take_succ_cons, List.take_zero]
          rw [through] at same
          have shared : Text.lines other.toList =
              front ++ text :: (Text.lines other.toList).drop (front.length + 1) := by
            rw [← List.singleton_append, ← List.append_assoc, ← same, List.take_append_drop]
          rw [scan, shared]
          exact result _

theorem second_gain_stops :
    ∃ index, StopsAt "uniform float gain; // ts({value: 1})\nuniform int gain; // ts(\x7b\x7d)" index
      (.duplicate "gain" 2) := by
  obtain ⟨_, declared, stopped⟩ :=
    scan_first_fault "uniform float gain; // ts({value: 1})\nuniform int gain; // ts(\x7b\x7d)"
  have result : (scan "uniform float gain; // ts({value: 1})\nuniform int gain; // ts(\x7b\x7d)").map (·.length) =
      .error (.duplicate "gain" 2) := by decide +kernel
  by_cases sound : Sound (Text.lines "uniform float gain; // ts({value: 1})\nuniform int gain; // ts(\x7b\x7d)".toList)
  · obtain ⟨tunables, answer, _⟩ := declared sound
    rw [answer] at result
    cases result
  · obtain ⟨index, error, answer, stops⟩ := stopped sound
    rw [answer] at result
    obtain rfl := Except.error.inj result
    exact ⟨index, stops⟩

end ShaderKnobs.Tunable
