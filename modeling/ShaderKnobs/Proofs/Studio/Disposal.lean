import Mathlib.Data.List.Induction
import ShaderKnobs.Proofs.Studio.Blueprint
import ShaderKnobs.Proofs.Studio.Building

set_option autoImplicit false

namespace ShaderKnobs

inductive Teardown where
  | whole
  | part (id : SectionId)
deriving DecidableEq

/-- A panel that keeps a record of the disposals it is asked for, and otherwise is the panel inside. -/
structure Watched (P : Type) where
  panel : P
  torn : List Teardown

def Watched.inside {P α : Type} (request : P → Except PanelError α × P) (watched : Watched P) :
    Except PanelError α × Watched P :=
  let (answer, panel) := request watched.panel
  (answer, { watched with panel := panel })

instance {P : Type} [PanelHost P] : PanelHost (Watched P) where
  addSection title := Watched.inside (PanelHost.addSection title)
  addControl home spec := Watched.inside (PanelHost.addControl home spec)
  listen id listener := Watched.inside (PanelHost.listen id listener)
  disposeSection id watched := ⟨PanelHost.disposeSection id watched.panel, watched.torn ++ [.part id]⟩
  dispose watched := ⟨PanelHost.dispose watched.panel, watched.torn ++ [.whole]⟩

namespace Studio

variable {E P : Type}

-- A call to dispose of a shader's controls: whether the panel is free, and whether all of it should go.
structure Call where
  free : Bool
  all : Bool

def callAll [PanelHost P] (index : Nat) (calls : List Call) (studio : Studio E P) : Studio E P :=
  calls.foldl (fun studio call => studio.dispose call.free call.all index) studio

def withPanel {Q : Type} (panel : Q) (studio : Studio E P) : Studio E Q :=
  ⟨studio.engine, panel, studio.lastProgram, studio.shaders, studio.notices, studio.records⟩

def watch (studio : Studio E P) : Studio E (Watched P) := studio.withPanel ⟨studio.panel, []⟩

-- A call has nothing left to do once its mode, or the whole panel, has had its turn.
def spent (all : Bool) (calls : List Call) : Bool := calls.any fun call => call.free && (call.all || !all)

-- What the panel is to be asked for: the section if the first call on a free panel is for it, and then
-- the whole panel if any call on a free panel is for that.
def asked (home : Option SectionId) (calls : List Call) : List Teardown :=
  (if (calls.find? (·.free)).any (!·.all) then (home.map Teardown.part).toList else []) ++
    if spent true calls then [.whole] else []

def marked (calls : List Call) (shader : LiveShader) : LiveShader :=
  { shader with sectionDisposed := spent false calls, panelDisposed := spent true calls }

theorem call_all_snoc [PanelHost P] (index : Nat) (calls : List Call) (call : Call) (studio : Studio E P) :
    callAll index (calls ++ [call]) studio = (callAll index calls studio).dispose call.free call.all index := by
  rw [callAll, List.foldl_append]
  rfl

theorem spent_snoc (all : Bool) (calls : List Call) (call : Call) :
    spent all (calls ++ [call]) = (spent all calls || call.free && (call.all || !all)) := by
  simp [spent]

theorem spent_of_whole (calls : List Call) (gone : spent true calls = true) : spent false calls = true := by
  rw [spent, List.any_eq_true] at gone ⊢
  obtain ⟨call, member, whole⟩ := gone
  refine ⟨call, member, ?_⟩
  rw [Bool.and_eq_true] at whole ⊢
  simp [whole.1]

theorem marked_done (all : Bool) (calls : List Call) (shader : LiveShader) :
    ((marked calls shader).panelDisposed || (!all && (marked calls shader).sectionDisposed)) = spent all calls := by
  simp only [marked]
  cases all with
  | true => simp
  | false =>
      cases gone : spent true calls with
      | true => simp [spent_of_whole calls gone]
      | false => simp

def tear [PanelHost P] (all : Bool) (home : Option SectionId) (panel : P) : P :=
  if all then PanelHost.dispose panel
  else match home with
    | some id => PanelHost.disposeSection id panel
    | none => panel

theorem modify_known {α : Type} (xs : List α) (i : Nat) (f : α → α) (a : α) (known : xs[i]? = some a) :
    xs.modify i f = xs.set i (f a) := by
  rw [List.modify_eq_set_getElem?, known]
  rfl

theorem dispose_marked [PanelHost P] (free all : Bool) (index : Nat) (calls : List Call) (studio : Studio E P)
    (shader : LiveShader) (live : studio.shaders[index]? = some (marked calls shader)) :
    studio.dispose free all index =
      if spent all calls then studio
      else if free then { studio with
        panel := tear all shader.section_ studio.panel
        shaders := studio.shaders.set index (marked (calls ++ [⟨true, all⟩]) shader) }
      else studio.notice (.panelBusy shader.name) := by
  have done := marked_done all calls shader
  simp only [dispose, live, done]
  cases gone : spent all calls with
  | true => rfl
  | false =>
      cases free with
      | false => rfl
      | true =>
          cases all with
          | true =>
              simp only [updateShader, modify_known studio.shaders index _ _ live, marked, spent_snoc]
              simp [tear]
          | false =>
              have whole : spent true calls = false := by
                cases whole : spent true calls with
                | false => rfl
                | true => exact absurd (spent_of_whole calls whole) (by simp [gone])
              simp only [updateShader, modify_known studio.shaders index _ _ live, marked, spent_snoc, whole]
              cases shader.section_ <;> simp [tear]

theorem calls_mark [PanelHost P] (index : Nat) (calls : List Call) (studio : Studio E P) (shader : LiveShader)
    (live : studio.shaders[index]? = some (marked [] shader)) :
    (callAll index calls studio).shaders[index]? = some (marked calls shader) := by
  induction calls using List.reverseRecOn with
  | nil => exact live
  | append_singleton calls call ih =>
      obtain ⟨free, all⟩ := call
      have bound := (List.getElem?_eq_some_iff.mp ih).1
      rw [call_all_snoc, dispose_marked free all index calls _ shader ih]
      cases done : spent all calls with
      | true =>
          have same : marked (calls ++ [⟨free, all⟩]) shader = marked calls shader := by
            cases all with
            | true => simp [marked, spent_snoc, done, spent_of_whole calls done]
            | false => simp [marked, spent_snoc, done]
          rw [same]
          exact ih
      | false =>
          cases free with
          | true => simp [bound]
          | false =>
              have same : marked (calls ++ [⟨false, all⟩]) shader = marked calls shader := by
                simp [marked, spent_snoc]
              rw [same]
              exact ih

def request (all : Bool) (home : Option SectionId) : List Teardown :=
  if all then [.whole] else (home.map Teardown.part).toList

theorem asked_snoc (home : Option SectionId) (calls : List Call) (call : Call) :
    asked home (calls ++ [call]) =
      asked home calls ++ if spent call.all calls then [] else if call.free then request call.all home else [] := by
  obtain ⟨free, all⟩ := call
  simp only [asked, List.find?_append, spent_snoc]
  cases free with
  | false => simp
  | true =>
      cases all with
      | true => cases calls.find? (·.free) <;> cases spent true calls <;> simp [request]
      | false =>
          cases first : calls.find? (·.free) with
          | none =>
              have idle : ∀ call ∈ calls, call.free = false := by
                simpa using first
              have none : ∀ all, spent all calls = false := by
                intro all
                rw [spent, List.any_eq_false]
                intro call member
                simp [idle call member]
              simp [none, request]
          | some call =>
              have free : call.free = true := List.find?_some first
              have done : spent false calls = true := by
                rw [spent, List.any_eq_true]
                exact ⟨call, List.mem_of_find?_eq_some first, by simp [free]⟩
              simp [done]

theorem calls_asked [PanelHost P] (index : Nat) (calls : List Call) (studio : Studio E (Watched P))
    (shader : LiveShader) (live : studio.shaders[index]? = some (marked [] shader)) :
    (callAll index calls studio).panel.torn = studio.panel.torn ++ asked shader.section_ calls := by
  induction calls using List.reverseRecOn with
  | nil => simp [callAll, asked, spent]
  | append_singleton calls call ih =>
      obtain ⟨free, all⟩ := call
      have now := calls_mark index calls studio shader live
      rw [call_all_snoc, dispose_marked free all index calls _ shader now, asked_snoc, ← List.append_assoc, ← ih]
      cases spent all calls with
      | true => simp
      | false =>
          cases free with
          | false => simp [notice]
          | true =>
              cases all with
              | true => simp [tear, request, PanelHost.dispose]
              | false => cases home : shader.section_ <;> simp [tear, request, PanelHost.disposeSection]

theorem watched_dispose [PanelHost P] (free all : Bool) (index : Nat) (studio : Studio E (Watched P)) :
    (studio.dispose free all index).withPanel (studio.dispose free all index).panel.panel =
      (studio.withPanel studio.panel.panel).dispose free all index := by
  simp only [dispose]
  rw [show (studio.withPanel studio.panel.panel).shaders = studio.shaders from rfl]
  cases studio.shaders[index]? with
  | none => rfl
  | some shader =>
      dsimp only
      by_cases done : (shader.panelDisposed || (!all && shader.sectionDisposed)) = true
      · rw [if_pos done, if_pos done]
      · rw [if_neg done, if_neg done]
        cases free with
        | false => rfl
        | true =>
            cases all with
            | true => rfl
            | false => cases shader.section_ <;> rfl

theorem watched_calls [PanelHost P] (index : Nat) (calls : List Call) (studio : Studio E (Watched P)) :
    (callAll index calls studio).withPanel (callAll index calls studio).panel.panel =
      callAll index calls (studio.withPanel studio.panel.panel) := by
  induction calls generalizing studio with
  | nil => rfl
  | cons call rest ih =>
      refine (ih (studio.dispose call.free call.all index)).trans ?_
      rw [watched_dispose]
      rfl

-- At most once in each mode, only the shader's own section, and nothing after the whole panel.
structure OnceEach (home : Option SectionId) (torn : List Teardown) : Prop where
  whole : torn.count .whole ≤ 1
  part : (torn.filter (· ≠ .whole)).length ≤ 1
  own : ∀ id, .part id ∈ torn → home = some id
  last : torn.Pairwise fun earlier _ => earlier ≠ .whole

theorem asked_once_each (home : Option SectionId) (calls : List Call) : OnceEach home (asked home calls) := by
  simp only [asked]
  generalize (calls.find? (·.free)).any (!·.all) = first
  generalize spent true calls = gone
  cases home <;> cases first <;> cases gone <;> exact ⟨by simp, by simp, by simp, by simp⟩

theorem whole_asked (home : Option SectionId) (calls : List Call) :
    .whole ∈ asked home calls ↔ ∃ call ∈ calls, call.free = true ∧ call.all = true := by
  have parts : .whole ∉ (if (calls.find? (·.free)).any (!·.all) then (home.map Teardown.part).toList else []) := by
    split <;> cases home <;> simp
  rw [asked, List.mem_append, or_iff_right parts]
  cases gone : spent true calls with
  | true =>
      rw [spent, List.any_eq_true] at gone
      simpa using gone
  | false =>
      rw [spent, List.any_eq_false] at gone
      simpa using gone

theorem part_asked (home : Option SectionId) (calls : List Call) (id : SectionId) :
    .part id ∈ asked home calls ↔ home = some id ∧ ∃ call, calls.find? (·.free) = some call ∧ call.all = false := by
  have whole : .part id ∉ (if spent true calls then [Teardown.whole] else []) := by
    split <;> simp
  rw [asked, List.mem_append, or_iff_left whole]
  cases calls.find? (·.free) with
  | none => simp
  | some call =>
      cases all : call.all with
      | true => simp [all]
      | false =>
          cases home with
          | none => simp [all]
          | some own =>
              simp only [Option.any_some, all, Bool.not_false, if_true, Option.map_some, Option.toList_some,
                List.mem_singleton, Teardown.part.injEq, Option.some.injEq]
              exact ⟨fun same => ⟨same.symm, call, rfl, all⟩, fun both => both.1.symm⟩

section

variable [PanelHost P] {index : Nat} {calls : List Call} {studio : Studio E P} {shader : LiveShader}

theorem busy_call (live : studio.shaders[index]? = some (marked calls shader)) (all : Bool)
    (left : spent all calls = false) :
    studio.dispose false all index = studio.notice (.panelBusy shader.name) := by
  rw [dispose_marked false all index calls studio shader live, left]
  rfl

theorem free_call (live : studio.shaders[index]? = some (marked calls shader)) (all : Bool)
    (left : spent all calls = false) :
    studio.dispose true all index = { studio with
      panel := tear all shader.section_ studio.panel
      shaders := studio.shaders.set index (marked (calls ++ [⟨true, all⟩]) shader) } := by
  rw [dispose_marked true all index calls studio shader live, left]
  rfl

theorem spent_call (live : studio.shaders[index]? = some (marked calls shader)) (free all : Bool)
    (done : spent all calls = true) : studio.dispose free all index = studio := by
  rw [dispose_marked free all index calls studio shader live, done]
  rfl

theorem spent_calls (live : studio.shaders[index]? = some (marked calls shader)) (done : spent true calls = true)
    (more : List Call) : callAll index more studio = studio := by
  induction more with
  | nil => rfl
  | cons call rest ih =>
      have every : spent call.all calls = true := by
        cases call.all with
        | true => exact done
        | false => exact spent_of_whole calls done
      rw [callAll, List.foldl_cons, spent_call live call.free call.all every]
      exact ih

end

theorem is_disposed_marked (calls : List Call) (shader : LiveShader) :
    (marked calls shader).isDisposed = calls.any (·.free) := by
  have either : (marked calls shader).isDisposed = spent false calls := by
    simp only [LiveShader.isDisposed, marked]
    cases gone : spent true calls with
    | true => simp [spent_of_whole calls gone]
    | false => simp
  simp [either, spent]

theorem disposed_once_each [PanelHost P] (studio : Studio E P) (index : Nat) (shader : LiveShader)
    (live : studio.shaders[index]? = some shader) (sectionKept : shader.sectionDisposed = false)
    (panelKept : shader.panelDisposed = false) (calls : List Call) :
    let after := callAll index calls studio
    let watched := callAll index calls studio.watch
    -- What the panel has been asked for in all.
    (watched.withPanel watched.panel.panel = after ∧ OnceEach shader.section_ watched.panel.torn ∧
      (.whole ∈ watched.panel.torn ↔ ∃ call ∈ calls, call.free = true ∧ call.all = true) ∧
      ∀ id, .part id ∈ watched.panel.torn ↔
        shader.section_ = some id ∧ ∃ call, calls.find? (·.free) = some call ∧ call.all = false) ∧
    -- One more call: it has nothing to do, or it waits for the panel, or it has its effect.
    (∀ all, (spent all calls = true → ∀ free, after.dispose free all index = after) ∧
      (spent all calls = false →
        let busy := after.dispose false all index
        busy = after.notice (.panelBusy shader.name) ∧
          busy.notices.map (·.message) = after.notices.map (·.message) ++ ["panel is busy; dispose skipped"] ∧
          busy.dispose true all index = { after.dispose true all index with notices := busy.notices } ∧
          (after.dispose true all index).panel = tear all shader.section_ after.panel)) ∧
    -- The end: after the whole panel has gone, nothing; and no way back.
    (spent true calls = true → ∀ more, callAll index more after = after) ∧
    ∃ now, after.shaders[index]? = some now ∧ now.isDisposed = calls.any (·.free) ∧
      ∀ more, ∃ later, (callAll index more after).shaders[index]? = some later ∧
        (now.isDisposed = true → later.isDisposed = true) := by
  intro after watched
  have unmarked : shader = marked [] shader := by
    rw [marked, show spent false [] = shader.sectionDisposed from sectionKept.symm,
      show spent true [] = shader.panelDisposed from panelKept.symm]
  have start : studio.shaders[index]? = some (marked [] shader) := unmarked ▸ live
  have now := calls_mark index calls studio shader start
  have torn : watched.panel.torn = asked shader.section_ calls := calls_asked index calls studio.watch shader start
  refine ⟨⟨watched_calls index calls studio.watch, ?_, ?_, fun id => ?_⟩, fun all => ⟨?_, fun left => ?_⟩, ?_, ?_⟩
  · rw [torn]
    exact asked_once_each shader.section_ calls
  · rw [torn]
    exact whole_asked shader.section_ calls
  · rw [torn]
    exact part_asked shader.section_ calls id
  · exact fun done free => spent_call now free all done
  · intro busy
    have noted : busy = after.notice (.panelBusy shader.name) := busy_call now all left
    have same : busy.shaders[index]? = some (marked calls shader) := by
      rw [noted]
      exact now
    refine ⟨noted, ?_, ?_, ?_⟩
    · rw [noted, notice, List.map_append]
      rfl
    · rw [free_call same all left, free_call now all left, noted]
      rfl
    · rw [free_call now all left]
  · exact fun done more => spent_calls now done more
  · refine ⟨_, now, is_disposed_marked calls shader, fun more => ?_⟩
    have whole : callAll index more after = callAll index (calls ++ more) studio := by
      simp only [after, callAll, List.foldl_append]
    refine ⟨_, (congrArg (·.shaders[index]?) whole).trans (calls_mark index (calls ++ more) studio shader start), ?_⟩
    rw [is_disposed_marked, is_disposed_marked, List.any_append]
    intro gone
    rw [gone, Bool.true_or]

theorem gain_torn_down_in_turn :
    let studio := (build "tint" ⟨1⟩ gainOptions (start Engine.empty Panel.empty)).2
    let torn := (callAll 0 [⟨false, true⟩, ⟨true, false⟩, ⟨true, true⟩] studio.watch).panel.torn
    .part ⟨1⟩ ∈ torn ∧ .whole ∈ torn ∧ OnceEach (some ⟨1⟩) torn := by
  intro studio torn
  have built : (studio.shaders[0]?.map fun shader => (shader.section_, shader.sectionDisposed, shader.panelDisposed)) =
      some (some ⟨1⟩, false, false) := by
    decide +kernel
  obtain ⟨shader, live, fields⟩ := Option.map_eq_some_iff.mp built
  obtain ⟨home, flags⟩ := Prod.mk.inj fields
  obtain ⟨sectionKept, panelKept⟩ := Prod.mk.inj flags
  obtain ⟨⟨_, once, whole, part⟩, _⟩ := disposed_once_each studio 0 shader live sectionKept panelKept
    [⟨false, true⟩, ⟨true, false⟩, ⟨true, true⟩]
  rw [home] at once part
  exact ⟨(part ⟨1⟩).mpr ⟨rfl, ⟨true, false⟩, rfl, rfl⟩, whole.mpr ⟨⟨true, true⟩, by simp, rfl, rfl⟩, once⟩

end Studio

end ShaderKnobs
