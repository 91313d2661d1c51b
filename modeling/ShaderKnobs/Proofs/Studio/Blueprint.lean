import Mathlib.Data.List.Nodup
import ShaderKnobs.Proofs.Answer
import ShaderKnobs.Proofs.Studio.Values

set_option autoImplicit false

namespace ShaderKnobs

def BuildError.fromEngine : BuildError → Bool
  | .engine _ _ => true
  | _ => false

theorem require_source_error (stage : Stage) (source : Option String) (error : BuildError)
    (refused : requireSource stage source = .error error) : error.fromEngine = false := by
  cases source with
  | none =>
      obtain rfl := Except.error.inj refused
      rfl
  | some text =>
      simp only [requireSource] at refused
      split at refused
      · obtain rfl := Except.error.inj refused
        rfl
      · cases refused

theorem uniform_names_error (taken names : List String) (error : BuildError)
    (refused : uniformNames taken names = .error error) : error.fromEngine = false := by
  induction names generalizing taken with
  | nil => cases refused
  | cons name rest ih =>
      simp only [uniformNames] at refused
      split at refused
      · obtain rfl := Except.error.inj refused
        rfl
      · exact ih (taken ++ [name]) refused

theorem blueprint_error (options : Options) (error : BuildError)
    (refused : Blueprint.ofOptions options = .error error) : error.fromEngine = false := by
  simp only [Blueprint.ofOptions] at refused
  rcases bind_error _ _ error refused with vertex | ⟨_, _, refused⟩
  · exact require_source_error .vertex options.vertex error vertex
  rcases bind_error _ _ error refused with fragment | ⟨fragment, _, refused⟩
  · exact require_source_error .fragment options.fragment error fragment
  rcases bind_error _ _ error refused with scanned | ⟨tunables, _, refused⟩
  · cases found : Tunable.scan fragment with
    | ok _ =>
        rw [found] at scanned
        cases scanned
    | error cause =>
        rw [found] at scanned
        obtain rfl := Except.error.inj scanned
        rfl
  rcases bind_error _ _ error refused with named | ⟨_, _, refused⟩
  · exact uniform_names_error _ _ error named
  · cases refused

theorem uniform_names_ok (taken names all : List String) (named : uniformNames taken names = .ok all)
    (distinct : taken.Nodup) : all = taken ++ names ∧ all.Nodup := by
  induction names generalizing taken with
  | nil =>
      obtain rfl := Except.ok.inj named
      exact ⟨by simp, distinct⟩
  | cons name rest ih =>
      simp only [uniformNames] at named
      split at named
      · cases named
      · next fresh =>
          have longer : (taken ++ [name]).Nodup := by
            rw [List.nodup_append]
            refine ⟨distinct, by simp, ?_⟩
            intro other member last isLast same
            obtain rfl := List.mem_singleton.mp isLast
            exact fresh (same ▸ member)
          obtain ⟨rfl, distinctAll⟩ := ih (taken ++ [name]) named longer
          exact ⟨by simp, distinctAll⟩

structure Drawn (options : Options) (plan : Blueprint) : Prop where
  vertex : requireSource .vertex options.vertex = .ok plan.vertex
  fragment : requireSource .fragment options.fragment = .ok plan.fragment
  scanned : Tunable.scan plan.fragment = .ok plan.tunables
  counter : plan.counter = options.counterName?
  uniforms : plan.uniforms = transformUniforms ++ (plan.tunables.map (·.name) ++ plan.counter.toList)
  distinct : plan.uniforms.Nodup

theorem blueprint_drawn (options : Options) (plan : Blueprint) (drawn : Blueprint.ofOptions options = .ok plan) :
    Drawn options plan := by
  simp only [Blueprint.ofOptions] at drawn
  obtain ⟨vertex, vertexGiven, drawn⟩ := bind_ok _ _ _ drawn
  obtain ⟨fragment, fragmentGiven, drawn⟩ := bind_ok _ _ _ drawn
  obtain ⟨tunables, scanned, drawn⟩ := bind_ok _ _ _ drawn
  obtain ⟨uniforms, named, drawn⟩ := bind_ok _ _ _ drawn
  obtain rfl := Except.ok.inj drawn
  obtain ⟨all, distinct⟩ := uniform_names_ok _ _ _ named (by decide)
  exact ⟨vertexGiven, fragmentGiven, map_error_ok _ _ _ scanned, rfl, all, distinct⟩

theorem Drawn.heads_names {options : Options} {plan : Blueprint} (_drawn : Drawn options plan) :
    plan.heads.map (·.1) = plan.tunables.map (·.name) ++ plan.counter.toList := by
  simp [Blueprint.heads, Function.comp_def]

theorem Drawn.heads_distinct {options : Options} {plan : Blueprint} (drawn : Drawn options plan) :
    (plan.heads.map (·.1)).Nodup := by
  rw [drawn.heads_names]
  have distinct := drawn.distinct
  rw [drawn.uniforms, List.nodup_append] at distinct
  exact distinct.2.1

theorem Drawn.knob_head {options : Options} {plan : Blueprint} (_drawn : Drawn options plan) (name : String)
    (knob : Knob) (head : (name, .knob knob) ∈ plan.heads) :
    ∃ tunable ∈ plan.tunables, tunable.name = name ∧ tunable.knob = knob := by
  rcases List.mem_append.mp head with annotated | counter
  · obtain ⟨tunable, member, same⟩ := List.mem_map.mp annotated
    obtain ⟨rfl, source⟩ := Prod.mk.inj same
    exact ⟨tunable, member, rfl, ValueSource.knob.inj source⟩
  · obtain ⟨_, _, same⟩ := List.mem_map.mp counter
    cases (Prod.mk.inj same).2

theorem Blueprint.tunable_head (plan : Blueprint) (tunable : Tunable) (member : tunable ∈ plan.tunables) :
    (tunable.name, .knob tunable.knob) ∈ plan.heads :=
  List.mem_append_left _ (List.mem_map.mpr ⟨tunable, member, rfl⟩)

theorem Blueprint.counter_head (plan : Blueprint) (name : String) (counter : plan.counter = some name) :
    (name, .frameCounter) ∈ plan.heads :=
  List.mem_append_right _ (by simp [counter])

theorem head_unique (heads : List (String × ValueSource)) (name : String) (a b : ValueSource)
    (distinct : (heads.map (·.1)).Nodup) (first : (name, a) ∈ heads) (second : (name, b) ∈ heads) : a = b :=
  (Prod.mk.inj (List.inj_on_of_nodup_map distinct first second rfl)).2

-- A shader with a single annotated uniform, for examples.
def gainOptions : Options := .ofSources "void main() \x7b\x7d" "uniform float gain; // ts(\x7b value: 0.5 \x7d)"

end ShaderKnobs
