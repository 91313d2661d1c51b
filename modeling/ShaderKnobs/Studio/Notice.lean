import ShaderKnobs.Panel.Host

set_option autoImplicit false

namespace ShaderKnobs

inductive Notice where
  | uniformListIgnored (shader : String)
  | misfit (knob : Knob) (value : Json)
  | sectionRefused (shader : String) (error : PanelError)
  | controlRefused (shader uniform : String) (error : PanelError)
  | listenerRefused (shader uniform : String) (error : PanelError)
  | settingMismatch (shader uniform : String) (knob : Knob) (setting : Setting)
  | engineBusy (shader uniform : String)
  | panelBusy (shader : String)

namespace Notice

inductive Level where
  | warn
  | error
deriving DecidableEq

def Level.name : Level → String
  | .warn => "WARN"
  | .error => "ERROR"

def level : Notice → Level
  | .engineBusy _ _ => .error
  | .panelBusy _ => .error
  | _ => .warn

def message : Notice → String
  | .uniformListIgnored _ =>
      "explicit uniform list is ignored; uniforms are derived from the shader"
  | .misfit _ _ => "annotation value does not match uniform type; using zero"
  | .sectionRefused _ _ => "failed to create panel section; uniforms will not be editable"
  | .controlRefused _ _ _ => "failed to create control"
  | .listenerRefused _ _ _ => "failed to attach change listener"
  | .settingMismatch _ _ _ _ => "edited value does not match uniform type"
  | .engineBusy _ _ => "render engine busy; uniform update dropped"
  | .panelBusy _ => "panel is busy; dispose skipped"

def fields : Notice → List (String × String)
  | .uniformListIgnored shader => [("shader", shader)]
  | .misfit knob value => [("kind", knob.name), ("value", value.compact)]
  | .sectionRefused shader error => [("shader", shader), ("error", error.message)]
  | .controlRefused shader uniform error =>
      [("shader", shader), ("uniform", uniform), ("error", error.message)]
  | .listenerRefused shader uniform error =>
      [("shader", shader), ("uniform", uniform), ("error", error.message)]
  | .settingMismatch shader uniform knob setting =>
      [("shader", shader), ("uniform", uniform), ("kind", knob.name), ("value", setting.diagnostic)]
  | .engineBusy shader uniform => [("shader", shader), ("uniform", uniform)]
  | .panelBusy shader => [("shader", shader)]

end Notice

def Tunable.notices (t : Tunable) : List Notice :=
  ((t.knob.misfit? t.attributes).map (Notice.misfit t.knob)).toList

end ShaderKnobs
