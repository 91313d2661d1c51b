import ShaderKnobs.Knob.Basic

set_option autoImplicit false

namespace ShaderKnobs

structure SectionId where
  number : Nat
deriving DecidableEq

structure ControlId where
  number : Nat
deriving DecidableEq

structure ControlSpec where
  key : String
  knob : Knob
  initial : Setting
  params : Fields

namespace ControlSpec

def document (spec : ControlSpec) : Document :=
  .object [("key", .text spec.key), ("kind", .text spec.knob.name),
    ("initial", spec.initial.document), ("params", (Json.object spec.params).document)]

def number? (key : String) (spec : ControlSpec) : Option Number.Double :=
  (Fields.get? key spec.params).bind Json.number?

end ControlSpec

def Tunable.controlSpec (t : Tunable) : ControlSpec := ⟨t.name, t.knob, t.initial, t.params⟩

structure ChangeEvent where
  control : ControlId
  key : String
  setting : Setting
deriving DecidableEq

inductive Listener where
  | follow (shader : Nat)
  | observe (tag : Json) (dispose : Option (Nat × Bool))

inductive PanelError where
  | disposed
  | unknownSection (id : SectionId)
  | unknownControl (id : ControlId)
  | cannotBind (key reason : String)
deriving DecidableEq

def PanelError.message : PanelError → String
  | .disposed => "panel has been disposed"
  | .unknownSection id => "unknown section SectionId(" ++ toString id.number ++ ")"
  | .unknownControl id => "unknown control ControlId(" ++ toString id.number ++ ")"
  | .cannotBind key reason => "cannot bind '" ++ key ++ "': " ++ reason

class PanelHost (P : Type) where
  addSection : String → P → Except PanelError SectionId × P
  addControl : SectionId → ControlSpec → P → Except PanelError ControlId × P
  listen : ControlId → Listener → P → Except PanelError Unit × P
  disposeSection : SectionId → P → P
  dispose : P → P

class EditHost (P : Type) extends PanelHost P where
  edit : ControlId → Setting → P → Except PanelError (P × ChangeEvent × List Listener)

end ShaderKnobs
