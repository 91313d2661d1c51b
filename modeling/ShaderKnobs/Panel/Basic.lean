import ShaderKnobs.Panel.Host

set_option autoImplicit false

namespace ShaderKnobs

structure Section where
  id : SectionId
  title : String
  controls : List ControlId

structure Control where
  id : ControlId
  section_ : SectionId
  spec : ControlSpec
  setting : Setting
  listeners : List Listener

structure Panel where
  lastId : Nat
  sections : List Section
  controls : List Control
  disposed : Bool

namespace Panel

def empty : Panel := ⟨0, [], [], false⟩

def section? (id : SectionId) (panel : Panel) : Option Section :=
  panel.sections.find? (·.id = id)

def control? (id : ControlId) (panel : Panel) : Option Control :=
  panel.controls.find? (·.id = id)

def updateControl (id : ControlId) (f : Control → Control) (panel : Panel) : Panel :=
  { panel with controls := panel.controls.map fun c => if c.id = id then f c else c }

def addSection (title : String) (panel : Panel) : Except PanelError SectionId × Panel :=
  if panel.disposed then (.error .disposed, panel)
  else
    let id : SectionId := ⟨panel.lastId + 1⟩
    (.ok id, { panel with lastId := id.number, sections := panel.sections ++ [⟨id, title, []⟩] })

def controlFault? (home : SectionId) (spec : ControlSpec) (panel : Panel) : Option PanelError :=
  if panel.disposed then some .disposed
  else if (panel.section? home).isNone then some (.unknownSection home)
  else if spec.knob.accepts spec.initial then none
  else some (.cannotBind spec.key
    ("initial value " ++ spec.initial.diagnostic ++ " is not a " ++ spec.knob.name ++ " value"))

def addControl (home : SectionId) (spec : ControlSpec) (panel : Panel) :
    Except PanelError ControlId × Panel :=
  match panel.controlFault? home spec with
  | some e => (.error e, panel)
  | none =>
      let id : ControlId := ⟨panel.lastId + 1⟩
      (.ok id, { panel with
        lastId := id.number
        sections := panel.sections.map fun s =>
          if s.id = home then { s with controls := s.controls ++ [id] } else s
        controls := panel.controls ++ [⟨id, home, spec, spec.initial, []⟩] })

def listen (id : ControlId) (listener : Listener) (panel : Panel) :
    Except PanelError Unit × Panel :=
  if (panel.control? id).isNone then (.error (.unknownControl id), panel)
  else (.ok (), panel.updateControl id fun c => { c with listeners := c.listeners ++ [listener] })

def disposeSection (id : SectionId) (panel : Panel) : Panel :=
  match panel.section? id with
  | none => panel
  | some gone => { panel with
      sections := panel.sections.filter (·.id ≠ id)
      controls := panel.controls.filter fun c => c.id ∉ gone.controls }

def dispose (panel : Panel) : Panel :=
  { panel with sections := [], controls := [], disposed := true }

def edit (id : ControlId) (setting : Setting) (panel : Panel) :
    Except PanelError (Panel × ChangeEvent × List Listener) :=
  if panel.disposed then .error .disposed
  else match panel.control? id with
    | none => .error (.unknownControl id)
    | some c =>
        if c.spec.knob.accepts setting then
          .ok (panel.updateControl id ({ · with setting := setting }),
            ⟨id, c.spec.key, setting⟩, c.listeners)
        else .error (.cannotBind c.spec.key
          (setting.diagnostic ++ " is not a " ++ c.spec.knob.name ++ " value"))

def find (title key : String) (panel : Panel) : Option ControlId :=
  ((panel.sections.filter (·.title = title)).flatMap (·.controls)).find? fun id =>
    ((panel.control? id).map fun c => decide (c.spec.key = key)).getD false

def titles (panel : Panel) : List String := panel.sections.map (·.title)

def controlsIn (id : SectionId) (panel : Panel) : List ControlId :=
  ((panel.section? id).map (·.controls)).getD []

def controlCount (panel : Panel) : Nat := panel.controls.length

end Panel

instance : EditHost Panel where
  addSection := Panel.addSection
  addControl := Panel.addControl
  listen := Panel.listen
  disposeSection := Panel.disposeSection
  dispose := Panel.dispose
  edit := Panel.edit

end ShaderKnobs
