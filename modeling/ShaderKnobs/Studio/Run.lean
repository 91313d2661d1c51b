import ShaderKnobs.Studio.Basic

set_option autoImplicit false

namespace ShaderKnobs.Studio

variable {E P : Type}

def editWhile [EngineHost E] [EditHost P] (engineFree : Bool) (control : ControlId)
    (setting : Setting) (studio : Studio E P) : Except PanelError Unit × Studio E P :=
  match EditHost.edit control setting studio.panel with
  | .error e => (.error e, studio)
  | .ok (panel, event, listeners) =>
      (.ok (), listeners.foldl (hear engineFree event) { studio with panel := panel })

def edit [EngineHost E] [EditHost P] (control : ControlId) (setting : Setting)
    (studio : Studio E P) : Except PanelError Unit × Studio E P :=
  editWhile true control setting studio

def callTarget [EngineHost E] (call : TargetCall) (studio : Studio E P) : Studio E P :=
  { studio with engine := call.run studio.engine }

def editOnRecord [EngineHost E] [EditHost P] (control : ControlId) (setting : Setting)
    (studio : Studio E P) : Studio E P :=
  match editWhile false control setting studio with
  | (.ok _, edited) => edited
  | (.error e, edited) => edited.record (.refused e)

def runDeed [EngineHost E] [EditHost P] (studio : Studio E P) : HookDeed → Studio E P
  | .call call => studio.callTarget call
  | .edit control setting => studio.editOnRecord control setting

def runHook [EngineHost E] [EditHost P] (hook : FrameHook) (studio : Studio E P) :
    FrameHook × Studio E P :=
  match hook with
  | .counter index material name frame =>
      let value : Number.Single := Number.Binary.ofInt Number.single frame.toNat
      let studio := studio.callTarget (.setFloat material name value)
      (.counter index material name (frame + 1), studio.updateShader index (·.assign name (.float value)))
  | .script deeds turn => (.script deeds (turn + 1), (deeds turn).foldl runDeed studio)

def runHooks [EngineHost E] [EditHost P] (scene : SceneId) :
    List (SceneId × FrameHook) → Studio E P → List (SceneId × FrameHook) × Studio E P
  | [], studio => ([], studio)
  | (home, hook) :: rest, studio =>
      if home = scene then
        let (hook, studio) := runHook hook studio
        let (rest, studio) := runHooks scene rest studio
        ((home, hook) :: rest, studio)
      else
        let (rest, studio) := runHooks scene rest studio
        ((home, hook) :: rest, studio)

def renderFrame [FrameHost E] [EditHost P] (scene : SceneId) (studio : Studio E P) : Studio E P :=
  let (hooks, studio) := runHooks scene (FrameHost.hooks studio.engine) studio
  { studio with engine := FrameHost.endFrame scene hooks studio.engine }

def renderFrames [FrameHost E] [EditHost P] (scene : SceneId) : Nat → Studio E P → Studio E P
  | 0, studio => studio
  | n + 1, studio => renderFrames scene n (renderFrame scene studio)

end ShaderKnobs.Studio
