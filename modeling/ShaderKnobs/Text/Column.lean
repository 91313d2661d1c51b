set_option autoImplicit false

namespace ShaderKnobs.Text

def column (width : Nat) (text : String) : String :=
  text ++ String.ofList (List.replicate (width - text.length) ' ')

end ShaderKnobs.Text
