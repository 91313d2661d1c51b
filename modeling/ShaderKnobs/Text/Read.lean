set_option autoImplicit false

namespace ShaderKnobs

abbrev Read (α : Type) := List Char → Option (α × List Char)

end ShaderKnobs
