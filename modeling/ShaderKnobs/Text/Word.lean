import ShaderKnobs.Text.Property

set_option autoImplicit false

namespace ShaderKnobs.Text

def isWord (c : Char) : Bool :=
  (inRanges alphabetic c && !inRanges recentLetters c) || inRanges decimalDigits c ||
    inRanges connectors c || inRanges otherMarks c || inRanges joiners c

def isAlphanumeric (c : Char) : Bool :=
  inRanges alphabetic c || inRanges numeric c

end ShaderKnobs.Text
