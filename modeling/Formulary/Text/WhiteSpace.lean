import Formulary.Text.Ranges

/-!
# White space

The characters with the Unicode property White_Space, in version 17.0 of the standard.
-/

namespace Formulary.Text

/-- The code points with the property White_Space. -/
def whiteSpaceRanges : List (Nat × Nat) :=
  [(0x09, 0x0D), (0x20, 0x20), (0x85, 0x85), (0xA0, 0xA0), (0x1680, 0x1680), (0x2000, 0x200A),
   (0x2028, 0x2029), (0x202F, 0x202F), (0x205F, 0x205F), (0x3000, 0x3000)]

/-- Whether a character is white space. -/
def isWhiteSpace (c : Char) : Bool := inRanges whiteSpaceRanges c

end Formulary.Text
