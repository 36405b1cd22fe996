import RegisterMap.Text.Basic
import RegisterMap.Text.Ranges

/-!
# White space

The Unicode property White_Space: 25 characters.
-/

namespace RegisterMap.Text

/-- White_Space. -/
def blankRanges : Ranges :=
  [(0x09, 0x0D), (0x20, 0x20), (0x85, 0x85), (0xA0, 0xA0), (0x1680, 0x1680), (0x2000, 0x200A),
   (0x2028, 0x2029), (0x202F, 0x202F), (0x205F, 0x205F), (0x3000, 0x3000)]

def isBlank (c : Char) : Bool := blankRanges.has c.toNat

/-- The text less the white space at both ends. -/
def trim (s : Text) : Text := trimBy isBlank s

def trimEnd (s : Text) : Text := trimEndBy isBlank s

end RegisterMap.Text
