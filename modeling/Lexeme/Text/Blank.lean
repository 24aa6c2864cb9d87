import Lexeme.Text.Ranges

/-!
# Blanks

The characters of the Unicode property `White_Space`: the ones that separate tokens and that are
trimmed from the end of a shown source line.

## Main Definitions

* `whiteSpace` — the code points of the property
* `isBlank` — whether a character has it
-/

namespace Lexeme.Text

/-- The code points with the property `White_Space`. -/
def whiteSpace : Ranges :=
  ⟨[(0x9, 0xD), (0x20, 0x20), (0x85, 0x85), (0xA0, 0xA0), (0x1680, 0x1680), (0x2000, 0x200A),
    (0x2028, 0x2029), (0x202F, 0x202F), (0x205F, 0x205F), (0x3000, 0x3000)],
    by decide +kernel⟩

/-- Whether a character is white space in the sense of the Unicode standard. -/
def isBlank (c : Char) : Bool := whiteSpace.has c.toNat

end Lexeme.Text
