import Lexeme.Text.Ranges

/-!
# Ignorable characters

The characters of the Unicode property `Default_Ignorable_Code_Point`: the ones that are shown as
nothing at all by a display that does not know what they are for. Among them are letters, the
fillers of Hangul syllables, which no general category tells from letters that are seen.

## Main Definitions

* `ignorable` — the code points of the property
* `isIgnorable` — whether a character has it
-/

namespace Lexeme.Text

/-- The code points with the property `Default_Ignorable_Code_Point`. -/
def ignorable : Ranges :=
  ⟨[(0xAD, 0xAD), (0x34F, 0x34F), (0x61C, 0x61C), (0x115F, 0x1160), (0x17B4, 0x17B5),
    (0x180B, 0x180F), (0x200B, 0x200F), (0x202A, 0x202E), (0x2060, 0x206F), (0x3164, 0x3164),
    (0xFE00, 0xFE0F), (0xFEFF, 0xFEFF), (0xFFA0, 0xFFA0), (0xFFF0, 0xFFF8), (0x1BCA0, 0x1BCA3),
    (0x1D173, 0x1D17A), (0xE0000, 0xE0FFF)],
    by decide +kernel⟩

/-- Whether a character is shown as nothing by default. -/
def isIgnorable (c : Char) : Bool := ignorable.has c.toNat

end Lexeme.Text
