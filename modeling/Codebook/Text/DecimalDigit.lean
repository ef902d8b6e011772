import Codebook.Text.CodeRange

/-!
# Decimal digits

The general category Nd of the Unicode standard: the digits of all positional decimal
notations. Error codes are written with them. The ten ASCII digits are a small part.
-/

namespace Codebook.Text

/-- The code points of the general category Nd. -/
def decimalDigitRanges : List CodeRange :=
  [⟨0x30, 0x39, 1⟩, ⟨0x660, 0x669, 1⟩, ⟨0x6F0, 0x6F9, 1⟩, ⟨0x7C0, 0x7C9, 1⟩, ⟨0x966, 0x96F, 1⟩,
   ⟨0x9E6, 0x9EF, 1⟩, ⟨0xA66, 0xA6F, 1⟩, ⟨0xAE6, 0xAEF, 1⟩, ⟨0xB66, 0xB6F, 1⟩, ⟨0xBE6, 0xBEF, 1⟩,
   ⟨0xC66, 0xC6F, 1⟩, ⟨0xCE6, 0xCEF, 1⟩, ⟨0xD66, 0xD6F, 1⟩, ⟨0xDE6, 0xDEF, 1⟩, ⟨0xE50, 0xE59, 1⟩,
   ⟨0xED0, 0xED9, 1⟩, ⟨0xF20, 0xF29, 1⟩, ⟨0x1040, 0x1049, 1⟩, ⟨0x1090, 0x1099, 1⟩,
   ⟨0x17E0, 0x17E9, 1⟩, ⟨0x1810, 0x1819, 1⟩, ⟨0x1946, 0x194F, 1⟩, ⟨0x19D0, 0x19D9, 1⟩,
   ⟨0x1A80, 0x1A89, 1⟩, ⟨0x1A90, 0x1A99, 1⟩, ⟨0x1B50, 0x1B59, 1⟩, ⟨0x1BB0, 0x1BB9, 1⟩,
   ⟨0x1C40, 0x1C49, 1⟩, ⟨0x1C50, 0x1C59, 1⟩, ⟨0xA620, 0xA629, 1⟩, ⟨0xA8D0, 0xA8D9, 1⟩,
   ⟨0xA900, 0xA909, 1⟩, ⟨0xA9D0, 0xA9D9, 1⟩, ⟨0xA9F0, 0xA9F9, 1⟩, ⟨0xAA50, 0xAA59, 1⟩,
   ⟨0xABF0, 0xABF9, 1⟩, ⟨0xFF10, 0xFF19, 1⟩, ⟨0x104A0, 0x104A9, 1⟩, ⟨0x10D30, 0x10D39, 1⟩,
   ⟨0x10D40, 0x10D49, 1⟩, ⟨0x11066, 0x1106F, 1⟩, ⟨0x110F0, 0x110F9, 1⟩, ⟨0x11136, 0x1113F, 1⟩,
   ⟨0x111D0, 0x111D9, 1⟩, ⟨0x112F0, 0x112F9, 1⟩, ⟨0x11450, 0x11459, 1⟩, ⟨0x114D0, 0x114D9, 1⟩,
   ⟨0x11650, 0x11659, 1⟩, ⟨0x116C0, 0x116C9, 1⟩, ⟨0x116D0, 0x116E3, 1⟩, ⟨0x11730, 0x11739, 1⟩,
   ⟨0x118E0, 0x118E9, 1⟩, ⟨0x11950, 0x11959, 1⟩, ⟨0x11BF0, 0x11BF9, 1⟩, ⟨0x11C50, 0x11C59, 1⟩,
   ⟨0x11D50, 0x11D59, 1⟩, ⟨0x11DA0, 0x11DA9, 1⟩, ⟨0x11F50, 0x11F59, 1⟩,
   ⟨0x16130, 0x16139, 1⟩, ⟨0x16A60, 0x16A69, 1⟩, ⟨0x16AC0, 0x16AC9, 1⟩, ⟨0x16B50, 0x16B59, 1⟩,
   ⟨0x16D70, 0x16D79, 1⟩, ⟨0x1CCF0, 0x1CCF9, 1⟩, ⟨0x1D7CE, 0x1D7FF, 1⟩, ⟨0x1E140, 0x1E149, 1⟩,
   ⟨0x1E2F0, 0x1E2F9, 1⟩, ⟨0x1E4F0, 0x1E4F9, 1⟩, ⟨0x1E5F1, 0x1E5FA, 1⟩, ⟨0x1E950, 0x1E959, 1⟩,
   ⟨0x1FBF0, 0x1FBF9, 1⟩]

/-- A decimal digit is a character of the general category Nd. -/
def isDecimalDigit (c : Char) : Bool :=
  inRanges decimalDigitRanges c

end Codebook.Text
