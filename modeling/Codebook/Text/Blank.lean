import Codebook.Text.CodeRange

/-!
# Blank characters

The property White_Space of the Unicode standard decides what separates the parts of
a definition text, what is cut off the ends of a text, and what splits it into words.
It is larger than the blanks of ASCII and larger than `Char.isWhitespace`; the zero
width space and the byte order mark are not in it.
-/

namespace Codebook.Text

/-- The code points with the property White_Space. -/
def blankRanges : List CodeRange :=
  [⟨0x9, 0xD, 1⟩, ⟨0x20, 0x20, 1⟩, ⟨0x85, 0x85, 1⟩, ⟨0xA0, 0xA0, 1⟩, ⟨0x1680, 0x1680, 1⟩,
   ⟨0x2000, 0x200A, 1⟩, ⟨0x2028, 0x2029, 1⟩, ⟨0x202F, 0x202F, 1⟩, ⟨0x205F, 0x205F, 1⟩,
   ⟨0x3000, 0x3000, 1⟩]

/-- A blank is a character with the property White_Space. -/
def isBlank (c : Char) : Bool :=
  inRanges blankRanges c

/-- The text without the blanks at its start. -/
def dropBlanks (text : List Char) : List Char :=
  text.dropWhile isBlank

/-- The text without the blanks at its end. -/
def dropBlanksRight (text : List Char) : List Char :=
  (text.reverse.dropWhile isBlank).reverse

/-- The text without the blanks at either end. -/
def trim (text : List Char) : List Char :=
  dropBlanksRight (dropBlanks text)

end Codebook.Text
