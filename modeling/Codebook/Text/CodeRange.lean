/-!
# Ranges of code points

A character property of the Unicode standard is stored as an ascending list of
ranges. A range has a step, so that the alternating capital and small letters of
many scripts take one entry. Membership is the only operation; nothing here
depends on which property a list stands for.
-/

namespace Codebook.Text

/-- The code points `first`, `first + step`, … up to `last`. -/
structure CodeRange where
  first : Nat
  last : Nat
  step : Nat
  deriving Repr, DecidableEq

/-- A range holds the code points it reaches from its first one in whole steps. -/
def CodeRange.contains (range : CodeRange) (code : Nat) : Bool :=
  range.first ≤ code && code ≤ range.last && (code - range.first) % range.step == 0

/-- A character has a property when one of the property's ranges holds its code point. -/
def inRanges (ranges : List CodeRange) (c : Char) : Bool :=
  ranges.any fun range => range.contains c.toNat

end Codebook.Text
