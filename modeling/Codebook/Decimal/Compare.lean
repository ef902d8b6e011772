import Codebook.Decimal.Shortest

/-!
# The order of numbers

Numbers of double precision stand in the order of their sizes, the two zeros at one place. A whole
number is held against a number of double precision by multiplying out, so nothing is rounded.
-/

namespace Codebook.Decimal

/-- The order of two numbers of double precision. -/
def compareFloats (x y : Float) : Ordering :=
  if x < y then .lt
  else if y < x then .gt
  else .eq

/-- The order of a whole number and a number of double precision. -/
def compareWhole (n : Int) (x : Float) : Ordering :=
  match Binary.ofFloat? x with
  | some binary =>
    let size : Int := binary.mantissa * twoTo binary.exponent.toNat
    compare (n * twoTo (-binary.exponent).toNat) (if binary.negative then -size else size)
  | none => if x < 0 then .gt else .lt

end Codebook.Decimal
