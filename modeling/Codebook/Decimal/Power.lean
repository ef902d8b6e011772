/-!
# Powers of two and of ten

The bounds of whole numbers with a number of bits are powers of two, and the places of a decimal
number are powers of ten.
-/

namespace Codebook.Decimal

/-- Two to the power of `n`. -/
def twoTo (n : Nat) : Nat :=
  Nat.pow 2 n

/-- Ten to the power of `n`. -/
def tenTo (n : Nat) : Nat :=
  Nat.pow 10 n

end Codebook.Decimal
