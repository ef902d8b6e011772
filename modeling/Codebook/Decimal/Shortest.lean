import Codebook.Decimal.Power

/-!
# The shortest decimal of a binary number

A finite number is an integer times a power of two. Every real number closer to it than to
its neighbours rounds to it; the shortest decimal is the one with the fewest digits among
those, and of two equally short ones the nearer. All arithmetic here is on natural numbers:
a candidate is compared with the ends of the interval by multiplying out.
-/

namespace Codebook.Decimal

/-- A finite number, `mantissa * 2 ^ exponent` with a sign. -/
structure Binary where
  negative : Bool
  mantissa : Nat
  exponent : Int
  deriving Repr, DecidableEq

/-- The parts of a finite number of double precision; infinities and what is no number have
    none. Numbers without a leading one bit share the least exponent. -/
def Binary.ofFloat? (x : Float) : Option Binary :=
  let bits : Nat := x.toBits.toNat
  let negative : Bool := bits / twoTo 63 == 1
  let biased : Nat := bits / twoTo 52 % 2048
  let fraction : Nat := bits % twoTo 52
  if biased = 2047 then none
  else if biased = 0 then some ⟨negative, fraction, -1074⟩
  else some ⟨negative, twoTo 52 + fraction, (biased : Int) - 1075⟩

/-- A number `digits * 10 ^ exponent`. -/
structure Digits where
  digits : Nat
  exponent : Int
  deriving Repr, DecidableEq

/-- The number of decimal digits of a natural number, one for zero. -/
def digitCount (n : Nat) : Nat :=
  (Nat.toDigits 10 n).length

/-- The exponent of the leading decimal digit of `num / den`, for positive numbers. -/
def leadingExponent (num den : Nat) : Int :=
  if den ≤ num then (digitCount (num / den) : Int) - 1
  else
    let guess := digitCount (den / num)
    if den ≤ num * tenTo (guess - 1) then 1 - (guess : Int) else - (guess : Int)

/-- The grid of decimals that are multiples of `10 ^ exponent`, laid over the interval of a
    number: the number and the ends of its interval over one common unit. -/
structure Grid where
  low : Nat
  value : Nat
  high : Nat
  unit : Nat
  closed : Bool

/-- The grid of step `10 ^ exponent` over the interval of `binary`. Below a power of two the
    interval is only half as wide. An even number owns the ends of its interval. -/
def Binary.grid (binary : Binary) (exponent : Int) : Grid :=
  let m := binary.mantissa
  let narrow := m = twoTo 52 ∧ -1074 < binary.exponent
  let scale := twoTo (binary.exponent - 2).toNat * tenTo (-exponent).toNat
  { low := (4 * m - if narrow then 1 else 2) * scale
    value := 4 * m * scale
    high := (4 * m + 2) * scale
    unit := twoTo (2 - binary.exponent).toNat * tenTo exponent.toNat
    closed := m % 2 = 0 }

/-- Whether the `n`-th point of a grid rounds to the number. -/
def Grid.holds (grid : Grid) (n : Nat) : Bool :=
  if grid.closed then grid.low ≤ n * grid.unit && n * grid.unit ≤ grid.high
  else grid.low < n * grid.unit && n * grid.unit < grid.high

/-- The point of a grid that rounds to the number, the nearer one if the points on both sides
    do, the even one if both are equally near. -/
def Grid.nearest? (grid : Grid) : Option Nat :=
  let below := grid.value / grid.unit
  let rest := grid.value % grid.unit
  match grid.holds below, grid.holds (below + 1) with
  | true, true =>
    if 2 * rest < grid.unit then some below
    else if grid.unit < 2 * rest then some (below + 1)
    else some (if below % 2 = 0 then below else below + 1)
  | true, false => some below
  | false, true => some (below + 1)
  | false, false => none

/-- The same number without a zero at the end of its digits, if there is one. -/
def Digits.dropZero (decimal : Digits) : Digits :=
  if decimal.digits % 10 = 0 then ⟨decimal.digits / 10, decimal.exponent + 1⟩ else decimal

/-- The shortest decimal that rounds to a positive number. Seventeen digits always do. The
    point to the right of the number may have one digit more than the grid asks for, and then
    ends in a zero. -/
def Binary.shortest (binary : Binary) : Digits :=
  let leading := leadingExponent (binary.mantissa * twoTo binary.exponent.toNat)
    (twoTo (-binary.exponent).toNat)
  let candidate (count : Nat) : Option Digits :=
    let exponent := leading - count
    (binary.grid exponent).nearest?.map fun n => Digits.dropZero ⟨n, exponent⟩
  ((List.range 18).findSome? candidate).getD ⟨0, 0⟩

/-- Positional text of `digits * 10 ^ exponent`, always with a point and a digit after it. -/
def Digits.positional (decimal : Digits) : String :=
  let digits := Nat.toDigits 10 decimal.digits
  if 0 ≤ decimal.exponent then
    String.ofList (digits ++ List.replicate decimal.exponent.toNat '0' ++ ['.', '0'])
  else
    let places := (-decimal.exponent).toNat
    let padded := List.replicate (places + 1 - digits.length) '0' ++ digits
    let whole := padded.length - places
    String.ofList (padded.take whole ++ '.' :: padded.drop whole)

/-- The text of `digits * 10 ^ exponent` with one digit before the point and an exponent, which
    `marked` puts in words. -/
def Digits.scientific (marked : Int → String) (decimal : Digits) : String :=
  match Nat.toDigits 10 decimal.digits with
  | [] => ""
  | first :: rest =>
    let fraction := if rest.isEmpty then [] else '.' :: rest
    String.ofList (first :: fraction) ++ marked (decimal.exponent + rest.length)

/-- Whether a number is so large or so small that it is better written with an exponent. -/
def Digits.isFar (decimal : Digits) : Bool :=
  let leading := decimal.exponent + digitCount decimal.digits - 1
  leading < -4 || 16 ≤ leading

/-- The text of a number, of which `write` writes the decimal; zero is written with a point. -/
def writeFloat (write : Digits → String) (x : Float) : String :=
  if x.isNaN then "NaN"
  else
    match Binary.ofFloat? x with
    | none => if x < 0 then "-inf" else "inf"
    | some binary =>
      let text := if binary.mantissa = 0 then "0.0" else write binary.shortest
      if binary.negative then "-" ++ text else text

/-- The text of a number: positional, with the fewest digits that read back and at least one
    after the point. -/
def floatText (x : Float) : String :=
  writeFloat Digits.positional x

/-- The text of a number among others: as `floatText`, but with an exponent if it is far off. -/
def floatTerm (x : Float) : String :=
  let marked (exponent : Int) : String := "e" ++ toString exponent
  writeFloat (fun decimal =>
    if decimal.isFar then decimal.scientific marked else decimal.positional) x

end Codebook.Decimal
