import Codebook.Decimal.Shortest

/-!
# Reading numbers

Text is read as a whole number within given bounds, or as a number of double precision. The
latter may have a sign, digits with at most one point, and an exponent, or be one of the words
for infinity and for what is no number. A decimal is rounded to the nearest number.
-/

namespace Codebook.Decimal

/-- The value of a digit in bases up to sixteen. -/
def digitValue? (base : Nat) (c : Char) : Option Nat :=
  let value :=
    if c.isDigit then some (c.toNat - '0'.toNat)
    else if 'a' ≤ c && c ≤ 'f' then some (c.toNat - 'a'.toNat + 10)
    else if 'A' ≤ c && c ≤ 'F' then some (c.toNat - 'A'.toNat + 10)
    else none
  value.filter (· < base)

/-- The number that a text of digits denotes; the empty text denotes none. -/
def readNat? (base : Nat) (text : List Char) : Option Nat :=
  if text.isEmpty then none
  else text.foldlM (fun n c => (digitValue? base c).map (n * base + ·)) 0

/-- A whole number with an optional sign that lies within the bounds. -/
def readInt? (base : Nat) (least greatest : Int) (text : List Char) : Option Int :=
  let value : Option Int :=
    match text with
    | '-' :: digits => (readNat? base digits).map fun n => - (n : Int)
    | '+' :: digits => (readNat? base digits).map Int.ofNat
    | digits => (readNat? base digits).map Int.ofNat
  value.filter fun n => least ≤ n && n ≤ greatest

/-- The number of double precision nearest to `digits * 10 ^ exponent`. Exponents far outside
    the range of double precision are decided by their size alone. -/
def roundDecimal (digits : Nat) (exponent : Int) : Float :=
  if digits = 0 then 0
  else
    let leading := exponent + digitCount digits
    if 400 < leading then 1.0 / 0.0
    else if leading < -400 then 0
    else Float.ofScientific digits (exponent < 0) exponent.natAbs

/-- An exponent: a whole number of any size. -/
def readExponent? (text : List Char) : Option Int :=
  match text with
  | '-' :: digits => (readNat? 10 digits).map fun n => - (n : Int)
  | '+' :: digits => (readNat? 10 digits).map Int.ofNat
  | digits => (readNat? 10 digits).map Int.ofNat

/-- A decimal without a sign: digits, at most one point, and an exponent. There has to be a
    digit before the exponent. -/
def readUnsigned? (text : List Char) : Option Float := do
  let whole := text.takeWhile Char.isDigit
  let text := text.dropWhile Char.isDigit
  let (fraction, text) :=
    match text with
    | '.' :: rest => (rest.takeWhile Char.isDigit, rest.dropWhile Char.isDigit)
    | _ => ([], text)
  let digits ← readNat? 10 (whole ++ fraction)
  let exponent ←
    match text with
    | [] => some 0
    | c :: rest => if c = 'e' || c = 'E' then readExponent? rest else none
  return roundDecimal digits (exponent - fraction.length)

/-- The words for infinity and for what is no number, in any mixture of cases. -/
def readWord? (text : List Char) : Option Float :=
  match String.ofList (text.map Char.toLower) with
  | "inf" => some (1.0 / 0.0)
  | "infinity" => some (1.0 / 0.0)
  | "nan" => some (0.0 / 0.0)
  | _ => none

/-- The number of double precision that a text denotes. -/
def readFloat? (text : List Char) : Option Float :=
  let unsigned (text : List Char) : Option Float := (readUnsigned? text).or (readWord? text)
  match text with
  | '-' :: rest => (unsigned rest).map fun x => -x
  | '+' :: rest => unsigned rest
  | rest => unsigned rest

/-- The whole part of a number, held within the given bounds; what is no number counts as
    zero. -/
def truncateWithin (least greatest : Int) (x : Float) : Int :=
  match Binary.ofFloat? x with
  | none => if x.isNaN then 0 else if x < 0 then least else greatest
  | some binary =>
    let size : Int := (binary.mantissa * twoTo binary.exponent.toNat / twoTo (-binary.exponent).toNat : Nat)
    max least (min greatest (if binary.negative then -size else size))

/-- The remainder of a division that rounds towards zero; it has the sign of the dividend. -/
def remainder (x y : Float) : Float :=
  match Binary.ofFloat? x, Binary.ofFloat? y with
  | some a, some b =>
    if b.mantissa = 0 then 0.0 / 0.0
    else
      let least := min a.exponent b.exponent
      let size := (a.mantissa * twoTo (a.exponent - least).toNat) %
        (b.mantissa * twoTo (b.exponent - least).toNat)
      let value := (Float.ofNat size).scaleB least
      if a.negative then -value else value
  | some _, none => if y.isNaN then y else x
  | none, _ => 0.0 / 0.0

/-- The number rounded towards zero. -/
def truncate (x : Float) : Float :=
  if x < 0 then x.ceil else x.floor

/-- The quotient that leaves a remainder that is not negative. -/
def quotientDown (x y : Float) : Float :=
  let quotient := truncate (x / y)
  if remainder x y < 0 then
    if 0 < y then quotient - 1 else quotient + 1
  else quotient

end Codebook.Decimal
