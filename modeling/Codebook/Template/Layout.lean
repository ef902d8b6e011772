import Codebook.Template.Passed

/-!
# Values laid out by a pattern

A pattern is text with conversions in it. A conversion starts with a percent sign, may ask for
flags, a width and a precision, and ends in a letter that says how the next value is written. A name
in parentheses after the percent sign asks for the value of that name in a map, which then is all
that was passed. Two percent signs side by side stand for one. Values that no conversion asks for
are left out.

A width counts bytes. A precision shortens texts and sets the digits of numbers of double precision;
all else does not heed it. A pattern that needs no escaping gives text that needs none: what is
put into it is escaped.
-/

namespace Codebook.Template

open Decimal

/-- How a value is to be laid out. -/
structure Conversion where
  left : Bool
  plus : Bool
  blank : Bool
  zero : Bool
  marked : Bool
  width : Nat
  precision : Option Nat

/-- A conversion that asks for nothing. -/
def Conversion.plain : Conversion :=
  ⟨false, false, false, false, false, 0, none⟩

/-- The flags at the start of a text, and what follows them. -/
def readFlags (conversion : Conversion) : List Char → Conversion × List Char
  | '-' :: rest => readFlags { conversion with left := true } rest
  | '+' :: rest => readFlags { conversion with plus := true } rest
  | ' ' :: rest => readFlags { conversion with blank := true } rest
  | '0' :: rest => readFlags { conversion with zero := true } rest
  | '#' :: rest => readFlags { conversion with marked := true } rest
  | rest => (conversion, rest)

/-- A text brought to a width. -/
def Conversion.pad (conversion : Conversion) (text : List Char) : List Char :=
  let filler := List.replicate (conversion.width - (String.ofList text).utf8ByteSize) ' '
  if conversion.left then text ++ filler else filler ++ text

/-- A number brought to a width: its sign and the mark of its base stand before the zeros. -/
def Conversion.number (conversion : Conversion) (negative : Bool) (mark digits : List Char) :
    List Char :=
  let sign : List Char :=
    if negative then ['-']
    else if conversion.plus then ['+']
    else if conversion.blank then [' ']
    else []
  let head := sign ++ mark
  if conversion.zero && !conversion.left then
    head ++ List.replicate (conversion.width - head.length - digits.length) '0' ++ digits
  else conversion.pad (head ++ digits)

/-- A whole number laid out in a base. -/
def Conversion.whole (conversion : Conversion) (n : Int) (base : Nat) (mark : String)
    (capital : Bool) : List Char :=
  let digits := Nat.toDigits base n.natAbs
  let digits := if capital then digits.map Char.toUpper else digits
  conversion.number (n < 0) (if conversion.marked then mark.toList else []) digits

/-- The quotient rounded to the nearest whole number, to the even one if both are as near. -/
def roundQuotient (num den : Nat) : Nat :=
  let below := num / den
  let twice := 2 * (num % den)
  if twice < den then below
  else if den < twice then below + 1
  else if below % 2 = 0 then below else below + 1

/-- The digits of a binary number times a power of ten, rounded to a whole number. -/
def Binary.scaledDigits (binary : Binary) (places : Int) : Nat :=
  roundQuotient (binary.mantissa * twoTo binary.exponent.toNat * tenTo places.toNat)
    (twoTo (-binary.exponent).toNat * tenTo (-places).toNat)

/-- Digits with a point before the last `places` of them. -/
def withPoint (marked : Bool) (places : Nat) (n : Nat) : List Char :=
  let digits := Nat.toDigits 10 n
  let padded := List.replicate (places + 1 - digits.length) '0' ++ digits
  let whole := padded.length - places
  padded.take whole ++ (if places = 0 && !marked then [] else '.' :: padded.drop whole)

/-- An exponent with its sign and at least two digits. -/
def exponentText (exponent : Int) : List Char :=
  let digits := Nat.toDigits 10 exponent.natAbs
  (if exponent < 0 then '-' else '+') :: (List.replicate (2 - digits.length) '0' ++ digits)

/-- The leading digits of a binary number and the exponent of the first of them. -/
def Binary.leading (binary : Binary) (places : Nat) : Nat × Int :=
  if binary.mantissa = 0 then (0, 0)
  else
    let exponent := leadingExponent (binary.mantissa * twoTo binary.exponent.toNat)
      (twoTo (-binary.exponent).toNat)
    let digits := Binary.scaledDigits binary (places - exponent)
    if digitCount digits = places + 2 then (digits / 10, exponent + 1) else (digits, exponent)

/-- The zeros at the end of a fraction are left out. -/
def dropFractionZeros (text : List Char) : List Char :=
  if text.contains '.' then
    let kept := (text.reverse.dropWhile (· == '0')).reverse
    if kept.getLast? = some '.' then kept.dropLast else kept
  else text

/-- The number with a fraction, if it would be taken for a whole number otherwise. Zero stays. -/
def withFraction (text : List Char) : List Char :=
  if text.contains '.' || text = ['0'] then text else text ++ ['.', '0']

/-- A number of double precision without its sign, by the letter of a conversion. -/
def Conversion.decimal (conversion : Conversion) (binary : Binary) (letter : Char) : List Char :=
  let places := conversion.precision.getD 6
  let scientific (places : Nat) : List Char :=
    let (digits, exponent) := Binary.leading binary places
    withPoint conversion.marked places digits ++ 'e' :: exponentText exponent
  match letter with
  | 'e' => scientific places
  | 'g' =>
    let figures := max places 1
    let (digits, exponent) := Binary.leading binary (figures - 1)
    if exponent < -4 || (figures : Int) ≤ exponent then
      let text := withPoint conversion.marked (figures - 1) digits
      (if conversion.marked then text else dropFractionZeros text) ++
        'e' :: exponentText exponent
    else
      let shown := ((figures : Int) - 1 - exponent).toNat
      let text := withPoint conversion.marked shown (Binary.scaledDigits binary shown)
      withFraction (if conversion.marked then text else dropFractionZeros text)
  | _ => withPoint conversion.marked places (Binary.scaledDigits binary places)

/-- Whether a number of double precision has a minus sign. -/
def isNegative (x : Float) : Bool :=
  x.toBits.toNat / twoTo 63 == 1 && !x.isNaN

/-- A number of double precision laid out. -/
def Conversion.float (conversion : Conversion) (x : Float) (letter : Char) : List Char :=
  let text : List Char :=
    match Binary.ofFloat? x with
    | some binary => conversion.decimal binary letter.toLower
    | none => (if x.isNaN then "nan" else "inf").toList
  let text := if letter.isUpper then text.map Char.toUpper else text
  conversion.number (isNegative x) [] text

/-- The fault of a value that a conversion cannot lay out. -/
def unsuited (value : Value) (letter : Char) : Fault :=
  .about .invalidOperation
    ("cannot format " ++ value.kind.word ++ " with %" ++ String.ofList [letter])

/-- The whole number that a value is laid out as. -/
def Value.laidOutInt (value : Value) (letter : Char) : Except Fault Int :=
  match value.whole? with
  | some n => return n
  | Option.none => throw (unsuited value letter)

/-- A value laid out as it is: numbers as numbers, all else as text. -/
def Conversion.plainly (conversion : Conversion) (value : Value) : List Char :=
  match value with
  | .int n => conversion.whole n 10 "" false
  | .wide n => conversion.whole n 10 "" false
  | .float x => conversion.float x 'g'
  | .nan _ => conversion.float (0.0 / 0.0) 'g'
  | .text content _ =>
    conversion.pad (content.toList.take (conversion.precision.getD content.length))
  | other => conversion.pad other.toText.toList

/-- A value laid out by a conversion. -/
def Conversion.apply (conversion : Conversion) (letter : Char) (value : Value) :
    Except Fault (List Char) := do
  match letter with
  | 's' => return conversion.plainly value
  | 'd' | 'i' => return conversion.whole (← value.laidOutInt letter) 10 "" false
  | 'o' => return conversion.whole (← value.laidOutInt letter) 8 "0o" false
  | 'x' => return conversion.whole (← value.laidOutInt letter) 16 "0x" false
  | 'X' => return conversion.whole (← value.laidOutInt letter) 16 "0X" true
  | 'c' =>
    match value with
    | .text content _ =>
      match content.toList with
      | [c] => return conversion.pad [c]
      | _ => throw (unsuited value letter)
    | other =>
      let n ← other.laidOutInt letter
      if 0 ≤ n ∧ n.toNat.isValidChar then return conversion.pad [Char.ofNat n.toNat]
      else throw (unsuited value letter)
  | 'e' | 'E' | 'f' | 'F' | 'g' | 'G' =>
    match value.asFloat?, value.whole? with
    | some _, some n =>
      if letter = 'g' ∨ letter = 'G' then return conversion.whole n 10 "" false
      else return conversion.float (Float.ofInt n) letter
    | some x, Option.none => return conversion.float x letter
    | Option.none, _ => throw (unsuited value letter)
  | _ =>
    throw (.about .invalidOperation ("unsupported conversion %" ++ String.ofList [letter]))

/-! ## Patterns -/

/-- Laying out, with the values that have not been asked for yet. -/
abbrev LayingOut (α : Type) := StateT (List Value) (Except Fault) α

/-- The next value. -/
def nextLaidOut : LayingOut Value := do
  match ← get with
  | [] => throw (.about .invalidOperation "not enough arguments for format string")
  | value :: rest =>
    set rest
    return value

/-- The value of a name in the one map that was passed. -/
def namedLaidOut (passed : List Value) (name : List Char) : Except Fault Value :=
  match passed with
  | [value] =>
    match value.entries?.bind (valueFor? (.ofChars name)) with
    | some found => return found
    | none => throw (.about .invalidOperation "missing key for format string")
  | _ => throw (.about .invalidOperation "format requires a mapping")

/-- A width or a precision at the start of a text: digits, or a star for the next value. -/
def readSize (text : List Char) : LayingOut (Option Nat × List Char) := do
  match text with
  | '*' :: rest => return (some (← (← nextLaidOut).takenCount), rest)
  | _ => return (readNat? 10 (text.takeWhile Char.isDigit), text.dropWhile Char.isDigit)

/-- The name at the start of a conversion, if there is one, and what follows it. -/
def readFieldName (text : List Char) : Except Fault (Option (List Char) × List Char) :=
  match text with
  | '(' :: rest =>
    match rest.dropWhile (· ≠ ')') with
    | [] => throw (.about .invalidOperation "incomplete format key")
    | _ :: after => return (some (rest.takeWhile (· ≠ ')')), after)
  | _ => return (none, text)

/-- The letter that says how long a number is in memory is passed over. -/
def skipLength : List Char → List Char
  | [] => []
  | c :: rest => if c = 'h' ∨ c = 'l' ∨ c = 'L' then rest else c :: rest

/-- The fault of a conversion that does not come to its end. -/
def incomplete : Fault :=
  .about .invalidOperation "incomplete format"

/-- The conversion after a percent sign carried out, and what follows it. -/
def layOutOne (safe : Bool) (passed : List Value) (text : List Char) :
    LayingOut (List Char × List Char) := do
  let (name, text) ← readFieldName text
  let (conversion, text) := readFlags .plain text
  let (width, text) ← readSize text
  let (precision, text) ←
    match text with
    | '.' :: more => do
      let (precision, more) ← readSize more
      pure (some (precision.getD 0), more)
    | _ => pure (none, text)
  match skipLength text with
  | [] => throw incomplete
  | letter :: rest =>
    let value ←
      match name with
      | some name => (namedLaidOut passed name : LayingOut Value)
      | none => nextLaidOut
    let shown ← { conversion with width := width.getD 0, precision }.apply letter value
    return (if safe && !value.isSafe then escapeText shown else shown, rest)

/-- The pattern with its conversions carried out. Every step takes a character, so `fuel` need not
    be more than the length. -/
def layOutFrom (safe : Bool) (passed : List Value) : (fuel : Nat) → List Char → LayingOut (List Char)
  | 0, _ => return []
  | _, [] => return []
  | fuel + 1, c :: rest => do
    if c ≠ '%' then return c :: (← layOutFrom safe passed fuel rest)
    else if rest.head? = some '%' then return c :: (← layOutFrom safe passed fuel rest.tail)
    else
      let (shown, rest) ← layOutOne safe passed rest
      return shown ++ (← layOutFrom safe passed fuel rest)

/-- The text that a pattern gives with some values. -/
def layOut (safe : Bool) (pattern : List Char) (passed : List Value) : Except Fault Value := do
  let text ← (layOutFrom safe passed pattern.length pattern).run' passed
  return .text (String.ofList text) safe

end Codebook.Template
