import Codebook.Decimal.Read
import Codebook.Template.Fault

/-!
# Literals of a line format

Numbers and quoted texts as they are written inside the places to fill in. Whole numbers may be
written in base ten or with a marker for base two, eight or sixteen, and have less than 129 bits.
Single underscores or several may stand between digits, but not at the end.
-/

namespace Codebook.Template

open Decimal

/-! ## Numbers -/

/-- How far a number has been read. -/
inductive NumberPart where
  | whole
  | fraction
  | exponentMark
  | exponent
  | otherBase (hexadecimal : Bool)
  deriving Repr, DecidableEq

/-- The characters a name may start with. -/
def isWordStart (c : Char) : Bool :=
  c.isAlpha || c = '_'

/-- Whether a text starts with an exponent: its mark, perhaps a sign, and a digit. -/
def startsExponent : List Char → Bool
  | mark :: sign :: rest =>
    (mark = 'e' || mark = 'E') &&
      (sign.isDigit || ((sign = '+' || sign = '-') && rest.head?.any Char.isDigit))
  | _ => false

/-- Whether a point before a text belongs to the number before it. Before a name it asks for
    something in the number. -/
def isFractionPoint (rest : List Char) : Bool :=
  startsExponent rest || !rest.head?.any isWordStart

/-- The part that a number is in after one more character, if the character belongs to it. -/
def NumberPart.next? (part : NumberPart) (c : Char) (rest : List Char) : Option NumberPart :=
  if c.isDigit then some (if part = .exponentMark then .exponent else part)
  else if c = '_' then some part
  else
    match part with
    | .whole =>
      if c = '.' then (if isFractionPoint rest then some .fraction else none)
      else if c = 'e' || c = 'E' then some .exponentMark
      else none
    | .fraction => if c = 'e' || c = 'E' then some .exponentMark else none
    | .exponentMark => if c = '+' || c = '-' then some .exponent else none
    | .exponent => none
    | .otherBase hexadecimal =>
      if hexadecimal && (digitValue? 16 c).isSome then some part else none

/-- The characters of a number, the part it ends in, and what follows it. -/
def numberText (part : NumberPart) : List Char → List Char × NumberPart × List Char
  | [] => ([], part, [])
  | c :: rest =>
    match part.next? c rest with
    | some next =>
      let (more, last, rest) := numberText next rest
      (c :: more, last, rest)
    | none => ([], part, c :: rest)

/-- A number that was read. -/
inductive Number where
  | int (value : Nat)
  | float (value : Float)

/-- The number that a base and the characters after its marker denote. -/
def numberOf (base : Nat) (part : NumberPart) (digits : List Char) : Except Fault Number :=
  if digits.getLast? = some '_' then
    throw (.about .malformed "'_' may not occur at end of number")
  else
    let digits := digits.filter (· ≠ '_')
    let float := part = .fraction || part = .exponentMark || part = .exponent
    if float then
      match readFloat? digits with
      | some value => return .float value
      | none => throw (.about .malformed "invalid float")
    else
      match (readNat? base digits).filter (· < twoTo 128) with
      | some value => return .int value
      | none => throw (.about .malformed "invalid integer (too large)")

/-- The number at the start of a text that starts with a digit, and what follows it. -/
def readNumber (text : List Char) : Except Fault (Number × List Char) := do
  let (base, part, text) : Nat × NumberPart × List Char :=
    match text with
    | '0' :: c :: rest =>
      if c = 'b' || c = 'B' then (2, .otherBase false, rest)
      else if c = 'o' || c = 'O' then (8, .otherBase false, rest)
      else if c = 'x' || c = 'X' then (16, .otherBase true, rest)
      else (10, .whole, text)
    | _ => (10, .whole, text)
  let (digits, last, rest) := numberText part text
  return (← numberOf base last digits, rest)

/-! ## Quoted texts -/

/-- The characters up to the closing quote, escapes not yet resolved, and what follows the quote. -/
def quotedText? (quote : Char) : (escaped : Bool) → List Char → Option (List Char × List Char)
  | _, [] => none
  | escaped, c :: rest =>
    if !escaped && c = quote then some ([], rest)
    else (quotedText? quote (!escaped && c = '\\') rest).map fun (more, rest) => (c :: more, rest)

/-- The number that the first `count` characters denote in base sixteen, and what follows. The first
    of them may be a plus sign. -/
def hexNumber? (count : Nat) (text : List Char) : Option (Nat × List Char) :=
  let digits :=
    match text.take count with
    | '+' :: digits => digits
    | digits => digits
  if text.length < count then none
  else (readNat? 16 digits).map fun n => (n, text.drop count)

/-- The character of a code point, if it is one. -/
def charOfCode? (code : Nat) : Option Char :=
  if code.isValidChar then some (Char.ofNat code) else none

/-- The characters that one-letter escapes stand for. -/
def letterEscape? : Char → Option Char
  | 'a' => some '\x07'
  | 'b' => some '\x08'
  | 'f' => some '\x0c'
  | 'n' => some '\n'
  | 'r' => some '\r'
  | 't' => some '\t'
  | 'v' => some '\x0b'
  | c => if c = '"' || c = '\'' || c = '\\' || c = '/' then some c else none

/-- The character that the escape after a backslash stands for and what follows it: `none` if
    it is no escape, in which case the backslash stands for itself. A code point beyond the
    sixteen-bit range may be written as two escapes. -/
def readEscape (text : List Char) : Except Fault (Option (Char × List Char)) :=
  let bad : Except Fault (Option (Char × List Char)) := throw (.plain .badEscape)
  let code (found : Option (Nat × List Char)) : Except Fault (Option (Char × List Char)) :=
    match found with
    | some (n, rest) =>
      match charOfCode? n with
      | some c => return some (c, rest)
      | none => bad
    | none => bad
  match text with
  | [] => bad
  | 'x' :: rest => code (hexNumber? 2 rest)
  | 'U' :: rest => code (hexNumber? 8 rest)
  | 'u' :: rest =>
    match hexNumber? 4 rest with
    | none => bad
    | some (high, rest) =>
      if 0xD800 ≤ high && high ≤ 0xDBFF then
        match rest with
        | '\\' :: 'u' :: more =>
          match hexNumber? 4 more with
          | some (low, rest) =>
            if 0xDC00 ≤ low && low ≤ 0xDFFF then
              return some (Char.ofNat (0x10000 + (high - 0xD800) * 0x400 + (low - 0xDC00)), rest)
            else bad
          | none => bad
        | _ => bad
      else code (some (high, rest))
  | c :: rest =>
    match letterEscape? c with
    | some resolved => return some (resolved, rest)
    | none =>
      if (digitValue? 8 c).isSome then
        let digits := (text.take 3).takeWhile fun d => (digitValue? 8 d).isSome
        code (((readNat? 8 digits).filter (· < 256)).map fun n => (n, text.drop digits.length))
      else return none

/-- The text with its escapes resolved. Every step takes a character, so `fuel` need not be more
    than the length. -/
def resolveEscapes : (fuel : Nat) → List Char → Except Fault (List Char)
  | 0, _ => return []
  | _, [] => return []
  | fuel + 1, c :: rest =>
    if c = '\\' then do
      match ← readEscape rest with
      | some (resolved, rest) => return resolved :: (← resolveEscapes fuel rest)
      | none => return '\\' :: (← resolveEscapes fuel rest)
    else return c :: (← resolveEscapes fuel rest)

/-- The quoted text after an opening quote, and what follows the closing one. -/
def readQuoted (quote : Char) (text : List Char) : Except Fault (String × List Char) := do
  match quotedText? quote false text with
  | none => throw (.about .malformed "unexpected end of string")
  | some (inner, rest) =>
    let resolved ← resolveEscapes inner.length inner
    return (String.ofList resolved, rest)

end Codebook.Template
