import Codebook.Decimal.Read

/-!
# JSON

Texts of the JSON data format and the values they stand for. The reader takes a text from left to
right, a character at a time; the four blanks of the format may stand around every token. Strings
hold code points only: an escape for half a surrogate pair is no text.

A number without a fraction and an exponent is a whole number if it has at most 64 bits. Every
other number is one of double precision, computed from its first nineteen or twenty digits and a
power of ten.
-/

namespace Codebook

open Decimal

/-- Values of the format. The members of an object are kept in the order of the text, also those
    with the same name. -/
inductive Json where
  | null
  | bool (value : Bool)
  | int (value : Int)
  | float (value : Float)
  | text (value : String)
  | array (items : List Json)
  | object (members : List (String × Json))

instance : Inhabited Json := ⟨.null⟩

/-- The blanks of the format. -/
def isJsonBlank (c : Char) : Bool :=
  c == ' ' || c == '\t' || c == '\n' || c == '\r'

/-- The text from its first token on. -/
def skipJsonBlanks (text : List Char) : List Char :=
  text.dropWhile isJsonBlank

/-! ## Strings -/

/-- The characters that a short escape stands for. -/
def jsonEscape? : Char → Option Char
  | '"' => some '"'
  | '\\' => some '\\'
  | '/' => some '/'
  | 'b' => some '\x08'
  | 'f' => some '\x0c'
  | 'n' => some '\n'
  | 'r' => some '\r'
  | 't' => some '\t'
  | _ => none

/-- The number of four hexadecimal digits at the start of a text, and what follows them. -/
def fourHexDigits? (text : List Char) : Option (Nat × List Char) :=
  match text with
  | a :: b :: c :: d :: rest => (readNat? 16 [a, b, c, d]).map fun n => (n, rest)
  | _ => none

/-- The character that an escape by number stands for, read from after its letter. A character
    beyond sixteen bits takes two escapes. -/
def numberedEscape? (text : List Char) : Option (Char × List Char) := do
  let (high, rest) ← fourHexDigits? text
  if 0xD800 ≤ high ∧ high ≤ 0xDBFF then
    match rest with
    | '\\' :: 'u' :: more =>
      let (low, rest) ← fourHexDigits? more
      if 0xDC00 ≤ low ∧ low ≤ 0xDFFF then
        return (Char.ofNat (0x10000 + (high - 0xD800) * 0x400 + (low - 0xDC00)), rest)
      else none
    | _ => none
  else if 0xDC00 ≤ high ∧ high ≤ 0xDFFF then none
  else return (Char.ofNat high, rest)

/-- The string after its opening quote, and what follows its closing one. Every step takes a
    character, so `fuel` need not be more than the length. -/
def readJsonString? : (fuel : Nat) → List Char → Option (List Char × List Char)
  | 0, _ => none
  | _, [] => none
  | fuel + 1, c :: rest =>
    if c = '"' then some ([], rest)
    else if c = '\\' then do
      let (resolved, rest) ←
        match rest with
        | 'u' :: rest => numberedEscape? rest
        | e :: rest => (jsonEscape? e).map fun resolved => (resolved, rest)
        | [] => none
      let (inner, rest) ← readJsonString? fuel rest
      return (resolved :: inner, rest)
    else if c < ' ' then none
    else do
      let (inner, rest) ← readJsonString? fuel rest
      return (c :: inner, rest)

/-! ## Numbers -/

/-- The digits that fit into 64 bits as a number, and the number of those left over. -/
def leadingDigits (n : Nat) : List Char → Nat × Nat
  | [] => (n, 0)
  | c :: rest =>
    let next := n * 10 + (c.toNat - '0'.toNat)
    if twoTo 64 ≤ next then (n, rest.length + 1) else leadingDigits next rest

/-- A number of double precision times a power of ten, in steps of at most `10 ^ 308`. Nothing if
    the result is not finite. -/
def scaleByTen? : (fuel : Nat) → Float → Int → Option Float
  | 0, _, _ => none
  | fuel + 1, x, exponent =>
    if exponent.natAbs ≤ 308 then
      let scale := roundDecimal 1 exponent.natAbs
      let scaled := if 0 ≤ exponent then x * scale else x / scale
      if scaled.isInf then none else some scaled
    else if x == 0 then some x
    else if 0 ≤ exponent then none
    else scaleByTen? fuel (x / roundDecimal 1 308) (exponent + 308)

/-- The number of double precision with some digits before and after its point and an exponent. -/
def jsonFloat? (whole fraction : List Char) (exponent : Int) : Option Float :=
  let (n, excess) := leadingDigits 0 whole
  if excess = 0 then
    let (n, left) := leadingDigits n fraction
    scaleByTen? 8 (Float.ofNat n) (exponent - (fraction.length - left : Nat))
  else scaleByTen? 8 (Float.ofNat n) (exponent + excess)

/-- The exponent at the start of a text, if there is one: the letter, a sign and digits. -/
def readJsonExponent? (text : List Char) : Option (Option Int × List Char) :=
  match text with
  | c :: rest =>
    if c = 'e' || c = 'E' then
      let (negative, rest) :=
        match rest with
        | '-' :: rest => (true, rest)
        | '+' :: rest => (false, rest)
        | rest => (false, rest)
      (readNat? 10 (rest.takeWhile Char.isDigit)).map fun n =>
        (some (if negative then -(n : Int) else n), rest.dropWhile Char.isDigit)
    else some (none, text)
  | [] => some (none, [])

/-- The number at the start of a text, and what follows it. -/
def readJsonNumber? (text : List Char) : Option (Json × List Char) := do
  let (negative, text) :=
    match text with
    | '-' :: rest => (true, rest)
    | rest => (false, rest)
  let whole := text.takeWhile Char.isDigit
  let text := text.dropWhile Char.isDigit
  if whole.isEmpty || (whole.head? = some '0' && 1 < whole.length) then none
  else
    let (fraction, text) :=
      match text with
      | '.' :: rest => (some (rest.takeWhile Char.isDigit), rest.dropWhile Char.isDigit)
      | _ => (none, text)
    if fraction = some [] then none
    else
      let (exponent, text) ← readJsonExponent? text
      let n := (readNat? 10 whole).getD 0
      let inRange := if negative then 0 < n && n ≤ twoTo 63 else n < twoTo 64
      if fraction.isNone && exponent.isNone && inRange then
        return (.int (if negative then -(n : Int) else n), text)
      else
        let size ← jsonFloat? whole (fraction.getD []) (exponent.getD 0)
        return (.float (if negative then -size else size), text)

/-! ## Values -/

/-- What follows a word at the start of a text. -/
def afterWord? (word : String) (text : List Char) : Option (List Char) :=
  if word.toList.isPrefixOf text then some (text.drop word.length) else none

mutual

/-- The value at the start of a text, and what follows it. Every call takes a character before the
    next one of its kind, so `fuel` need not be more than twice the length. -/
def readJsonValue? (fuel : Nat) (text : List Char) : Option (Json × List Char) :=
  match fuel with
  | 0 => none
  | fuel + 1 =>
    match skipJsonBlanks text with
    | [] => none
    | '"' :: rest => (readJsonString? (rest.length + 1) rest).map fun (inner, rest) =>
      (.text (String.ofList inner), rest)
    | '[' :: rest =>
      match skipJsonBlanks rest with
      | ']' :: rest => some (.array [], rest)
      | rest => (readJsonItems? fuel rest).map fun (items, rest) => (.array items, rest)
    | '{' :: rest =>
      match skipJsonBlanks rest with
      | '}' :: rest => some (.object [], rest)
      | rest => (readJsonMembers? fuel rest).map fun (members, rest) => (.object members, rest)
    | 'n' :: rest => (afterWord? "ull" rest).map fun rest => (.null, rest)
    | 't' :: rest => (afterWord? "rue" rest).map fun rest => (.bool true, rest)
    | 'f' :: rest => (afterWord? "alse" rest).map fun rest => (.bool false, rest)
    | text => readJsonNumber? text

/-- The items of an array up to its closing bracket. -/
def readJsonItems? (fuel : Nat) (text : List Char) : Option (List Json × List Char) :=
  match fuel with
  | 0 => none
  | fuel + 1 => do
    let (item, rest) ← readJsonValue? fuel text
    match skipJsonBlanks rest with
    | ',' :: rest =>
      let (items, rest) ← readJsonItems? fuel rest
      return (item :: items, rest)
    | ']' :: rest => return ([item], rest)
    | _ => none

/-- The members of an object up to its closing brace. -/
def readJsonMembers? (fuel : Nat) (text : List Char) :
    Option (List (String × Json) × List Char) :=
  match fuel with
  | 0 => none
  | fuel + 1 =>
    match skipJsonBlanks text with
    | '"' :: rest => do
      let (name, rest) ← readJsonString? (rest.length + 1) rest
      match skipJsonBlanks rest with
      | ':' :: rest =>
        let (value, rest) ← readJsonValue? fuel rest
        let member := (String.ofList name, value)
        match skipJsonBlanks rest with
        | ',' :: rest =>
          let (members, rest) ← readJsonMembers? fuel rest
          return (member :: members, rest)
        | '}' :: rest => return ([member], rest)
        | _ => none
      | _ => none
    | _ => none

end

/-- The value that a text stands for, if it is a text of the format. -/
def Json.read? (text : String) : Option Json := do
  let (value, rest) ← readJsonValue? (2 * text.length + 2) text.toList
  if (skipJsonBlanks rest).isEmpty then return value else none

end Codebook
