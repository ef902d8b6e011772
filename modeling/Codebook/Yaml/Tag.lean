import Codebook.Decimal.Read
import Codebook.Yaml.Cursor

/-!
# Tags, anchors and directives of a YAML text

A tag names what a value is meant to be. It is written in full between angle brackets, or as a
handle and a suffix; directives at the start of a document say what handles stand for. An anchor
gives a value a name, by which an alias refers to it.

A tag can hold any bytes by means of escapes, which need not make a text together. What comes after
a zero byte in one of its parts does not count.
-/

namespace Codebook.Yaml

open Decimal

/-- Bytes of a tag. -/
abbrev TagText := List UInt8

/-- The bytes of a text. -/
def TagText.ofString (text : String) : TagText :=
  text.toUTF8.toList

/-- The text that the bytes of a tag make, if they make one. -/
def TagText.toString? (text : TagText) : Option String :=
  String.fromUTF8? ⟨text.toArray⟩

/-- The bytes of a part of a tag that count. -/
def TagText.counted (text : TagText) : TagText :=
  text.takeWhile (· ≠ 0)

/-- A tag as it is written. A tag that was written in full has an empty handle. -/
structure Tag where
  handle : String
  suffix : TagText
  deriving Repr, DecidableEq

/-- Directives at the start of a document. -/
inductive Directive where
  | version (major minor : Nat)
  | handle (name : String) (text : TagText)
  deriving Repr, DecidableEq

/-- The name of an anchor or an alias, read from after its sign. -/
def readAnchor? (cursor : Cursor) : Option (String × Cursor) :=
  let name := cursor.taken isNameChar
  let after := cursor.skip name.length
  let ends :=
    match after.rest with
    | [] => true
    | c :: _ => isBlank c || isBreak c || ['?', ':', ',', ']', '\x7d', '%', '@', '`'].contains c
  if name.isEmpty || !ends then none else some (String.ofList name, after)

/-- The characters of a tag besides those of names. Commas and brackets may only stand in a tag
    that is written in full. -/
def isTagChar (full : Bool) (c : Char) : Bool :=
  isNameChar c ||
    [';', '/', '?', ':', '@', '&', '=', '+', '$', '.', '!', '~', '*', '\'', '(', ')'].contains c ||
    (full && [',', '[', ']'].contains c)

/-- The number of bytes that the first byte of a character announces. -/
def byteCount? (byte : Nat) : Option Nat :=
  if byte < 0x80 then some 1
  else if 0xC0 ≤ byte ∧ byte < 0xE0 then some 2
  else if 0xE0 ≤ byte ∧ byte < 0xF0 then some 3
  else if 0xF0 ≤ byte ∧ byte < 0xF8 then some 4
  else none

/-- The byte that a percent sign and two digits stand for. -/
def escapedByte? : List Char → Option Nat
  | '%' :: a :: b :: _ => readNat? 16 [a, b]
  | _ => none

/-- The bytes after the first one of a character, which escapes one after the other stand for. -/
def trailingBytes? : (count : Nat) → List Char → Option TagText
  | 0, _ => some []
  | count + 1, text => do
    let byte ← (escapedByte? text).filter fun byte => byte / 64 = 2
    let more ← trailingBytes? count (text.drop 3)
    return byte.toUInt8 :: more

/-- The bytes of a tag at a cursor. Bytes are escaped with a percent sign and two digits. As many
    escapes have to follow one another as the first byte announces. Every step takes a character, so
    `fuel` need not be more than the length of the rest. -/
def readTagText? (full : Bool) : (fuel : Nat) → Cursor → Option (TagText × Cursor)
  | 0, cursor => some ([], cursor)
  | fuel + 1, cursor =>
    match cursor.rest with
    | [] => some ([], cursor)
    | c :: _ =>
      if c = '%' then do
        let first ← escapedByte? cursor.rest
        let count ← byteCount? first
        let more ← trailingBytes? (count - 1) (cursor.rest.drop 3)
        let (text, after) ← readTagText? full fuel (cursor.skip (3 * count))
        return (first.toUInt8 :: more ++ text, after)
      else if isTagChar full c then
        (readTagText? full fuel (cursor.skip 1)).map fun (text, after) =>
          (c.toNat.toUInt8 :: text, after)
      else some ([], cursor)

/-- The handle at a cursor: an exclamation mark, and a name with another one after it. Without the
    second mark the name belongs to the suffix. -/
def readHandle? (cursor : Cursor) : Option (List Char × Cursor) :=
  match cursor.rest with
  | '!' :: rest =>
    let name := rest.takeWhile isNameChar
    let after := cursor.skip (name.length + 1)
    match after.rest with
    | '!' :: _ => some ('!' :: name ++ ['!'], after.skip 1)
    | _ => some ('!' :: name, after)
  | _ => none

/-- The tag at a cursor. A suffix that has nothing before a zero byte makes the tag a mere mark. -/
def readTag? (inFlow : Bool) (cursor : Cursor) : Option (Tag × Cursor) := do
  let (tag, after) ←
    match cursor.rest with
    | '!' :: '<' :: _ => do
      let (text, after) ← readTagText? true cursor.rest.length (cursor.skip 2)
      if text.isEmpty || after.rest.head? ≠ some '>' then none
      else some (Tag.mk "" text, after.skip 1)
    | _ => do
      let (handle, after) ← readHandle? cursor
      let (text, after) ← readTagText? false after.rest.length after
      if 1 < handle.length ∧ handle.getLast? = some '!' then
        if text.isEmpty then none
        else some (Tag.mk (String.ofList handle) text, after)
      else
        let suffix := TagText.ofString (String.ofList (handle.drop 1)) ++ text
        if suffix.counted.isEmpty then some (Tag.mk "" (TagText.ofString "!"), after)
        else some (Tag.mk "!" suffix, after)
  if endsWord after.rest || (inFlow && after.rest.head? = some ',') then return (tag, after)
  else none

/-- A number of a version: at most nine digits. -/
def versionNumber? (digits : List Char) : Option Nat :=
  if 9 < digits.length then none else readNat? 10 digits

/-- The directive at a cursor, read from after its sign up to the end of its line. -/
def readDirective? (cursor : Cursor) : Option (Directive × Cursor) := do
  let name := cursor.taken isNameChar
  let cursor := cursor.skip name.length
  if !endsWord cursor.rest then none
  else
    let cursor := cursor.skipWhile isBlank
    let (directive, cursor) ←
      if name = "YAML".toList then do
        let major := cursor.taken Char.isDigit
        let cursor := cursor.skip major.length
        if cursor.rest.head? ≠ some '.' then none
        else
          let cursor := cursor.skip 1
          let minor := cursor.taken Char.isDigit
          some (Directive.version (← versionNumber? major) (← versionNumber? minor),
            cursor.skip minor.length)
      else if name = "TAG".toList then do
        let (handle, cursor) ← readHandle? cursor
        if handle ≠ ['!'] ∧ handle.getLast? ≠ some '!' then none
        else if !cursor.rest.head?.any isBlank then none
        else
          let cursor := cursor.skipWhile isBlank
          let (text, cursor) ← readTagText? true cursor.rest.length cursor
          if text.isEmpty || !endsWord cursor.rest then none
          else some (Directive.handle (String.ofList handle) text, cursor)
      else none
    let cursor := cursor.skipWhile isBlank
    let cursor := if cursor.rest.head? = some '#' then cursor.toLineEnd else cursor
    if endsLine cursor.rest then
      return (directive, if cursor.rest.isEmpty then cursor else cursor.skipBreak)
    else none

end Codebook.Yaml
