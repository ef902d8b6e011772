import Codebook.Decimal.Read
import Codebook.Template.Basic
import Codebook.Template.Fault

/-!
# Values of a line format

What a name in a line format can stand for, and the questions that every value answers: its kind,
whether it counts as true, what number it is, and what it holds.

Lists and maps hold what they are written with. A *sequence* was computed from other values and can
be gone through like a list. A *stream* is a sequence of which nothing is known before it has been
gone through, not even how long it is. Values that change while a line format is rendered refer to a
numbered cell, and keep what was last read from it. Routines and running loops look like maps from
the outside.

Lists, maps and what was computed like them are objects: two of them can be equal without being the
same. An object that something refers to has a number of its own. What is no number at all still has
a sign, which decides on which side of the numbers it stands.

Text carries a mark when it needs no escaping any more. Whole numbers are computed with 128 bits, one
of them for the sign; a literal of more than 64 bits has no sign and may use all 128.
-/

namespace Codebook.Template

open Decimal

/-- What tells an object from others that are equal to it: a number, once something refers to it. -/
abbrev Identity := Option Nat

/-- Values. -/
inductive Value where
  | undefined
  | none
  | bool (value : Bool)
  | int (value : Int)
  | wide (value : Nat)
  | float (value : Float)
  | nan (negative : Bool)
  | text (value : String) (safe : Bool)
  | list (items : List Value) (identity : Identity)
  | sequence (items : List Value) (identity : Identity)
  | stream (items : List Value) (identity : Identity)
  | map (entries : List (Value × Value)) (identity : Identity)
  | keywords (entries : List (Value × Value))
  | group (key : Value) (members : List Value) (identity : Identity)
  | routine (routine : Routine) (closure : Nat) (takesCaller : Bool)
  | namespace (cell : Nat) (held : List (Value × Value))
  | loop (cell : Nat) (held : List (Value × Value))
  | function (name : String)
  | invalid (fault : Fault)

instance : Inhabited Value := ⟨.undefined⟩

/-- The kinds of values, in the order in which values of different kinds stand. -/
inductive ValueKind where
  | undefined
  | none
  | bool
  | number
  | text
  | list
  | map
  | sequence
  | object
  | invalid
  deriving Repr, DecidableEq

/-- The kind of a value. -/
def Value.kind : Value → ValueKind
  | .undefined => .undefined
  | .none => .none
  | .bool _ => .bool
  | .int _ | .wide _ | .float _ | .nan _ => .number
  | .text _ _ => .text
  | .list _ _ | .group _ _ _ => .list
  | .sequence _ _ | .stream _ _ => .sequence
  | .map _ _ | .keywords _ | .routine _ _ _ | .namespace _ _ | .loop _ _ => .map
  | .function _ => .object
  | .invalid _ => .invalid

/-- The name of a kind in messages. -/
def ValueKind.word : ValueKind → String
  | .undefined => "undefined"
  | .none => "none"
  | .bool => "bool"
  | .number => "number"
  | .text => "string"
  | .list => "sequence"
  | .map => "map"
  | .sequence => "iterator"
  | .object => "plain object"
  | .invalid => "invalid value"

/-- The place of a kind in the order of kinds. -/
def ValueKind.rank : ValueKind → Nat
  | .undefined => 0
  | .none => 1
  | .bool => 2
  | .number => 3
  | .text => 4
  | .list => 5
  | .map => 6
  | .sequence => 7
  | .object => 8
  | .invalid => 9

/-- Text that may need escaping. -/
def Value.ofText (text : String) : Value :=
  .text text false

/-- Text that may need escaping, from its characters. -/
def Value.ofChars (text : List Char) : Value :=
  .ofText (String.ofList text)

/-- The text of a text value. -/
def Value.asText? : Value → Option String
  | .text value _ => some value
  | _ => Option.none

/-- Text of one character. -/
def Value.ofChar (c : Char) : Value :=
  .ofText (String.ofList [c])

/-- A list that nothing refers to yet. -/
def Value.ofItems (items : List Value) : Value :=
  .list items Option.none

/-- A sequence that nothing refers to yet. -/
def Value.ofSequence (items : List Value) : Value :=
  .sequence items Option.none

/-- A stream that nothing refers to yet. -/
def Value.ofStream (items : List Value) : Value :=
  .stream items Option.none

/-- A value that may be missing: undefined if it is. -/
def orUndefined (value : Option Value) : Value :=
  value.getD .undefined

/-- Whether a value needs no escaping. -/
def Value.isSafe : Value → Bool
  | .text _ safe => safe
  | _ => false

/-! ## Numbers -/

/-- The least whole number of 128 bits with a sign. -/
def leastInt : Int := -(twoTo 127)

/-- The greatest whole number of 128 bits with a sign. -/
def greatestInt : Int := twoTo 127 - 1

/-- The least whole number of 64 bits with a sign. -/
def leastIndex : Int := -(twoTo 63)

/-- The greatest whole number of 64 bits with a sign. -/
def greatestIndex : Int := twoTo 63 - 1

/-- The number that a literal stands for. -/
def Value.ofLiteral (n : Nat) : Value :=
  if n < twoTo 64 then .int n else .wide n

/-- The whole number of 64 bits that a number without a fraction equals. -/
def wholeOfFloat? (x : Float) : Option Int :=
  let whole := truncateWithin leastIndex greatestIndex x
  if Float.ofInt whole == x then some whole else none

/-- The whole number that a value stands for in arithmetic. -/
def Value.asInt? : Value → Option Int
  | .bool value => some (if value then 1 else 0)
  | .int value => some value
  | .wide value => if value ≤ greatestInt then some value else Option.none
  | .float value => wholeOfFloat? value
  | _ => Option.none

/-- The whole number of 64 bits that a value stands for as an index. -/
def Value.asIndex? (value : Value) : Option Int :=
  value.asInt?.filter fun n => leastIndex ≤ n ∧ n ≤ greatestIndex

/-- The count that a value stands for. -/
def Value.asCount? (value : Value) : Option Nat :=
  (value.asInt?.filter fun n : Int => 0 ≤ n ∧ n < twoTo 64).map Int.toNat

/-- The number of double precision that a value stands for in arithmetic. -/
def Value.asFloat? : Value → Option Float
  | .bool value => some (if value then 1 else 0)
  | .int value => some (Float.ofInt value)
  | .wide value => some (Float.ofNat value)
  | .float value => some value
  | .nan _ => some (0.0 / 0.0)
  | _ => Option.none

/-- Whether a number is of double precision. -/
def Value.isFloat : Value → Bool
  | .float _ | .nan _ => true
  | _ => false

/-- The sign of what is no number. -/
def Value.nanSign? : Value → Option Bool
  | .nan negative => some negative
  | _ => Option.none

/-- What was computed with double precision from some operands. If it is no number, the first
    operand that is none gives it its sign; if all were numbers, it is negative. -/
def Value.computed (operands : List Value) (x : Float) : Value :=
  if x.isNaN then .nan ((operands.findSome? Value.nanSign?).getD true) else .float x

/-- Two operands brought to a common type. -/
inductive Pair where
  | ints (left right : Int)
  | floats (left right : Float)
  | texts (left right : String)

/-- A whole number of 128 bits without a sign, taken for one with a sign. -/
def wrapInt (n : Int) : Int :=
  Int.bmod n (twoTo 128)

/-- Brings two operands to a common type. If one of two numbers has a fraction both become numbers
    of double precision. Two wide literals are both taken for numbers with a sign. -/
def Value.pair? (left right : Value) : Option Pair := do
  match left, right with
  | .text a _, .text b _ => some (.texts a b)
  | .wide a, .wide b => some (.ints (wrapInt a) (wrapInt b))
  | _, _ =>
    if left.isFloat || right.isFloat then some (.floats (← left.asFloat?) (← right.asFloat?))
    else some (.ints (← left.asInt?) (← right.asInt?))

/-! ## What a value holds -/

/-- What a routine says about itself. -/
def routineEntries (routine : Routine) (takesCaller : Bool) : List (Value × Value) :=
  [(.ofText "name", .ofText routine.name),
   (.ofText "arguments", .ofItems (routine.parameters.map Value.ofText)),
   (.ofText "caller", .bool takesCaller)]

/-- The items that values of some kinds hold one after the other. -/
def Value.items? : Value → Option (List Value)
  | .list items _ | .sequence items _ | .stream items _ => some items
  | .group key members _ => some [key, .ofSequence members]
  | _ => Option.none

/-- The entries of a map, and of what looks like one. -/
def Value.entries? : Value → Option (List (Value × Value))
  | .map entries _ | .keywords entries => some entries
  | .namespace _ held | .loop _ held => some held
  | .routine declared _ takesCaller => some (routineEntries declared takesCaller)
  | _ => Option.none

/-- The number of things in a value, as far as it is known. -/
def Value.length? (value : Value) : Option Nat :=
  match value with
  | .text content _ => some content.length
  | .stream _ _ => Option.none
  | other => (other.items?.map List.length).or (other.entries?.map List.length)

/-- Whether a value counts as true: it is neither nothing, nor zero, nor empty. -/
def Value.isTrue (value : Value) : Bool :=
  match value with
  | .undefined | .none | .invalid _ => false
  | .bool answer => answer
  | .int n => n != 0
  | .wide n => n != 0
  | .float x => x != 0
  | other => other.length? != some 0

/-- What a loop goes through, and whether it is known beforehand how much that is. -/
structure Items where
  values : List Value
  counted : Bool

/-- The values that a loop over a value goes through: the characters of a text, the keys of a map,
    nothing for what is undefined or none. How many characters a text has is not known before its
    end. -/
def Value.iterate? (value : Value) : Option Items :=
  match value with
  | .undefined | .none => some ⟨[], true⟩
  | .text content _ => some ⟨content.toList.map Value.ofChar, content.isEmpty⟩
  | .stream items _ => some ⟨items, false⟩
  | other =>
    (other.items?.map (⟨·, true⟩)).or (other.entries?.map fun entries =>
      ⟨entries.map Prod.fst, true⟩)

/-- The fault of a value that holds no items. -/
def notIterable (value : Value) : Fault :=
  .about .invalidOperation (value.kind.word ++ " is not iterable")

/-- As `iterate?`, with the fault for a value that holds no items. -/
def Value.iterateCounted (value : Value) : Except Fault Items :=
  match value.iterate? with
  | some items => return items
  | Option.none => throw (notIterable value)

/-- The values that a loop over a value goes through. -/
def Value.iterate (value : Value) : Except Fault (List Value) :=
  return (← value.iterateCounted).values

/-- A value that is used. What went wrong in a stream is a fault only now. -/
def Value.used (value : Value) : Except Fault Value :=
  match value with
  | .invalid fault => throw fault
  | other => return other

/-- The item at an index, counted from the end if it is negative. -/
def itemAt? {α : Type} (items : List α) (index : Int) : Option α :=
  if 0 ≤ index then items[index.toNat]?
  else if items.length < index.natAbs then none
  else items[items.length - index.natAbs]?

end Codebook.Template
