import Codebook.Template.Written

/-!
# Operators

What the operators of a line format do with values: arithmetic, concatenation, containment,
items and slices. Whole numbers are computed exactly and refused beyond 128 bits; division with
`//` and `%` leaves a remainder that is not negative; `/` always divides numbers of double
precision. What is made of a stream is a stream again.
-/

namespace Codebook.Template

open Decimal

/-- The fault of an operator that is not defined on the kinds of its operands. -/
def impossible (operator : String) (left right : Value) : Fault :=
  .about .invalidOperation
    ("tried to use " ++ operator ++ " operator on unsupported types " ++ left.kind.word ++
      " and " ++ right.kind.word)

/-- The fault of an operator whose result does not exist or is too large. -/
def failed (operator : String) (left right : Value) : Fault :=
  .about .invalidOperation
    ("unable to calculate " ++ left.toText ++ " " ++ operator ++ " " ++ right.toText)

/-- A whole number within the bounds, or a fault. -/
def boundedInt (fault : Fault) (n : Int) : Except Fault Value :=
  if leastInt ≤ n ∧ n ≤ greatestInt then return .int n else throw fault

/-- The most characters that a repeated text may have. -/
def repetitionLimit : Nat := 100000000

/-- Items that were computed, of which the number may be known. -/
def computedItems (counted : Bool) (items : List Value) : Value :=
  if counted then .ofSequence items else .ofStream items

/-- Whether the number of the things in a value is known. -/
def Value.isCounted : Value → Bool
  | .stream _ _ => false
  | _ => true

/-- The sum of two numbers, or two texts or lists joined. -/
def Value.add (left right : Value) : Except Fault Value :=
  match left.items?, right.items? with
  | some a, some b => return computedItems (left.isCounted && right.isCounted) (a ++ b)
  | _, _ =>
    match left.pair? right with
    | some (.ints a b) => boundedInt (failed "+" left right) (a + b)
    | some (.floats a b) => return .computed [left, right] (a + b)
    | some (.texts a b) => return .ofText (a ++ b)
    | Option.none => throw (impossible "+" left right)

/-- The difference of two numbers. -/
def Value.sub (left right : Value) : Except Fault Value :=
  match left.pair? right with
  | some (.ints a b) => boundedInt (failed "-" left right) (a - b)
  | some (.floats a b) => return .computed [left, right] (a - b)
  | _ => throw (impossible "-" left right)

/-- A text repeated. -/
def repeatText (content : String) (count : Value) : Except Fault Value :=
  match count.asCount? with
  | some n =>
    if content.length * n > repetitionLimit then
      throw (.about .invalidOperation "repeated string is too long")
    else return .ofText (String.ofList ((List.replicate n content.toList).flatten))
  | Option.none =>
    throw (.about .invalidOperation "strings can only be multiplied with integers")

/-- A list repeated. -/
def repeatItems (items : List Value) (count : Value) : Except Fault Value :=
  match count.asCount? with
  | some n =>
    if items.length * n > repetitionLimit then
      throw (.about .invalidOperation "repeated sequence is too long")
    else return .ofSequence ((List.replicate n items).flatten)
  | Option.none =>
    throw (.about .invalidOperation "sequences can only be multiplied with integers")

/-- The items of a value that can be repeated, of which the number has to be known. -/
def Value.repeatable? : Value → Option (List Value)
  | .stream _ _ => Option.none
  | other => other.items?

/-- The product of two numbers, or a text or list repeated. -/
def Value.mul (left right : Value) : Except Fault Value :=
  match left.asText?, right.asText?, left.repeatable?, right.repeatable? with
  | some content, _, _, _ => repeatText content right
  | _, some content, _, _ => repeatText content left
  | _, _, some items, _ => repeatItems items right
  | _, _, _, some items => repeatItems items left
  | _, _, _, _ =>
    match left.pair? right with
    | some (.ints a b) => boundedInt (failed "*" left right) (a * b)
    | some (.floats a b) => return .computed [left, right] (a * b)
    | _ => throw (impossible "*" left right)

/-- The quotient of two numbers of double precision. -/
def Value.div (left right : Value) : Except Fault Value :=
  match left.asFloat?, right.asFloat? with
  | some a, some b => return .computed [left, right] (a / b)
  | _, _ => throw (impossible "/" left right)

/-- The whole quotient that leaves a remainder that is not negative. -/
def Value.floorDiv (left right : Value) : Except Fault Value :=
  match left.pair? right with
  | some (.ints a b) =>
    if b = 0 then throw (failed "//" left right)
    else boundedInt (failed "//" left right) (a / b)
  | some (.floats a b) => return .computed [left, right] (quotientDown a b)
  | _ => throw (impossible "//" left right)

/-- The remainder of a division. -/
def Value.rem (left right : Value) : Except Fault Value :=
  match left.pair? right with
  | some (.ints a b) =>
    if b = 0 then throw (failed "%" left right)
    else boundedInt (failed "%" left right) (a % b)
  | some (.floats a b) => return .computed [left, right] (remainder a b)
  | _ => throw (impossible "%" left right)

/-- The power of two whole numbers, if it is within the bounds. A base other than zero, one and
    minus one leaves the bounds after less than 128 steps. -/
def boundedPower (fault : Fault) (base : Int) (exponent : Nat) : Except Fault Value :=
  if base = 0 ∨ base = 1 ∨ base = -1 then
    return .int (if exponent = 0 then 1 else if base = -1 ∧ exponent % 2 = 0 then 1 else base)
  else if exponent ≤ 128 then boundedInt fault (Int.pow base exponent)
  else throw fault

/-- The power of two numbers. -/
def Value.pow (left right : Value) : Except Fault Value :=
  match left.pair? right with
  | some (.ints a b) =>
    if 0 ≤ b ∧ b < twoTo 32 then boundedPower (failed "**" left right) a b.toNat
    else throw (failed "**" left right)
  | some (.floats a b) => return .computed [left, right] (a.pow b)
  | _ => throw (impossible "**" left right)

/-- The number with the opposite sign. -/
def Value.negate (value : Value) : Except Fault Value :=
  match value with
  | .float x => return .float (-x)
  | .nan negative => return .nan (!negative)
  | .int n => boundedInt (.about .invalidOperation "overflow") (-n)
  | .wide n =>
    if n = twoTo 127 then return .wide n
    else if greatestInt < n then throw (.plain .invalidOperation)
    else return .int (-n)
  | _ => throw (.plain .invalidOperation)

/-- The texts of two values joined. -/
def Value.concat (left right : Value) : Value :=
  .ofText (left.toText ++ right.toText)

/-- Whether `part` occurs in `text`. -/
def containsText (text part : List Char) : Bool :=
  match text with
  | [] => part.isEmpty
  | c :: rest => part.isPrefixOf (c :: rest) || containsText rest part

/-- Whether a value is part of another: a text of a text, an item of a list, a key of a map. -/
def Value.contains (container value : Value) : Except Fault Bool :=
  match container with
  | .undefined => return false
  | .text content _ => return containsText content.toList value.toText.toList
  | .function _ => return false
  | other =>
    match other.entries?, other.items? with
    | some entries, _ => return (valueFor? value entries).isSome
    | _, some items => return items.any value.equal
    | _, _ =>
      throw (.about .invalidOperation "cannot perform a containment check on this value")

/-- What an operator makes of two values. The two that decide by their left operand alone are
    evaluated before their right operand is, and only end here when both are constants: then `and`
    gives its right operand if both are true, and else no operand but the answer. -/
def BinaryOperator.apply (operator : BinaryOperator) (left right : Value) : Except Fault Value :=
  match operator with
  | .eq => return .bool (left.equal right)
  | .ne => return .bool (!left.equal right)
  | .lt => return .bool (left.compare right == .lt)
  | .le => return .bool (left.compare right != .gt)
  | .gt => return .bool (left.compare right == .gt)
  | .ge => return .bool (left.compare right != .lt)
  | .and => return if left.isTrue && right.isTrue then right else .bool false
  | .or => return if left.isTrue then left else right
  | .add => left.add right
  | .sub => left.sub right
  | .mul => left.mul right
  | .div => left.div right
  | .floorDiv => left.floorDiv right
  | .rem => left.rem right
  | .pow => left.pow right
  | .concat => return left.concat right
  | .isIn => return .bool (← right.contains left)

/-- What an operator makes of one value. -/
def UnaryOperator.apply (operator : UnaryOperator) (operand : Value) : Except Fault Value :=
  match operator with
  | .not => return .bool (!operand.isTrue)
  | .negate => operand.negate

/-! ## Items and slices -/

/-- The attributes of a group: its key and its members by name. -/
def groupAttribute? (key : Value) (members : List Value) (name : String) : Option Value :=
  if name = "grouper" then some key
  else if name = "list" then some (.ofSequence members)
  else none

/-- The item of a value under a key, for values that hold all their items themselves. Those of a
    stream are only counted from its start. -/
def Value.item? (value key : Value) : Option Value :=
  match value with
  | .text content _ => key.asIndex?.bind fun n => (itemAt? content.toList n).map Value.ofChar
  | .stream items _ =>
    (key.asIndex?.filter fun n : Int => 0 ≤ n).bind fun n => items[n.toNat]?
  | .list items _ | .sequence items _ => key.asIndex?.bind (itemAt? items)
  | .group name members _ =>
    match key.asText? with
    | some field => groupAttribute? name members field
    | Option.none => key.asIndex?.bind (itemAt? [name, .ofSequence members])
  | other => other.entries?.bind (valueFor? key)

/-- A bound of a slice: a whole number, or none. -/
def sliceBound (value : Value) : Except Fault (Option Int) :=
  match value with
  | .none => return Option.none
  | other =>
    match other.asIndex? with
    | some n => return some n
    | Option.none =>
      throw (.about .invalidOperation ("cannot convert " ++ other.kind.word ++ " to i64"))

/-- Every `step`-th item, starting with the first. -/
def everyNth {α : Type} (step : Nat) (items : List α) : List α :=
  (items.zipIdx.filter fun (_, index) => index % step == 0).map Prod.fst

/-- A bound of a slice as a number of items from the start. -/
def placeOf (length : Nat) (bound : Int) : Nat :=
  (if bound < 0 then length + bound else bound).toNat

/-- The items from `start` up to but without `stop`, in steps. Negative bounds count from the end.
    A negative step goes backwards from `start` and down to but without `stop`; a `stop` at the very
    start of the items is no bound then. A bound before the start of the items is taken for it. -/
def sliceItems {α : Type} (start stop : Option Int) (step : Int) (items : List α) : List α :=
  if 0 < step then
    let first := placeOf items.length (start.getD 0)
    let last := (stop.map (placeOf items.length)).getD items.length
    everyNth step.toNat ((items.take last).drop first)
  else
    let reach (bound : Int) : Nat := placeOf items.length bound + 1
    let last := (stop.map (placeOf items.length)).getD 0
    everyNth step.natAbs ((items.take ((start.map reach).getD items.length)).drop
      (if last = 0 then 0 else last + 1)).reverse

/-- A slice of a stream. Where a bound would have to be counted from the end, which is not known,
    the end is taken to be the start. -/
def sliceStream (start stop : Option Int) (step : Int) (items : List Value) : Value :=
  if step < 0 then .ofStream (sliceItems start stop step items)
  else
    let first := placeOf 0 (start.getD 0)
    let last := (stop.map (placeOf 0)).getD 0
    if last ≤ first then .ofSequence []
    else .ofStream (everyNth step.toNat ((items.take last).drop first))

/-- A slice of a text or of a list. -/
def Value.slice (value start stop step : Value) : Except Fault Value := do
  let first ← sliceBound start
  let last ← sliceBound stop
  let stride := (← sliceBound step).getD 1
  if stride = 0 then
    throw (.about .invalidOperation "cannot slice by step size of 0")
  match value with
  | .undefined | .none => return .ofItems []
  | .text content _ => return .ofChars (sliceItems first last stride content.toList)
  | .stream items _ => return sliceStream first last stride items
  | other =>
    match other.items? with
    | some items => return .ofSequence (sliceItems first last stride items)
    | Option.none =>
      throw (.about .invalidOperation
        ("value of type " ++ other.kind.word ++ " cannot be sliced"))

end Codebook.Template
