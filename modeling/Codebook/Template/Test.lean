import Codebook.Template.Operation
import Codebook.Template.Passed
import Codebook.Text.LetterCase

/-!
# Tests

The questions that a line format can ask about a value with `is`. Each test has a name and answers
yes or no; some take further values.
-/

namespace Codebook.Template

open Decimal

/-- Whether a number is written without a fraction. -/
def Value.isInteger : Value → Bool
  | .int _ | .wide _ => true
  | _ => false

/-- The number of an object that something refers to. -/
def Value.identity : Value → Identity
  | .list _ identity | .sequence _ identity | .stream _ identity => identity
  | .map _ identity | .group _ _ identity => identity
  | _ => Option.none

/-- Whether a value can be equal to another without being the same. -/
def Value.isObject (value : Value) : Bool :=
  match value.kind with
  | .list | .map | .sequence | .object => true
  | _ => false

/-- Whether two objects are one. -/
def Value.isOne (left right : Value) : Bool :=
  match left, right with
  | .function a, .function b => a == b
  | _, _ => left.sharesCell right || (left.identity.isSome && left.identity == right.identity)

/-- Whether two values are the same: they are one object, or no objects but equal, of one kind, and
    both or none of them whole. -/
def Value.same (left right : Value) : Bool :=
  if left.isObject || right.isObject then left.isOne right
  else left.kind == right.kind && left.isInteger == right.isInteger && left.equal right

/-- The number of double precision that a number equals. The greatest whole number of its width
    counts as equal to the one beyond it. -/
def Value.exactFloat? (value : Value) : Option Float :=
  let exactly (greatest n : Int) : Option Float :=
    let x := Float.ofInt n
    if truncateWithin leastInt greatest x = n then some x else Option.none
  match value with
  | .int n => exactly (if n < twoTo 64 then twoTo 64 - 1 else greatestInt) n
  | .wide n => exactly (twoTo 128 - 1) n
  | other => other.asFloat?

/-- Whether a number can be divided by another without a remainder. Beside a number of double
    precision, a whole number that is none is not divisible. -/
def Value.divisibleBy (value divisor : Value) : Bool :=
  match value.pair? divisor with
  | some (.ints a b) => b != 0 && a % b == 0
  | some (.floats _ _) =>
    match value.exactFloat?, divisor.exactFloat? with
    | some a, some b => remainder a b == 0
    | _, _ => false
  | _ => false

/-- The tests that take nothing but the value. -/
def simpleTests : List (String × (Value → Bool)) :=
  [("undefined", fun value => value.kind == .undefined),
   ("defined", fun value => value.kind != .undefined),
   ("none", fun value => value.kind == .none),
   ("safe", Value.isSafe),
   ("escaped", Value.isSafe),
   ("boolean", fun value => value.kind == .bool),
   ("odd", fun value => value.asInt?.any fun n => n % 2 != 0),
   ("even", fun value => value.asInt?.any fun n => n % 2 == 0),
   ("number", fun value => value.kind == .number),
   ("integer", Value.isInteger),
   ("int", Value.isInteger),
   ("float", Value.isFloat),
   ("string", fun value => value.kind == .text),
   ("sequence", fun value => value.kind == .list),
   ("iterable", fun value => value.iterate?.isSome),
   ("mapping", fun value => value.kind == .map),
   ("true", fun value => match value with | .bool answer => answer | _ => false),
   ("false", fun value => match value with | .bool answer => !answer | _ => false)]

/-- The tests that ask what a text consists of. -/
def textTests : List (String × (List Char → Bool)) :=
  [("lower", fun text => text.all Text.isSmall),
   ("upper", fun text => text.all Text.isCapital)]

/-- The tests that look at two texts. -/
def twoTextTests : List (String × (List Char → List Char → Bool)) :=
  [("startingwith", fun text part => part.isPrefixOf text),
   ("endingwith", fun text part => part.isSuffixOf text)]

/-- The tests that hold the value against another. -/
def pairTests : List (String × (Value → Value → Bool)) :=
  let less (left right : Value) : Bool := left.compare right == .lt
  [("divisibleby", Value.divisibleBy),
   ("sameas", Value.same),
   ("eq", Value.equal), ("equalto", Value.equal), ("==", Value.equal),
   ("ne", fun left right => !left.equal right), ("!=", fun left right => !left.equal right),
   ("lt", less), ("lessthan", less), ("<", less),
   ("le", fun left right => !less right left), ("<=", fun left right => !less right left),
   ("gt", fun left right => less right left), ("greaterthan", fun left right => less right left),
   (">", fun left right => less right left),
   ("ge", fun left right => !less left right), (">=", fun left right => !less left right)]

/-- The tests that ask whether there is a filter or a test of a name. -/
def nameTests : List String :=
  ["filter", "test"]

/-- The names of all tests. -/
def testNames : List String :=
  simpleTests.map Prod.fst ++ textTests.map Prod.fst ++ twoTextTests.map Prod.fst ++
    pairTests.map Prod.fst ++ ["in"] ++ nameTests

/-- The answer of the test of a name, if there is one. `filterNames` are the names of all filters,
    and `values` are the value asked about and what else was passed. -/
def applyTest? (filterNames : List String) (name : String) (values : List Value) :
    Option (Except Fault Bool) :=
  match simpleTests.lookup name with
  | some test => some (takeFrom values do return test (← nextValue))
  | none =>
    match textTests.lookup name with
    | some test => some (takeFrom values do return test (← (← nextValue).properText).toList)
    | none =>
      match twoTextTests.lookup name with
      | some test => some (takeFrom values do
          let text ← nextText
          return test text.toList (← nextText).toList)
      | none =>
        match pairTests.lookup name with
        | some test => some (takeFrom values do
            let value ← nextValue
            return test value (← nextValue))
        | none =>
          if name = "in" then some (takeFrom values do
            let value ← nextValue
            return ((← nextValue).contains value).toOption.getD false)
          else if nameTests.contains name then
            let known := if name = "filter" then filterNames else testNames
            some (takeFrom values do return known.contains (← (← nextValue).properText))
          else none

end Codebook.Template
