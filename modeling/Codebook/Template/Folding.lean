import Codebook.Template.Operation

/-!
# Values of constant expressions

An expression built from constants by operators has its value before anything is rendered, and so
has a list or a map in which nothing but constants is written. Such a value is computed by applying
the operators to finished operands. This shows where `and` stands between two constants of which one
is not true: the answer is no operand then.
-/

namespace Codebook.Template

/-- The value of a constant. -/
def Constant.value : Constant → Value
  | .undefined => .undefined
  | .none => .none
  | .bool value => .bool value
  | .int value => .ofLiteral value
  | .float value => .float value
  | .text value => .ofText value

/-- The answer of a comparison. -/
def Comparison.apply (comparison : Comparison) (left right : Value) : Except Fault Bool :=
  return ((← comparison.operator.apply left right).isTrue != comparison.negated)

/-- The answer of a row of comparisons, each between neighbours: all have to hold. -/
def compareInRow (left : Value) : List (Comparison × Value) → Except Fault Bool
  | [] => return true
  | (comparison, right) :: rest => do
    if ← comparison.apply left right then compareInRow right rest else return false

/-- The value of a constant that is written as it is. -/
def Expression.written? : Expression → Option Value
  | .constant value _ => some value.value
  | _ => none

mutual

/-- The value of a constant expression; an operator that fails has none. -/
def Expression.constant? : Expression → Option Value
  | .constant value _ => some value.value
  | .unary operator operand _ => do (operator.apply (← operand.constant?)).toOption
  | .binary operator left right _ => do
    let left ← left.constant?
    let right ← right.constant?
    (operator.apply left right).toOption
  | .comparisons first others _ => do
    let left ← first.constant?
    let others ← constantOperands? others
    return .bool (← (compareInRow left others).toOption)
  | .list items _ => (items.mapM Expression.written?).map Value.ofItems
  | .map entries _ => do
    let entries ← entries.mapM fun (key, value) => do
      return (← key.written?, ← value.written?)
    return .ofEntries entries
  | _ => none

/-- The values of the operands of a row of comparisons, if all are constant. -/
def constantOperands? : List (Comparison × Expression) → Option (List (Comparison × Value))
  | [] => some []
  | (comparison, operand) :: rest => do
    let value ← operand.constant?
    let values ← constantOperands? rest
    return (comparison, value) :: values

end

end Codebook.Template
