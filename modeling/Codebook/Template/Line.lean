import Codebook.Template.Folding

/-!
# The line that a fault is reported on

A fault of a call, a filter or a test is reported on the line of the constant or the name that was
read last before the operation is carried out. A constant expression is one constant, on the line
that it starts on. Arguments that are named come after the others, and where all of them are plain
constants they stand on no line of their own. A block that is called by its name takes no arguments,
so what is passed to it has no line.

A statement starts on the line of its tag. What a value is given to comes after the value; a name
alone has no line of its own then. The defaults of parameters come from the last to the first.
-/

namespace Codebook.Template

/-- The line after something on `here`, which is no line if it is zero. -/
def laterLine (line here : Nat) : Nat :=
  if here = 0 then line else here

/-- The line that an expression made of others starts on, if it may be constant. -/
def Expression.startLine? (expression : Expression) : Option Nat :=
  match expression with
  | .unary _ _ line | .binary _ _ _ line | .comparisons _ _ line | .list _ line | .map _ line =>
    expression.constant?.map fun _ => line
  | _ => none

/-- Whether an argument is no obstacle to named arguments being constant. -/
def Argument.isPlain : Argument → Bool
  | .positional _ | .spread _ => true
  | .keyword _ (.constant _ _) => true
  | .keyword _ _ | .spreadKeywords _ => false

mutual

/-- The line that is current after an expression, if `line` was current before it. -/
def Expression.lineAfter (line : Nat) (expression : Expression) : Nat :=
  match expression.startLine? with
  | some start => laterLine line start
  | none =>
    match expression with
    | .constant _ here => laterLine line here
    | .name _ here => laterLine line here
    | .unary _ operand _ => operand.lineAfter line
    | .binary _ left right _ => right.lineAfter (left.lineAfter line)
    | .comparisons first others _ => linesAfterOperands (first.lineAfter line) others
    | .choice condition yes no => no.lineAfter (yes.lineAfter (condition.lineAfter line))
    | .filter _ operand arguments here | .test _ operand arguments here =>
      let line := linesAfterPlaced (operand.lineAfter (laterLine line here)) arguments
      if arguments.all Argument.isPlain then line else linesAfterNamed line arguments
    | .attribute operand _ => operand.lineAfter line
    | .item operand key => key.lineAfter (operand.lineAfter line)
    | .slice operand start stop step =>
      step.lineAfter (stop.lineAfter (start.lineAfter (operand.lineAfter line)))
    | .call (.attribute (.name "self" _) _) _ here => laterLine line here
    | .call callee arguments here =>
      let line :=
        match callee with
        | .name _ _ => laterLine line here
        | other => other.lineAfter (laterLine line here)
      let line := linesAfterPlaced line arguments
      if arguments.all Argument.isPlain then line else linesAfterNamed line arguments
    | .list items _ => linesAfterItems line items
    | .map entries _ => linesAfterEntries line entries

/-- The line that is current after the operands of a row of comparisons. -/
def linesAfterOperands (line : Nat) : List (Comparison × Expression) → Nat
  | [] => line
  | (_, operand) :: rest => linesAfterOperands (operand.lineAfter line) rest

/-- The line that is current after the arguments without names. -/
def linesAfterPlaced (line : Nat) : List Argument → Nat
  | [] => line
  | .positional value :: rest => linesAfterPlaced (value.lineAfter line) rest
  | .spread values :: rest => linesAfterPlaced (values.lineAfter line) rest
  | _ :: rest => linesAfterPlaced line rest

/-- The line that is current after the arguments with names. -/
def linesAfterNamed (line : Nat) : List Argument → Nat
  | [] => line
  | .keyword _ value :: rest => linesAfterNamed (value.lineAfter line) rest
  | .spreadKeywords values :: rest => linesAfterNamed (values.lineAfter line) rest
  | _ :: rest => linesAfterNamed line rest

/-- The line that is current after the items of a list. -/
def linesAfterItems (line : Nat) : List Expression → Nat
  | [] => line
  | item :: rest => linesAfterItems (item.lineAfter line) rest

/-- The line that is current after the entries of a map. -/
def linesAfterEntries (line : Nat) : List (Expression × Expression) → Nat
  | [] => line
  | (key, value) :: rest => linesAfterEntries (value.lineAfter (key.lineAfter line)) rest

end

/-- The line that is current after some arguments. -/
def linesAfterArguments (line : Nat) (arguments : List Argument) : Nat :=
  let line := linesAfterPlaced line arguments
  if arguments.all Argument.isPlain then line else linesAfterNamed line arguments

mutual

/-- The line that is current after a target. -/
def Target.lineAfter (line : Nat) : Target → Nat
  | .name _ => line
  | .attribute owner _ => owner.lineAfter line
  | .tuple targets here => linesAfterTargets (laterLine line here) targets

/-- The line that is current after some targets. -/
def linesAfterTargets (line : Nat) : List Target → Nat
  | [] => line
  | target :: rest => linesAfterTargets (target.lineAfter line) rest

end

/-- The line that is current after a chain of filters. All lines of the filters are passed first,
    from the last to the first. -/
def linesAfterFilters (line : Nat) : List FilterCall → Nat
  | [] => line
  | filter :: rest =>
    rest.foldl (fun line filter => linesAfterArguments line filter.arguments)
      (linesAfterArguments filter.line filter.arguments)

mutual

/-- The line that is current after a statement, if `line` was current before it. -/
def Statement.lineAfter (line : Nat) : Statement → Nat
  | .text _ here => here
  | .output value => value.lineAfter line
  | .forLoop target items condition _ body other =>
    let line := items.lineAfter line
    let line :=
      match condition with
      | some condition => condition.lineAfter (target.lineAfter line)
      | none => line
    linesAfterStatements (linesAfterStatements (target.lineAfter line) body) other
  | .choice condition yes no =>
    linesAfterStatements (linesAfterStatements (condition.lineAfter line) yes) no
  | .scope assignments body here =>
    linesAfterStatements (linesAfterAssignments (laterLine line here) assignments) body
  | .assign target value => target.lineAfter (value.lineAfter line)
  | .assignText target filters body here =>
    target.lineAfter (linesAfterFilters (linesAfterStatements (laterLine line here) body) filters)
  | .escaping mode body => linesAfterStatements (mode.lineAfter line) body
  | .filtered filters body here =>
    linesAfterFilters (linesAfterStatements (laterLine line here) body) filters
  | .block _ _ here => laterLine line here
  | .unfilled _ => line
  | .extend parent => parent.lineAfter line
  | .embed source _ => source.lineAfter line
  | .importAll source target => target.lineAfter (source.lineAfter line)
  | .importNames source names =>
    names.foldl (fun line imported => laterLine line imported.line) (source.lineAfter line)
  | .routine _ _ defaults body here =>
    linesAfterStatements (linesAfterItems (laterLine line here) defaults.reverse) body
  | .callWith (.attribute (.name "self" _) _) _ here _ _ _ _ => laterLine line here
  | .callWith callee arguments here _ defaults body bodyLine =>
    let line := (Expression.call callee arguments here).lineAfter line
    linesAfterStatements (linesAfterItems (laterLine line bodyLine) defaults.reverse) body
  | .perform call => call.lineAfter line

/-- The line that is current after some assignments. -/
def linesAfterAssignments (line : Nat) : List (Target × Expression) → Nat
  | [] => line
  | (target, value) :: rest => linesAfterAssignments (target.lineAfter (value.lineAfter line)) rest

/-- The line that is current after some statements. -/
def linesAfterStatements (line : Nat) : List Statement → Nat
  | [] => line
  | statement :: rest => linesAfterStatements (statement.lineAfter line) rest

end

end Codebook.Template
