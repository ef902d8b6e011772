/-!
# The tree of a line format

A line format is text with places to fill in. Read, it is a list of statements; the expressions
in them are trees of constants, names, operators, filters, tests and calls. Some nodes keep the
line that they start on, because a fault is reported with a line.

A repeated part that can be called by name is a *routine*; its parameters may have defaults,
and the last parameters are the ones that do.
-/

namespace Codebook.Template

/-- Values that can be written down as they are. Whole numbers are written without a sign. -/
inductive Constant where
  | undefined
  | none
  | bool (value : Bool)
  | int (value : Nat)
  | float (value : Float)
  | text (value : String)

/-- Operators with one operand. -/
inductive UnaryOperator where
  | not
  | negate
  deriving Repr, DecidableEq

/-- Operators with two operands. -/
inductive BinaryOperator where
  | eq | ne | lt | le | gt | ge
  | and | or
  | add | sub | mul | div | floorDiv | rem | pow
  | concat
  | isIn
  deriving Repr, DecidableEq

/-- A comparison in a row of comparisons, or its opposite. -/
structure Comparison where
  operator : BinaryOperator
  negated : Bool
  deriving Repr, DecidableEq

mutual

/-- Expressions. A row of comparisons has an operand before the first and one after each. -/
inductive Expression where
  | constant (value : Constant) (line : Nat)
  | name (name : String) (line : Nat)
  | unary (operator : UnaryOperator) (operand : Expression) (line : Nat)
  | binary (operator : BinaryOperator) (left right : Expression) (line : Nat)
  | comparisons (first : Expression) (others : List (Comparison × Expression)) (line : Nat)
  | choice (condition yes no : Expression)
  | filter (name : String) (operand : Expression) (arguments : List Argument) (line : Nat)
  | test (name : String) (operand : Expression) (arguments : List Argument) (line : Nat)
  | attribute (operand : Expression) (name : String)
  | item (operand key : Expression)
  | slice (operand start stop step : Expression)
  | call (callee : Expression) (arguments : List Argument) (line : Nat)
  | list (items : List Expression) (line : Nat)
  | map (entries : List (Expression × Expression)) (line : Nat)

/-- Arguments of a call, a filter or a test. -/
inductive Argument where
  | positional (value : Expression)
  | keyword (name : String) (value : Expression)
  | spread (values : Expression)
  | spreadKeywords (values : Expression)

end

/-- A filter in a chain that is applied to captured text. -/
structure FilterCall where
  name : String
  arguments : List Argument
  line : Nat

/-- What a value can be given to. -/
inductive Target where
  | name (name : String)
  | attribute (owner : Expression) (name : String)
  | tuple (targets : List Target) (line : Nat)

/-- A name that is taken over from another template, and what it is called here. -/
structure Import where
  name : String
  line : Nat
  known : String

/-- Statements. A call that is given a routine to call keeps the line of the routine as well. A
    block that is left for others to fill has a body that cannot be carried out. -/
inductive Statement where
  | text (raw : String) (line : Nat)
  | output (value : Expression)
  | forLoop (target : Target) (items : Expression) (condition : Option Expression)
      (recursive : Bool) (body other : List Statement)
  | choice (condition : Expression) (yes no : List Statement)
  | scope (assignments : List (Target × Expression)) (body : List Statement) (line : Nat)
  | assign (target : Target) (value : Expression)
  | assignText (target : Target) (filters : List FilterCall) (body : List Statement) (line : Nat)
  | escaping (mode : Expression) (body : List Statement)
  | filtered (filters : List FilterCall) (body : List Statement) (line : Nat)
  | block (name : String) (body : List Statement) (line : Nat)
  | unfilled (block : String)
  | extend (parent : Expression)
  | embed (source : Expression) (ignoreMissing : Bool)
  | importAll (source : Expression) (target : Target)
  | importNames (source : Expression) (names : List Import)
  | routine (name : String) (parameters : List String) (defaults : List Expression)
      (body : List Statement) (line : Nat)
  | callWith (callee : Expression) (arguments : List Argument) (line : Nat)
      (parameters : List String) (defaults : List Expression) (body : List Statement)
      (bodyLine : Nat)
  | perform (call : Expression)

/-- A routine as it is declared. -/
structure Routine where
  name : String
  parameters : List String
  defaults : List Expression
  body : List Statement

end Codebook.Template
