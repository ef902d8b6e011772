import Codebook.Template.Basic
import Codebook.Template.Token

/-!
# Reading a line format

The tokens of a line format are read into its tree by recursive descent. From the weakest to the
strongest, expressions bind as: choice, `or`, `and`, `not`, comparison and containment, sum,
concatenation, product, power, sign, attribute and call, filter and test. All binary operators
associate to the left, power included; comparisons in a row are taken together. A sign belongs to the
operand before its attributes and filters are taken. Texts next to each other are one text.

Nesting is limited: every statement, every full expression and every operand that is being read
counts. All readers take `fuel`, a bound on the depth of calls; `readTemplate` gives enough of it
for every input, since a reader makes only a bounded number of calls before it takes a token.
-/

namespace Codebook.Template

/-- The greatest depth of nesting. -/
def nestingLimit : Nat := 150

/-- What a reader has before it and knows of what it has read. -/
structure Reading where
  tokens : List Placed
  fault : Option Fault
  lastLine : Nat
  nesting : Nat
  inRoutine : Bool
  blocks : List String

/-- Readers. -/
abbrev Reader (α : Type) := StateT Reading (Except Fault) α

/-- Refuses the line format at the next token. -/
def refuse {α : Type} (detail : String) : Reader α := do
  let reading ← get
  let line := (reading.tokens.head?.map Placed.line).getD reading.lastLine
  throw ((Fault.about .malformed detail).at line)

/-- Refuses the line format because it ends too early, or because what comes next is no token. -/
def refuseEnd {α : Type} : Reader α := do
  match (← get).fault with
  | some fault => throw fault
  | none => refuse "unexpected end of input"

/-- The next token, which stays where it is. At the end of the tokens a fault comes up. -/
def peek? : Reader (Option Token) := do
  let reading ← get
  match reading.tokens, reading.fault with
  | [], some fault => throw fault
  | [], none => return none
  | placed :: _, _ => return some placed.token

/-- The line of the next token, or of the last one at the end. -/
def nextLine : Reader Nat := do
  let reading ← get
  return (reading.tokens.head?.map Placed.line).getD reading.lastLine

/-- Takes the next token, if there is one. -/
def take? : Reader (Option Token) := do
  let next ← peek?
  modify fun reading =>
    match reading.tokens with
    | [] => reading
    | placed :: rest => { reading with tokens := rest, lastLine := placed.line }
  return next

/-- Takes the next token. -/
def take : Reader Token := do
  match ← take? with
  | some token => return token
  | none => refuseEnd

/-- Whether the next token is a symbol. -/
def atSymbol (symbol : Symbol) : Reader Bool := do
  match ← peek? with
  | some (.symbol found) => return found = symbol
  | _ => return false

/-- Whether the next token is one of some words. -/
def atWord (words : List String) : Reader Bool := do
  match ← peek? with
  | some (.word found) => return words.contains found
  | _ => return false

/-- Whether the next token ends a statement tag. -/
def atStatementEnd : Reader Bool := do
  match ← peek? with
  | some .statementEnd => return true
  | _ => return false

/-- Takes a symbol if it comes next. -/
def skipSymbol (symbol : Symbol) : Reader Bool := do
  if ← atSymbol symbol then
    let _ ← take?
    return true
  return false

/-- Takes one of some words if it comes next. -/
def skipWord (words : List String) : Reader Bool := do
  if ← atWord words then
    let _ ← take?
    return true
  return false

/-- Takes a symbol that has to come next. -/
def expectSymbol (symbol : Symbol) (shown : String) : Reader Unit := do
  match ← peek? with
  | some (.symbol found) =>
    if found = symbol then
      let _ ← take?
    else refuse ("expected " ++ shown)
  | some _ => refuse ("expected " ++ shown)
  | none => refuseEnd

/-- Takes a word that has to come next. -/
def expectWord (word : String) : Reader Unit := do
  unless ← skipWord [word] do
    refuse ("expected " ++ word)

/-- Takes the end of a statement tag, which has to come next. -/
def expectStatementEnd : Reader Unit := do
  if ← atStatementEnd then
    let _ ← take?
  else refuse "expected end of block"

/-- Takes a name, which has to come next, and gives its line as well. -/
def takeName : Reader (String × Nat) := do
  let line ← nextLine
  match ← peek? with
  | some (.word name) =>
    let _ ← take?
    return (name, line)
  | some _ => refuse "expected identifier"
  | none => refuseEnd

/-- Takes a name that may have further names after points, and gives its line as well. -/
def takeDottedName (fuel : Nat) : Reader (String × Nat) :=
  match fuel with
  | 0 => refuse "template exceeds maximum recursion limits"
  | fuel + 1 => do
    let (name, line) ← takeName
    if ← skipSymbol .dot then
      let (rest, _) ← takeDottedName fuel
      return (name ++ "." ++ rest, line)
    else return (name, line)

/-- Reads something one level of nesting further in. -/
def nested {α : Type} (inner : Reader α) : Reader α := do
  let reading ← get
  if reading.nesting + 1 > nestingLimit then
    refuse "template exceeds maximum recursion limits"
  set { reading with nesting := reading.nesting + 1 }
  let result ← inner
  modify fun after => { after with nesting := after.nesting - 1 }
  return result

/-- Names that nothing can be assigned to. -/
def reservedNames : List String :=
  ["true", "True", "false", "False", "none", "None", "loop", "self"]

/-- Takes a name that something is assigned to. -/
def takeTargetName : Reader String := do
  let (name, _) ← takeName
  if reservedNames.contains name then
    refuse ("cannot assign to reserved variable name " ++ name)
  return name

/-! ## Expressions -/

/-- The levels of binary operators, from the weakest to the strongest. -/
inductive Level where
  | or
  | and
  | sum
  | concat
  | product
  | power
  deriving Repr, DecidableEq

/-- The operator that a token stands for on a level. -/
def Level.operator? (level : Level) (token : Token) : Option BinaryOperator :=
  match level, token with
  | .or, .word "or" => some .or
  | .and, .word "and" => some .and
  | .sum, .symbol .plus => some .add
  | .sum, .symbol .minus => some .sub
  | .concat, .symbol .tilde => some .concat
  | .product, .symbol .times => some .mul
  | .product, .symbol .div => some .div
  | .product, .symbol .floorDiv => some .floorDiv
  | .product, .symbol .percent => some .rem
  | .power, .symbol .pow => some .pow
  | _, _ => none

/-- The comparison that a token stands for. -/
def comparison? : Token → Option BinaryOperator
  | .symbol .eq => some .eq
  | .symbol .ne => some .ne
  | .symbol .lt => some .lt
  | .symbol .le => some .le
  | .symbol .gt => some .gt
  | .symbol .ge => some .ge
  | .word "in" => some .isIn
  | _ => none

/-- Whether a token can start the argument of a test that is written without parentheses. -/
def startsTestArgument : Token → Bool
  | .word name => !(["and", "or", "else", "is"].contains name)
  | .string _ | .int _ | .float _ => true
  | .symbol symbol => [Symbol.plus, .minus, .bracketOpen, .braceOpen].contains symbol
  | _ => false

/-- The constant that a name stands for. -/
def namedConstant? : String → Option Constant
  | "true" | "True" => some (.bool true)
  | "false" | "False" => some (.bool false)
  | "none" | "None" => some .none
  | _ => none

/-- The most arguments that a call may have. -/
def argumentLimit : Nat := 2000

mutual

/-- A full expression. -/
def readExpression (fuel : Nat) : Reader Expression :=
  match fuel with
  | 0 => refuse "template exceeds maximum recursion limits"
  | fuel + 1 => nested (readChoice fuel)

/-- An expression, possibly chosen by a condition after it. -/
def readChoice (fuel : Nat) : Reader Expression :=
  match fuel with
  | 0 => refuse "template exceeds maximum recursion limits"
  | fuel + 1 => do
    let first ← readBinary fuel .or
    readChoices fuel first

/-- The conditions after an expression. -/
def readChoices (fuel : Nat) (yes : Expression) : Reader Expression :=
  match fuel with
  | 0 => refuse "template exceeds maximum recursion limits"
  | fuel + 1 => do
    if ← skipWord ["if"] then
      let condition ← readBinary fuel .or
      let no ←
        if ← skipWord ["else"] then readChoice fuel else pure (.constant .undefined 0)
      readChoices fuel (.choice condition yes no)
    else return yes

/-- Operands of a level joined by its operators. -/
def readBinary (fuel : Nat) (level : Level) : Reader Expression :=
  match fuel with
  | 0 => refuse "template exceeds maximum recursion limits"
  | fuel + 1 => do
    let line ← nextLine
    let first ← readOperandOf fuel level
    readBinaryTail fuel level line first

/-- The operators of a level and their right operands. `line` is where the first operand starts. -/
def readBinaryTail (fuel : Nat) (level : Level) (line : Nat) (left : Expression) :
    Reader Expression :=
  match fuel with
  | 0 => refuse "template exceeds maximum recursion limits"
  | fuel + 1 => do
    match (← peek?).bind level.operator? with
    | some operator =>
      let _ ← take?
      let right ← readOperandOf fuel level
      readBinaryTail fuel level line (.binary operator left right line)
    | none => return left

/-- What the operators of a level join. -/
def readOperandOf (fuel : Nat) (level : Level) : Reader Expression :=
  match fuel with
  | 0 => refuse "template exceeds maximum recursion limits"
  | fuel + 1 =>
    match level with
    | .or => readBinary fuel .and
    | .and => readNot fuel
    | .sum => readBinary fuel .concat
    | .concat => readBinary fuel .product
    | .product => readBinary fuel .power
    | .power => readUnary fuel

/-- Comparisons, possibly negated. -/
def readNot (fuel : Nat) : Reader Expression :=
  match fuel with
  | 0 => refuse "template exceeds maximum recursion limits"
  | fuel + 1 => do
    let line ← nextLine
    if ← skipWord ["not"] then
      return .unary .not (← readNot fuel) line
    let first ← readBinary fuel .sum
    match ← readComparisons fuel with
    | [] => return first
    | [(comparison, right)] =>
      let compared := Expression.binary comparison.operator first right line
      return if comparison.negated then .unary .not compared line else compared
    | others => return .comparisons first others line

/-- Comparisons in a row, each with its right operand. -/
def readComparisons (fuel : Nat) : Reader (List (Comparison × Expression)) :=
  match fuel with
  | 0 => refuse "template exceeds maximum recursion limits"
  | fuel + 1 => do
    if ← skipWord ["not"] then
      expectWord "in"
      let right ← readBinary fuel .sum
      return (⟨.isIn, true⟩, right) :: (← readComparisons fuel)
    else
      match (← peek?).bind comparison? with
      | some operator =>
        let _ ← take?
        let right ← readBinary fuel .sum
        return (⟨operator, false⟩, right) :: (← readComparisons fuel)
      | none => return []

/-- An operand with its sign, its attributes and calls, and its filters and tests. -/
def readUnary (fuel : Nat) : Reader Expression :=
  match fuel with
  | 0 => refuse "template exceeds maximum recursion limits"
  | fuel + 1 => do
    let line ← nextLine
    let operand ← readSigned fuel
    let operand ← readPostfix fuel operand line
    readFilters fuel operand

/-- An operand with its sign. -/
def readSigned (fuel : Nat) : Reader Expression :=
  match fuel with
  | 0 => refuse "template exceeds maximum recursion limits"
  | fuel + 1 => do
    let line ← nextLine
    if ← skipSymbol .minus then
      return .unary .negate (← readSigned fuel) line
    nested (readPrimary fuel)

/-- Attributes, items, slices and calls after an operand. `line` is the line that a call is
    reported on. -/
def readPostfix (fuel : Nat) (operand : Expression) (line : Nat) : Reader Expression :=
  match fuel with
  | 0 => refuse "template exceeds maximum recursion limits"
  | fuel + 1 => do
    let here ← nextLine
    match ← peek? with
    | some (.symbol .dot) =>
      let _ ← take?
      let line ← nextLine
      match ← peek? with
      | some (.int index) =>
        let _ ← take?
        readPostfix fuel (.item operand (.constant (.int index) line)) here
      | _ =>
        let (name, _) ← takeName
        readPostfix fuel (.attribute operand name) here
    | some (.symbol .bracketOpen) =>
      let _ ← take?
      let absent : Expression := .constant .none 0
      let start ←
        if ← atSymbol .colon then pure none else (readExpression fuel).map some
      let result ←
        if ← skipSymbol .colon then
          let stop ←
            if (← atSymbol .bracketClose) || (← atSymbol .colon) then pure absent
            else readExpression fuel
          let step ←
            if ← skipSymbol .colon then
              if ← atSymbol .bracketClose then pure absent else readExpression fuel
            else pure absent
          pure (.slice operand (start.getD absent) stop step)
        else
          pure (.item operand (start.getD absent))
      expectSymbol .bracketClose "a closing bracket"
      readPostfix fuel result here
    | some (.symbol .parenOpen) =>
      let arguments ← readArguments fuel
      readPostfix fuel (.call operand arguments line) here
    | _ => return operand

/-- Filters and tests after an operand. -/
def readFilters (fuel : Nat) (operand : Expression) : Reader Expression :=
  match fuel with
  | 0 => refuse "template exceeds maximum recursion limits"
  | fuel + 1 => do
    if ← skipSymbol .pipe then
      let (name, line) ← takeDottedName fuel
      let arguments ← if ← atSymbol .parenOpen then readArguments fuel else pure []
      readFilters fuel (.filter name operand arguments line)
    else if ← skipWord ["is"] then
      let start ← nextLine
      let negated ← skipWord ["not"]
      let (name, line) ← takeDottedName fuel
      let arguments ←
        if ← atSymbol .parenOpen then readArguments fuel
        else if (← peek?).any startsTestArgument then
          let here ← nextLine
          let argument ← readSigned fuel
          let argument ← readPostfix fuel argument here
          pure [.positional argument]
        else pure []
      let test := Expression.test name operand arguments line
      readFilters fuel (if negated then .unary .not test start else test)
    else return operand

/-- Arguments between parentheses. -/
def readArguments (fuel : Nat) : Reader (List Argument) :=
  match fuel with
  | 0 => refuse "template exceeds maximum recursion limits"
  | fuel + 1 => do
    expectSymbol .parenOpen "an opening parenthesis"
    let arguments ← readArgumentList fuel false false
    if arguments.length > argumentLimit then
      refuse "too many arguments in function call"
    return arguments

/-- The arguments up to the closing parenthesis. -/
def readArgumentList (fuel : Nat) (some : Bool) (keywords : Bool) : Reader (List Argument) :=
  match fuel with
  | 0 => refuse "template exceeds maximum recursion limits"
  | fuel + 1 => do
    if ← skipSymbol .parenClose then return []
    if some then
      expectSymbol .comma "a comma"
      if ← skipSymbol .parenClose then return []
    if ← skipSymbol .pow then
      let values ← readExpression fuel
      return .spreadKeywords values :: (← readArgumentList fuel true true)
    if ← skipSymbol .times then
      let values ← readExpression fuel
      return .spread values :: (← readArgumentList fuel true keywords)
    let value ← readExpression fuel
    match value with
    | .name name _ =>
      if ← skipSymbol .assign then
        let value ← readExpression fuel
        return .keyword name value :: (← readArgumentList fuel true true)
    | _ => pure ()
    if keywords then refuse "non-keyword arg after keyword arg"
    return .positional value :: (← readArgumentList fuel true false)

/-- A constant, a name, or something in brackets. -/
def readPrimary (fuel : Nat) : Reader Expression :=
  match fuel with
  | 0 => refuse "template exceeds maximum recursion limits"
  | fuel + 1 => do
    let line ← nextLine
    match ← take with
    | .word name =>
      match namedConstant? name with
      | some value => return .constant value line
      | none => return .name name line
    | .string value => return .constant (.text (value ++ (← readTexts fuel))) line
    | .int value => return .constant (.int value) line
    | .float value => return .constant (.float value) line
    | .symbol .parenOpen =>
      if ← skipSymbol .parenClose then return .list [] line
      let first ← readExpression fuel
      if ← atSymbol .comma then
        return .list (first :: (← readItems fuel .parenClose true)) line
      expectSymbol .parenClose "a closing parenthesis"
      return first
    | .symbol .bracketOpen => return .list (← readItems fuel .bracketClose false) line
    | .symbol .braceOpen => return .map (← readEntries fuel false) line
    | _ => refuse "unexpected token"

/-- The texts that follow a text directly, as one. -/
def readTexts (fuel : Nat) : Reader String :=
  match fuel with
  | 0 => refuse "template exceeds maximum recursion limits"
  | fuel + 1 => do
    match ← peek? with
    | some (.string value) =>
      let _ ← take?
      return value ++ (← readTexts fuel)
    | _ => return ""

/-- Items up to a closing bracket; `some` says that there was an item before. -/
def readItems (fuel : Nat) (closing : Symbol) (some : Bool) : Reader (List Expression) :=
  match fuel with
  | 0 => refuse "template exceeds maximum recursion limits"
  | fuel + 1 => do
    if ← skipSymbol closing then return []
    if some then
      expectSymbol .comma "a comma"
      if ← skipSymbol closing then return []
    let item ← readExpression fuel
    return item :: (← readItems fuel closing true)

/-- Keys and values up to the closing brace; `some` says that there was one before. -/
def readEntries (fuel : Nat) (some : Bool) : Reader (List (Expression × Expression)) :=
  match fuel with
  | 0 => refuse "template exceeds maximum recursion limits"
  | fuel + 1 => do
    if ← skipSymbol .braceClose then return []
    if some then
      expectSymbol .comma "a comma"
      if ← skipSymbol .braceClose then return []
    let key ← readExpression fuel
    expectSymbol .colon "a colon"
    let value ← readExpression fuel
    return (key, value) :: (← readEntries fuel true)

end

/-! ## Statements -/

/-- The attributes after a name that something is assigned to. -/
def readTargetAttributes (fuel : Nat) (owner : Expression) (target : Target) : Reader Target :=
  match fuel with
  | 0 => refuse "template exceeds maximum recursion limits"
  | fuel + 1 => do
    if ← skipSymbol .dot then
      let (name, _) ← takeName
      readTargetAttributes fuel (.attribute owner name) (.attribute owner name)
    else return target

/-- Whether the next token ends a target. -/
def atTargetEnd : Reader Bool := do
  match ← peek? with
  | some (.symbol .parenClose) | some .statementEnd | some .outputEnd | some (.word "in") =>
    return true
  | _ => return false

mutual

/-- A target: parts with commas between them. One part without a comma after it stands for itself;
    there may be no part at all. `dotted` says whether attributes can be assigned to. -/
def readTarget (fuel : Nat) (dotted : Bool) : Reader Target :=
  match fuel with
  | 0 => refuse "template exceeds maximum recursion limits"
  | fuel + 1 => do
    let line ← nextLine
    if ← atTargetEnd then return .tuple [] line
    let first ← readTargetItem fuel dotted
    if ← atSymbol .comma then
      return .tuple (first :: (← readTargetTail fuel dotted)) line
    return first

/-- One part of a target. -/
def readTargetItem (fuel : Nat) (dotted : Bool) : Reader Target :=
  match fuel with
  | 0 => refuse "template exceeds maximum recursion limits"
  | fuel + 1 => do
    if ← skipSymbol .parenOpen then
      let inner ← readTarget fuel dotted
      expectSymbol .parenClose "a closing parenthesis"
      return inner
    let line ← nextLine
    let name ← takeTargetName
    if dotted then readTargetAttributes fuel (.name name line) (.name name)
    else return .name name

/-- The parts of a target after its first part. -/
def readTargetTail (fuel : Nat) (dotted : Bool) : Reader (List Target) :=
  match fuel with
  | 0 => refuse "template exceeds maximum recursion limits"
  | fuel + 1 => do
    unless ← skipSymbol .comma do return []
    if ← atTargetEnd then return []
    let item ← readTargetItem fuel dotted
    return item :: (← readTargetTail fuel dotted)

end

/-- The value of an assignment, up to the end of the tag: an expression, or several with commas
    between them, which make a list. -/
def readAssigned (fuel : Nat) : Reader Expression := do
  let line ← nextLine
  let first ← readExpression fuel
  if ← atSymbol .comma then return .list (first :: (← readMore fuel)) line
  return first
where
  /-- The expressions after the first one. -/
  readMore (fuel : Nat) : Reader (List Expression) :=
    match fuel with
    | 0 => refuse "template exceeds maximum recursion limits"
    | fuel + 1 => do
      unless ← skipSymbol .comma do return []
      if ← atStatementEnd then return []
      let item ← readExpression fuel
      return item :: (← readMore fuel)

/-- The filters of a chain up to the end of the tag. -/
def readFilterChain (fuel : Nat) (some : Bool) : Reader (List FilterCall) :=
  match fuel with
  | 0 => refuse "template exceeds maximum recursion limits"
  | fuel + 1 => do
    if ← atStatementEnd then
      if some then return [] else refuse "expected a filter"
    if some then expectSymbol .pipe "a pipe"
    let (name, line) ← takeDottedName fuel
    let arguments ← if ← atSymbol .parenOpen then readArguments fuel else pure []
    return ⟨name, arguments, line⟩ :: (← readFilterChain fuel true)

/-- The parameters of a routine up to the closing parenthesis, and the defaults of the last of
    them. -/
def readParameters (fuel : Nat) (some : Bool) (defaults : List Expression) :
    Reader (List String × List Expression) :=
  match fuel with
  | 0 => refuse "template exceeds maximum recursion limits"
  | fuel + 1 => do
    if ← skipSymbol .parenClose then return ([], defaults)
    if some then
      expectSymbol .comma "a comma"
      if ← skipSymbol .parenClose then return ([], defaults)
    let name ← takeTargetName
    let defaults ←
      if ← skipSymbol .assign then
        let value ← readExpression fuel
        pure (defaults ++ [value])
      else if defaults.isEmpty then pure []
      else
        expectSymbol .assign "an equals sign"
        pure defaults
    let (names, defaults) ← readParameters fuel true defaults
    return (name :: names, defaults)

/-- The assignments of a scope up to the end of the tag. -/
def readScopeAssignments (fuel : Nat) (some : Bool) : Reader (List (Target × Expression)) :=
  match fuel with
  | 0 => refuse "template exceeds maximum recursion limits"
  | fuel + 1 => do
    if ← atStatementEnd then return []
    if some then expectSymbol .comma "a comma"
    let target ← readTargetItem fuel false
    expectSymbol .assign "assignment operator"
    let value ← readExpression fuel
    return (target, value) :: (← readScopeAssignments fuel true)

/-- The words `with context` or `without context`, which mean nothing, if they come next. -/
def skipContextWords : Reader Bool := do
  let found ← skipWord ["with", "without"]
  if found then expectWord "context"
  return found

/-- The names that a statement takes over from another template, up to the end of the tag. -/
def readImports (fuel : Nat) (some : Bool) : Reader (List Import) :=
  match fuel with
  | 0 => refuse "template exceeds maximum recursion limits"
  | fuel + 1 => do
    if ← atStatementEnd then return []
    if some then
      expectSymbol .comma "a comma"
      if ← atStatementEnd then return []
    let line ← nextLine
    let name ← takeTargetName
    let known ← if ← skipWord ["as"] then takeTargetName else pure name
    let others ← if ← skipContextWords then pure [] else readImports fuel true
    return ⟨name, line, known⟩ :: others

mutual

/-- The target that an expression stands for: names, attributes, and lists of those. -/
def Expression.target? : Expression → Option Target
  | .name name _ => some (.name name)
  | .attribute owner name => some (.attribute owner name)
  | .list items line => (expressionTargets? items).map fun targets => .tuple targets line
  | _ => none

/-- The targets that some expressions stand for. -/
def expressionTargets? : List Expression → Option (List Target)
  | [] => some []
  | item :: rest => do
    let target ← item.target?
    return target :: (← expressionTargets? rest)

end

/-- Whether a statement is text that consists of blanks. -/
def isBlankText : Statement → Bool
  | .text raw _ => raw.toList.all Text.isBlank
  | _ => false

mutual

/-- Statements up to a tag that starts with one of the ending words, or up to the end. The opening
    delimiter of that tag is taken, the word is not. -/
def readStatements (fuel : Nat) (endings : List String) : Reader (List Statement) :=
  match fuel with
  | 0 => refuse "template exceeds maximum recursion limits"
  | fuel + 1 => do
    let line ← nextLine
    match ← take? with
    | none => return []
    | some (.text raw) => return .text raw line :: (← readStatements fuel endings)
    | some .outputStart =>
      let value ← readExpression fuel
      match ← peek? with
      | some .outputEnd =>
        let _ ← take?
        return .output value :: (← readStatements fuel endings)
      | some _ => refuse "expected end of variable block"
      | none => refuseEnd
    | some .statementStart =>
      match ← peek? with
      | none => refuseEnd
      | some _ =>
        if ← atWord endings then return []
        let statement ← nested (readStatement fuel)
        expectStatementEnd
        return statement :: (← readStatements fuel endings)
    | some _ => refuse "unexpected token"

/-- The statement after the opening delimiter of its tag, up to but not including the closing
    delimiter of its last tag. -/
def readStatement (fuel : Nat) : Reader Statement :=
  match fuel with
  | 0 => refuse "template exceeds maximum recursion limits"
  | fuel + 1 => do
    let line ← nextLine
    match ← take with
    | .word "for" => readFor fuel
    | .word "if" => readIf fuel
    | .word "with" =>
      let assignments ← readScopeAssignments fuel false
      expectStatementEnd
      let body ← readStatements fuel ["endwith"]
      let _ ← take?
      return .scope assignments body line
    | .word "set" =>
      let target ← readTarget fuel true
      if (← atStatementEnd) || (← atSymbol .pipe) then
        let filters ←
          if ← skipSymbol .pipe then readFilterChain fuel false else pure []
        expectStatementEnd
        let body ← readStatements fuel ["endset"]
        let _ ← take?
        return .assignText target filters body line
      expectSymbol .assign "assignment operator"
      return .assign target (← readAssigned fuel)
    | .word "autoescape" =>
      let mode ← readExpression fuel
      expectStatementEnd
      let body ← readStatements fuel ["endautoescape"]
      let _ ← take?
      return .escaping mode body
    | .word "filter" =>
      let filters ← readFilterChain fuel false
      expectStatementEnd
      let body ← readStatements fuel ["endfilter"]
      let _ ← take?
      return .filtered filters body line
    | .word "block" => readBlock fuel line
    | .word "extends" => return .extend (← readExpression fuel)
    | .word "include" =>
      let source ← readExpression fuel
      let early ← skipContextWords
      let ignoreMissing ← skipWord ["ignore"]
      if ignoreMissing then
        expectWord "missing"
        unless early do
          let _ ← skipContextWords
      return .embed source ignoreMissing
    | .word "import" =>
      let source ← readExpression fuel
      expectWord "as"
      let target ← readExpression fuel
      let _ ← skipContextWords
      match target.target? with
      | some target => return .importAll source target
      | none => refuse "cannot assign to this expression"
    | .word "from" =>
      let source ← readExpression fuel
      expectWord "import"
      return .importNames source (← readImports fuel false)
    | .word "macro" =>
      let (name, _) ← takeName
      expectSymbol .parenOpen "an opening parenthesis"
      let (parameters, defaults) ← readParameters fuel false []
      let body ← readRoutineBody fuel "endmacro"
      return .routine name parameters defaults body line
    | .word "call" =>
      let (parameters, defaults) ←
        if ← skipSymbol .parenOpen then readParameters fuel false [] else pure ([], [])
      match ← readExpression fuel with
      | .call callee arguments callLine =>
        let body ← readRoutineBody fuel "endcall"
        return .callWith callee arguments callLine parameters defaults body line
      | _ => refuse "expected call expression in call block"
    | .word "do" =>
      match ← readExpression fuel with
      | .call callee arguments line => return .perform (.call callee arguments line)
      | _ => refuse "expected call expression in call block"
    | .word name => refuse ("unknown statement " ++ name)
    | _ => refuse "expected statement"

/-- A loop after its first word. -/
def readFor (fuel : Nat) : Reader Statement :=
  match fuel with
  | 0 => refuse "template exceeds maximum recursion limits"
  | fuel + 1 => do
    let target ← readTarget fuel false
    expectWord "in"
    let items ← readBinary fuel .or
    let condition ← if ← skipWord ["if"] then (readExpression fuel).map some else pure none
    let recursive ← skipWord ["recursive"]
    expectStatementEnd
    let body ← readStatements fuel ["endfor", "else"]
    let other ←
      if ← skipWord ["else"] then
        expectStatementEnd
        readStatements fuel ["endfor"]
      else pure []
    let _ ← take?
    return .forLoop target items condition recursive body other

/-- A condition after its first word, with the alternatives that follow it. -/
def readIf (fuel : Nat) : Reader Statement :=
  match fuel with
  | 0 => refuse "template exceeds maximum recursion limits"
  | fuel + 1 => do
    let condition ← readBinary fuel .or
    expectStatementEnd
    let yes ← readStatements fuel ["endif", "else", "elif"]
    match ← take? with
    | some (.word "else") =>
      expectStatementEnd
      let no ← readStatements fuel ["endif"]
      let _ ← take?
      return .choice condition yes no
    | some (.word "elif") => return .choice condition yes [← readIf fuel]
    | _ => return .choice condition yes []

/-- A block after its first word, which stands on `line`. A block that others have to fill holds nothing
    but blanks. -/
def readBlock (fuel : Nat) (line : Nat) : Reader Statement :=
  match fuel with
  | 0 => refuse "template exceeds maximum recursion limits"
  | fuel + 1 => do
    if (← get).inRoutine then refuse "block tags in macros are not allowed"
    let (name, _) ← takeName
    if (← get).blocks.contains name then
      refuse ("block '" ++ name ++ "' defined twice")
    modify fun reading => { reading with blocks := name :: reading.blocks }
    let _ ← skipWord ["scoped"]
    let required ← skipWord ["required"]
    expectStatementEnd
    let body ← readStatements fuel ["endblock"]
    if required && !body.all isBlankText then
      refuse "required blocks can only contain comments or whitespace"
    let _ ← take?
    match ← peek? with
    | some (.word trailing) =>
      if trailing = name then
        let _ ← take?
      else refuse "mismatching name on block"
    | _ => pure ()
    return .block name (if required then [.unfilled name] else body) line

/-- The body of a routine from the end of its first tag on. -/
def readRoutineBody (fuel : Nat) (ending : String) : Reader (List Statement) :=
  match fuel with
  | 0 => refuse "template exceeds maximum recursion limits"
  | fuel + 1 => do
    expectStatementEnd
    let inRoutine := (← get).inRoutine
    modify fun reading => { reading with inRoutine := true }
    let body ← readStatements fuel [ending]
    modify fun reading => { reading with inRoutine }
    let _ ← take?
    return body

end

/-- The depth of calls that is enough for a number of tokens: between two tokens a reader passes
    through every level of expressions at most twice. -/
def readingDepth (count : Nat) : Nat :=
  48 * (count + 1)

/-- The statements of a line format. -/
def readTemplate (text : String) : Except Fault (List Statement) :=
  let stream := tokens text
  let reading : Reading :=
    { tokens := stream.tokens, fault := stream.fault, lastLine := 1, nesting := 0,
      inRoutine := false, blocks := [] }
  (readStatements (readingDepth stream.tokens.length) []).run' reading

end Codebook.Template
