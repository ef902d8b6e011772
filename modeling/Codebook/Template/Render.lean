import Codebook.Template.Function
import Codebook.Template.Line
import Codebook.Template.Mention
import Codebook.Template.Parse

/-!
# Rendering a line format

The tree of a line format is carried out: expressions to values, statements to output. Both follow
the tree by structural recursion. What leaves the tree, a call of a routine, a loop started again
from inside itself, a block called by name, goes through `enter`, which carries out the body
elsewhere in the tree. Every entry needs frames, so the limit on frames is a bound on how many
entries can be inside one another, and `enterWithin` gives up at that bound with the same fault.

An operand waits while those after it are evaluated. Nothing else waits in between, with one
exception: a loop with another part that is started again leaves there whether it had nothing to go
through, in front of its text. An operation that takes its operands then takes this for one of them.
-/

namespace Codebook.Template

/-- The parts of a line format that are carried out from elsewhere. -/
inductive Entry where
  | routine (routine : Routine) (closure : Nat) (takesCaller : Bool) (values : List Value)
  | again (loop : Repeatable) (items : Value)
  | block (body : List Statement)

/-- How entries are carried out. -/
abbrev Entering := Entry → Rendering Value

/-! ## Calls -/

/-- Calls a value. -/
def callValue (enter : Entering) (callee : Value) (values : List Value) : Rendering Value :=
  match callee with
  | .routine declared closure takesCaller =>
    enter (.routine declared closure takesCaller values)
  | .function name => do identified (← callFunction name values)
  | other =>
    throw (.about .invalidOperation ("value of type " ++ other.kind.word ++ " is not callable"))

/-- Whether some values are others than those that a loop was asked about the last time. -/
def loopChanged (cell : Nat) (values : List Value) : Rendering Value := do
  match ← loopIn? cell with
  | some state =>
    let values ← values.mapM renewed
    writeCell cell (.loop { state with seen := some values })
    return .bool (!state.seen.any fun seen => (Value.ofItems seen).equal (.ofItems values))
  | none => return .undefined

/-- Calls the item of a value under a name. Loops take turns among values, and know whether values
    have changed. -/
def callMethod (enter : Entering) (owner : Value) (name : String) (values : List Value) :
    Rendering Value := do
  match owner, name with
  | .loop cell _, "changed" => loopChanged cell values
  | .loop _ _, "cycle" =>
    let index := ((← itemOf owner (.ofText "index0")).asCount?).getD 0
    return orUndefined values[index % values.length]?
  | _, _ =>
    match (← get).surroundings.item? owner (.ofText name) with
    | some callee => callValue enter callee values
    | none =>
      throw (.about .unknownMethod (owner.kind.word ++ " has no method named " ++ name))

/-- Starts the loop in a cell again on other items, wherever that is asked for. -/
def loopAgain (enter : Entering) (cell : Nat) (values : List Value) : Rendering Value := do
  match values with
  | [items] =>
    match (← loopIn? cell).bind LoopState.again with
    | some loop => enter (.again loop items)
    | none => throw (.about .invalidOperation "cannot recurse outside of recursive loop")
  | _ => throw (.about .invalidOperation "loop() takes one argument")

/-- The fault of a call of something that is not known. -/
def unknownFunction (name : String) : Fault :=
  .about .unknownFunction (name ++ " is unknown")

/-- Calls what a name stands for. A name that stands for nothing or for an undefined value is not
    known. A loop can be called only by a name. -/
def callName (enter : Entering) (name : String) (values : List Value) : Rendering Value := do
  if name = "super" then throw (.about .invalidOperation "cannot super outside of block")
  else
    match ← valueOf? name with
    | none | some .undefined => throw (unknownFunction name)
    | some (.loop cell _) => loopAgain enter cell values
    | some callee => callValue enter callee values

/-- Calls a block by its name. -/
def callBlock (enter : Entering) (name : String) : Rendering Value := do
  match (← get).blocks.lookup name with
  | some body => enter (.block body)
  | none => throw (.about .unknownBlock ("block '" ++ name ++ "' not found"))

/-- What a filter makes of some values. -/
def callFilter (name : String) (values : List Value) : Rendering Value := do
  let values ← values.mapM renewed
  match applyFilter? (values.length + 1) (← get).surroundings name values with
  | some result => identified (← result)
  | none => throw (.about .unknownFilter ("filter " ++ name ++ " is unknown"))

/-- What a test answers about some values. -/
def callTest (name : String) (values : List Value) : Rendering Value := do
  let values ← values.mapM renewed
  match applyTest? filterNames name values with
  | some answer => return .bool (← answer)
  | none => throw (.about .unknownTest ("test " ++ name ++ " is unknown"))

/-! ## Arguments -/

/-- How many values an argument leaves waiting among those passed by place. -/
def Argument.placed : Argument → Nat
  | .positional _ | .spread _ => 1
  | .keyword _ _ | .spreadKeywords _ => 0

/-- How many values an argument leaves waiting among those passed by name: a key and a value, or a
    whole map. -/
def Argument.named : Argument → Nat
  | .positional _ | .spread _ => 0
  | .keyword _ _ => 2
  | .spreadKeywords _ => 1

/-- The values passed by place, where some are the items of others. -/
def placedValues : List Argument → List Value → Except Fault (List Value)
  | .positional _ :: rest, value :: values => return value :: (← placedValues rest values)
  | .spread _ :: rest, value :: values => return (← value.iterate) ++ (← placedValues rest values)
  | _ :: rest, values => placedValues rest values
  | [], _ => return []

/-- The entries passed by name, where some are those of a map. -/
def namedEntries : List Argument → List Value → Except Fault (List (Value × Value))
  | .keyword _ _ :: rest, key :: value :: values =>
    return (key, value) :: (← namedEntries rest values)
  | .spreadKeywords _ :: rest, value :: values =>
    match value.entries? with
    | some entries => return entries ++ (← namedEntries rest values)
    | none =>
      throw (.about .invalidOperation
        ("attempted to apply keyword arguments from non map (got " ++ value.kind.word ++ ")"))
  | _ :: rest, values => namedEntries rest values
  | [], _ => return []

/-- What arguments pass, taken from the values that wait. What is passed by name, the routine
    `caller` last, stands together in one value at the end. -/
def takePassed (arguments : List Argument) (caller : Option Value) : Rendering (List Value) := do
  let namedCount := arguments.foldl (fun count argument => count + argument.named) 0
  let placedCount := arguments.foldl (fun count argument => count + argument.placed) 0
  let named ← (← takeWaiting namedCount).mapM opened
  let placed ← (← takeWaiting placedCount).mapM opened
  let entries ← namedEntries arguments named
  let values ← placedValues arguments placed
  match caller with
  | some caller =>
    return values ++ [.keywords (sortedEntries (entries ++ [(.ofText "caller", caller)]))]
  | none =>
    if namedCount = 0 then return values
    else return values ++ [.keywords (sortedEntries entries)]

/-! ## Expressions -/

mutual

/-- The value of an expression. -/
def evaluate (enter : Entering) (expression : Expression) : Rendering Value :=
  match expression with
  | .constant value _ => return value.value
  | .name name _ => return orUndefined (← valueOf? name)
  | .unary operator operand _ => do
    operator.apply (← opened (← evaluate enter operand))
  | .binary .and left right line => do
    match (Expression.binary .and left right line).constant? with
    | some value => return value
    | none =>
      let value ← evaluate enter left
      if ← holds value then evaluate enter right else return value
  | .binary .or left right _ => do
    let value ← evaluate enter left
    if ← holds value then return value else evaluate enter right
  | .binary operator left right _ => do
    wait (← evaluate enter left)
    let right ← evaluate enter right
    operator.apply (← renewed (← takeLast)) (← renewed right)
  | .comparisons first others _ => do
    wait (← evaluate enter first)
    evaluateRow enter others
  | .choice condition yes no => do
    if ← holds (← evaluate enter condition) then evaluate enter yes else evaluate enter no
  | .filter name operand arguments _ => do
    wait (← evaluate enter operand)
    awaitPlaced enter arguments
    awaitNamed enter arguments
    let passed ← takePassed arguments none
    let operand ← takeLast
    onLine (expression.lineAfter 0) (callFilter name (operand :: passed))
  | .test name operand arguments _ => do
    wait (← evaluate enter operand)
    awaitPlaced enter arguments
    awaitNamed enter arguments
    let passed ← takePassed arguments none
    let operand ← takeLast
    onLine (expression.lineAfter 0) (callTest name (operand :: passed))
  | .attribute operand name => do
    itemOf (← evaluate enter operand) (.ofText name)
  | .item operand key => do
    wait (← evaluate enter operand)
    let key ← evaluate enter key
    itemOf (← takeLast) key
  | .slice operand start stop step => do
    wait (← evaluate enter operand)
    wait (← evaluate enter start)
    wait (← evaluate enter stop)
    let step ← evaluate enter step
    let stop ← takeLast
    let start ← takeLast
    (← takeLast).slice start stop step
  | .call callee arguments _ => do
    let line := expression.lineAfter 0
    match callee with
    | .name name _ =>
      awaitPlaced enter arguments
      awaitNamed enter arguments
      let passed ← takePassed arguments none
      onLine line (callName enter name passed)
    | .attribute (.name "self" _) name => onLine line (callBlock enter name)
    | .attribute owner name =>
      wait (← evaluate enter owner)
      awaitPlaced enter arguments
      awaitNamed enter arguments
      let passed ← takePassed arguments none
      let owner ← takeLast
      onLine line (callMethod enter owner name passed)
    | other =>
      wait (← evaluate enter other)
      awaitPlaced enter arguments
      awaitNamed enter arguments
      let passed ← takePassed arguments none
      let callee ← takeLast
      onLine line (callValue enter callee passed)
  | .list items _ => do
    awaitItems enter items
    identified (.ofItems (← takeWaiting items.length))
  | .map entries _ => do
    awaitEntries enter entries
    identified (.ofEntries (pairsOf (← takeWaiting (2 * entries.length))))

/-- The answer of a row of comparisons, each between the operand that waits and the next one: all
    have to hold. What comes after one that does not is not evaluated. -/
def evaluateRow (enter : Entering) : List (Comparison × Expression) → Rendering Value
  | [] => do
    let _ ← takeLast
    return .bool true
  | (comparison, operand) :: rest => do
    let right ← evaluate enter operand
    if ← comparison.apply (← renewed (← takeLast)) (← renewed right) then
      wait right
      evaluateRow enter rest
    else return .bool false

/-- Evaluates the items of a list. The values wait. -/
def awaitItems (enter : Entering) : List Expression → Rendering Unit
  | [] => return
  | item :: rest => do
    wait (← evaluate enter item)
    awaitItems enter rest

/-- Evaluates the entries of a map. Every key waits before its value. -/
def awaitEntries (enter : Entering) : List (Expression × Expression) → Rendering Unit
  | [] => return
  | (key, value) :: rest => do
    wait (← renewed (← evaluate enter key))
    wait (← evaluate enter value)
    awaitEntries enter rest

/-- Evaluates what is passed by place. The values wait. -/
def awaitPlaced (enter : Entering) : List Argument → Rendering Unit
  | [] => return
  | .positional value :: rest => do
    wait (← evaluate enter value)
    awaitPlaced enter rest
  | .spread values :: rest => do
    wait (← evaluate enter values)
    awaitPlaced enter rest
  | .keyword _ _ :: rest => awaitPlaced enter rest
  | .spreadKeywords _ :: rest => awaitPlaced enter rest

/-- Evaluates what is passed by name. Every key waits before its value. -/
def awaitNamed (enter : Entering) : List Argument → Rendering Unit
  | [] => return
  | .keyword name value :: rest => do
    wait (.ofText name)
    wait (← evaluate enter value)
    awaitNamed enter rest
  | .spreadKeywords values :: rest => do
    wait (← evaluate enter values)
    awaitNamed enter rest
  | .positional _ :: rest => awaitNamed enter rest
  | .spread _ :: rest => awaitNamed enter rest

end

/-- Evaluates all that arguments pass. The values wait, those passed by name last. -/
def awaitArguments (enter : Entering) (arguments : List Argument) : Rendering Unit := do
  awaitPlaced enter arguments
  awaitNamed enter arguments

/-- Applies a chain of filters to a text. Before the first filter is applied, the lines of all have
    been passed from the last to the first. -/
def applyFilters (enter : Entering) (line : Nat) (value : Value) :
    List FilterCall → Rendering Value
  | [] => return value
  | filter :: rest => do
    wait value
    awaitArguments enter filter.arguments
    let passed ← takePassed filter.arguments none
    let value ← takeLast
    let here := linesAfterArguments line filter.arguments
    let changed ← onLine here (callFilter filter.name (value :: passed))
    applyFilters enter here changed rest

/-- The line that is current before the first of a chain of filters. -/
def chainLine (filters : List FilterCall) : Nat :=
  (filters.head?.map FilterCall.line).getD 0

/-! ## Assignments -/

/-- Gives an attribute of a namespace a value. -/
def assignAttribute (owner : Value) (name : String) (value : Value) : Rendering Unit :=
  match owner with
  | .namespace index _ => storeIn index name value
  | other =>
    throw (.about .invalidOperation
      ("can only assign to namespaces, not " ++ other.kind.word))

/-- The items of a value that is taken apart into `count` parts. -/
def unpack (count : Nat) (value : Value) : Except Fault (List Value) :=
  match value.items?.or (value.entries?.map fun entries => entries.map Prod.fst) with
  | some items =>
    if items.length = count then return items
    else
      throw (.about .cannotUnpack
        ("sequence of wrong length (expected " ++ toString count ++ ", got " ++
          toString items.length ++ ")"))
  | none => throw (.about .cannotUnpack "value is not iterable")

mutual

/-- Gives a target a value. -/
def assign (enter : Entering) (target : Target) (value : Value) : Rendering Unit :=
  match target with
  | .name name => store name value
  | .attribute owner name => do
    wait value
    let owner ← evaluate enter owner
    assignAttribute owner name (← takeLast)
  | .tuple targets _ => do
    assignAll enter targets (← unpack targets.length (← opened value))

/-- Gives targets their values one after the other. -/
def assignAll (enter : Entering) : List Target → List Value → Rendering Unit
  | [], _ => return
  | _, [] => return
  | target :: targets, value :: values => do
    assign enter target value
    assignAll enter targets values

end

/-- The items of a value that satisfy the condition of a loop. -/
def keepItems (enter : Entering) (target : Target) (condition : Expression) (items : Items) :
    Rendering Items := do
  let answers ← loopOver false none items fun item => do
    assign enter target item
    holds (← evaluate enter condition)
  return ⟨((items.values.zip answers).filter Prod.snd).map Prod.fst, true⟩

/-- The value of a routine that is declared here. -/
def declare (routine : Routine) : Rendering Value := do
  let mentions := routine.mentions
  (mentions.filter (· ≠ "caller")).forM capture
  return .routine routine (← closureCell) (mentions.contains "caller")

/-- Looks for another template, of which there are none. Where there are several names, as in a
    list, all of them are tried. -/
def embed (source : Value) (ignoreMissing : Bool) : Except Fault Unit :=
  let names : List Value :=
    match source.kind with
    | .list | .map | .sequence | .object => (source.iterate?.map Items.values).getD []
    | _ => [source]
  if names.any fun name => name.asText?.isNone then
    throw (.about .invalidOperation "template name was not a string")
  else if ignoreMissing || names.isEmpty then return
  else throw (.about .templateNotFound "tried to include a template that does not exist")

/-! ## Statements -/

/-- The value of a call to which a routine is passed by the name `caller`. The routine is declared
    after everything else that is passed has been evaluated. -/
def evaluateCallWith (enter : Entering) (line : Nat) (callee : Expression)
    (arguments : List Argument) (caller : Routine) : Rendering Value := do
  let passed : Rendering (List Value) := do
    awaitArguments enter arguments
    let caller ← declare caller
    takePassed arguments (some caller)
  match callee with
  | .name name _ =>
    let passed ← passed
    onLine line (callName enter name passed)
  | .attribute (.name "self" _) name => onLine line (callBlock enter name)
  | .attribute owner name =>
    wait (← evaluate enter owner)
    let passed ← passed
    let owner ← takeLast
    onLine line (callMethod enter owner name passed)
  | other =>
    wait (← evaluate enter other)
    let passed ← passed
    let callee ← takeLast
    onLine line (callValue enter callee passed)

/-- Puts out what the loop named `loop` gives when it is started again. Here the name has to stand for
    a loop, and the items of a value that are passed cannot be what the loop goes through. -/
def performAgain (enter : Entering) (line : Nat) (argument : Argument) : Rendering Unit := do
  awaitArguments enter [argument]
  let passed ← takePassed [argument] none
  onLine line do
    match ← valueOf? "loop", argument with
    | some (.loop _ _), .spread _ => throw (notIterable (.int passed.length))
    | some (.loop cell _), _ => emit (← loopAgain enter cell passed)
    | _, _ => throw (unknownFunction "loop")

mutual

/-- Carries out a statement. -/
def perform (enter : Entering) (statement : Statement) : Rendering Unit :=
  match statement with
  | .text raw _ => emitText raw
  | .output value =>
    match value with
    | .call (.name "loop" _) [argument] _ => performAgain enter (value.lineAfter 0) argument
    | value => do emit (← evaluate enter value)
  | .forLoop target items condition recursive body other => do
    let items ← (← opened (← evaluate enter items)).iterateCounted
    let items ←
      match condition with
      | none => pure items
      | some condition => keepItems enter target condition items
    let again := if recursive then some ⟨target, body, !other.isEmpty⟩ else none
    let _ ← loopOver true again items fun item => do
      assign enter target item
      performAll enter body
    if items.values.isEmpty then performAll enter other
  | .choice condition yes no => do
    if ← holds (← evaluate enter condition) then performAll enter yes else performAll enter no
  | .scope assignments body _ =>
    inFrame .empty do
      assignments.forM fun (target, value) => do
        assign enter target (← evaluate enter value)
      performAll enter body
  | .assign target value => do
    assign enter target (← evaluate enter value)
  | .assignText target filters body _ => do
    let value ← captured (performAll enter body)
    assign enter target (← applyFilters enter (chainLine filters) value filters)
  | .escaping mode body => do
    let mode ← escapingMode (← evaluate enter mode)
    let before := (← get).escaping
    modify fun machine => { machine with escaping := mode }
    performAll enter body
    modify fun machine => { machine with escaping := before }
  | .filtered filters body _ => do
    let value ← captured (performAll enter body)
    emit (← applyFilters enter (chainLine filters) value filters)
  | .block _ body _ => apart (inFrame .empty (performAll enter body))
  | .unfilled block =>
    throw (.about .invalidOperation ("required block '" ++ block ++ "' was not filled"))
  | .extend parent => do
    let parent ← evaluate enter parent
    if parent.asText?.isNone then
      throw (.about .invalidOperation "template name was not a string")
    else throw (.about .templateNotFound "template does not exist")
  | .embed source ignoreMissing => do
    embed (← opened (← evaluate enter source)) ignoreMissing
  | .importAll source target => do
    inFrame .empty do embed (← opened (← evaluate enter source)) false
    assign enter target (.ofEntries [])
  | .importNames source names => do
    let found ← inFrame .empty do
      embed (← opened (← evaluate enter source)) false
      names.mapM fun imported => return (imported.known, orUndefined (← valueOf? imported.name))
    found.reverse.forM fun (name, value) => store name value
  | .routine name parameters defaults body _ => do
    store name (← declare ⟨name, parameters, defaults, body⟩)
  | .callWith callee arguments _ parameters defaults body _ => do
    emit (← evaluateCallWith enter (statement.lineAfter 0) callee arguments
      ⟨"caller", parameters, defaults, body⟩)
  | .perform call => do
    let _ ← evaluate enter call

/-- Carries out statements one after the other. -/
def performAll (enter : Entering) : List Statement → Rendering Unit
  | [] => return
  | statement :: rest => do
    perform enter statement
    performAll enter rest

end

/-! ## Entries -/

/-- The values of the parameters of a routine: those passed by place, then those passed by name,
    and nothing for the others. What is passed in vain or twice is a fault, unless it is passed
    under a key that is no text. -/
def bindParameters (declared : Routine) (takesCaller : Bool) (values : List Value) :
    Except Fault (List (String × Value) × Value) := do
  let passed := Passed.ofValues values
  let named := passed.named.filterMap fun (key, value) => key.asText?.map fun name => (name, value)
  if passed.values.length > declared.parameters.length then throw (.plain .tooManyArguments)
  let bound ← declared.parameters.zipIdx.mapM fun (name, index) =>
    match passed.values[index]?, named.lookup name with
    | some _, some _ =>
      throw (.about .tooManyArguments ("duplicate argument " ++ name))
    | some value, none => return (name, value)
    | none, some value => return (name, value)
    | none, none => return (name, Value.undefined)
  let known := if takesCaller then "caller" :: declared.parameters else declared.parameters
  match named.find? fun (name, _) => !known.contains name with
  | some (name, _) => throw (.about .tooManyArguments ("unknown keyword argument " ++ name))
  | none => return (bound, orUndefined (named.lookup "caller"))

/-- The parameters of a routine with their values and defaults, from the last to the first. The
    last parameters are the ones with defaults. -/
def parametersBackwards (declared : Routine) (bound : List (String × Value)) :
    List ((String × Value) × Option Expression) :=
  let defaults := declared.defaults.reverse.map some
  bound.reverse.zip (defaults ++ List.replicate (bound.length - defaults.length) none)

/-- Carries out the body of a routine. It sees the data the line format is rendered with, the
    names that were captured where it was declared, and its parameters. -/
def performRoutine (enter : Entering) (declared : Routine) (closure : Nat) (takesCaller : Bool)
    (values : List Value) : Rendering Value := do
  let (bound, caller) ← bindParameters declared takesCaller values
  let before ← get
  let base := (before.frames.getLast?.map Frame.names).getD .undefined
  let locals := if takesCaller then [("caller", caller)] else []
  let inside : Machine :=
    { before with
      frames := [⟨locals, none, .namespace closure [], none⟩, ⟨[], none, base, none⟩]
      waiting := []
      outer := before.depth + callSurcharge
      output := ""
      blocks := [] }
  if inside.depth > frameLimit then throw tooDeep
  set inside
  (parametersBackwards declared bound).forM fun ((name, value), default) => do
    let value ←
      match value, default with
      | .undefined, some default => evaluate enter default
      | value, _ => pure value
    store name value
  performAll enter declared.body
  let after ← get
  set { before with cells := after.cells, identities := after.identities }
  return .text after.output after.escaping

/-- Carries out entries that are at most `fuel` inside one another. -/
def enterWithin : (fuel : Nat) → Entering
  | 0, _ => throw tooDeep
  | fuel + 1, entry =>
    let enter := enterWithin fuel
    match entry with
    | .routine declared closure takesCaller values =>
      performRoutine enter declared closure takesCaller values
    | .again loop items => do
      let items ← (← opened items).iterateCounted
      let text ← captured do
        let _ ← loopOver true (some loop) items fun item => do
          assign enter loop.target item
          performAll enter loop.body
      if loop.hasOther then wait (.bool items.values.isEmpty)
      return text
    | .block body => captured (apart (inFrame .empty (performAll enter body)))

/-! ## Line formats -/

mutual

/-- The blocks in a statement. -/
def Statement.blocks : Statement → List (String × List Statement)
  | .block name body _ => (name, body) :: blocksIn body
  | .forLoop _ _ _ _ body other => blocksIn body ++ blocksIn other
  | .choice _ yes no => blocksIn yes ++ blocksIn no
  | .scope _ body _ => blocksIn body
  | .assignText _ _ body _ => blocksIn body
  | .escaping _ body => blocksIn body
  | .filtered _ body _ => blocksIn body
  | _ => []

/-- The blocks in some statements. -/
def blocksIn : List Statement → List (String × List Statement)
  | [] => []
  | statement :: rest => statement.blocks ++ blocksIn rest

end

/-- The text that statements give with some data. -/
def renderStatements (statements : List Statement) (data : Value) : Except Fault String := do
  let (data, identities) := identifyWithin valueDepth data 0
  let machine : Machine :=
    { frames := [⟨[], none, data, none⟩], waiting := [], outer := 0, cells := #[], identities,
      output := "", escaping := false, blocks := blocksIn statements }
  let (_, machine) ← (performAll (enterWithin (frameLimit + 1)) statements).run machine
  return machine.output

/-- The text that a line format gives with some data. -/
def render (format : String) (data : Value) : Except Fault String := do
  renderStatements (← readTemplate format) data

end Codebook.Template
