import Codebook.Template.Filter
import Codebook.Template.Mention

/-!
# The state of rendering

While a line format is rendered, names are looked up in frames, of which the innermost comes first.
A frame holds the names assigned in it, the loop it belongs to, and a value whose items are names as
well, such as the data the line format is rendered with. Things that change are kept in numbered
cells that are never taken away: the running state of a loop, the names of a namespace, and the
names that the routines declared in a frame have captured.

Lists, maps and the like get a number of their own when they are written down, come from a filter or
a function, get a name, or are gone through by a loop. From then on they are the same wherever they
are taken.

A value that refers to a cell keeps a copy of what the cell held, which is brought up to date
before the value is compared, written out, or handed to a filter.

Operands wait while later ones are evaluated. Their number tells an operation which values are its
own: it takes as many as it has operands, the last ones first.

The number of frames is limited. A routine starts with frames of its own, so the frames of its
callers are counted in `outer`, together with a surcharge for every call.
-/

namespace Codebook.Template

/-- A loop that can be started again on other items. It may have another part for when there are
    none. -/
structure Repeatable where
  target : Target
  body : List Statement
  hasOther : Bool

/-- What a loop is about to do or has just done, and what is done again when it is called. Its length
    need not be known. -/
structure LoopState where
  index : Nat
  length : Option Nat
  depth : Nat
  again : Option Repeatable
  previous : Option Value
  next : Option Value
  seen : Option (List Value)

/-- What a cell holds. -/
inductive Cell where
  | names (entries : List (String × Value))
  | loop (state : LoopState)

/-- The loop that a frame belongs to. It can be hidden from names. -/
structure RunningLoop where
  cell : Nat
  visible : Bool

/-- A frame. -/
structure Frame where
  locals : List (String × Value)
  loop : Option RunningLoop
  names : Value
  closure : Option Nat

/-- A frame that knows no names. -/
def Frame.empty : Frame :=
  ⟨[], none, .undefined, none⟩

/-- The state of rendering. Frames are listed from the innermost to the outermost, waiting operands
    from the last to the first. `identities` objects have a number. -/
structure Machine where
  frames : List Frame
  waiting : List Value
  outer : Nat
  cells : Array Cell
  identities : Nat
  output : String
  escaping : Bool
  blocks : List (String × List Statement)

/-- Rendering. -/
abbrev Rendering (α : Type) := StateT Machine (Except Fault) α

/-- Reports the faults of an action on a line. -/
def onLine {α : Type} (line : Nat) (action : Rendering α) : Rendering α :=
  fun machine => (action machine).mapError fun fault => fault.at line

/-! ## Cells -/

/-- Puts something into a new cell. -/
def allocate (cell : Cell) : Rendering Nat :=
  modifyGet fun machine =>
    (machine.cells.size, { machine with cells := machine.cells.push cell })

/-- Puts something into a cell in place of what it held. -/
def writeCell (index : Nat) (cell : Cell) : Rendering Unit :=
  modify fun machine => { machine with cells := machine.cells.setIfInBounds index cell }

/-- The running state of the loop in a cell. -/
def loopIn? (index : Nat) : Rendering (Option LoopState) := do
  match (← get).cells[index]? with
  | some (.loop state) => return some state
  | _ => return none

/-- The names that a cell holds. -/
def namesIn (index : Nat) : Rendering (List (String × Value)) := do
  match (← get).cells[index]? with
  | some (.names entries) => return entries
  | _ => return []

/-- The entries in ascending order of their names, with one more or with one replaced. -/
def putName (name : String) (value : Value) : List (String × Value) → List (String × Value)
  | [] => [(name, value)]
  | (other, held) :: rest =>
    if name = other then (name, value) :: rest
    else if name < other then (name, value) :: (other, held) :: rest
    else (other, held) :: putName name value rest

/-- The value with a number for every object in it that has none. `depth` levels are looked at. -/
def identifyWithin (depth : Nat) (value : Value) : StateM Nat Value :=
  match depth with
  | 0 => return value
  | depth + 1 =>
    let all (items : List Value) : StateM Nat (List Value) := items.mapM (identifyWithin depth)
    let pairs (entries : List (Value × Value)) : StateM Nat (List (Value × Value)) :=
      entries.mapM fun (key, held) => do
        return (← identifyWithin depth key, ← identifyWithin depth held)
    let fresh : StateM Nat Identity := modifyGet fun next => (some next, next + 1)
    match value with
    | .list items Option.none => return .list (← all items) (← fresh)
    | .sequence items Option.none => return .sequence (← all items) (← fresh)
    | .stream items Option.none => return .stream (← all items) (← fresh)
    | .map entries Option.none => return .map (← pairs entries) (← fresh)
    | .group key members Option.none =>
      return .group (← identifyWithin depth key) (← all members) (← fresh)
    | .keywords entries => return .keywords (← pairs entries)
    | other => return other

/-- The value with a number for every object in it. -/
def identified (value : Value) : Rendering Value :=
  modifyGet fun machine =>
    let (value, identities) := identifyWithin valueDepth value machine.identities
    (value, { machine with identities })

/-- Gives a name in a cell a value. -/
def storeIn (index : Nat) (name : String) (value : Value) : Rendering Unit := do
  let value ← identified value
  writeCell index (.names (putName name value (← namesIn index)))

/-! ## Operands -/

/-- Lets a value wait. -/
def wait (value : Value) : Rendering Unit :=
  modify fun machine => { machine with waiting := value :: machine.waiting }

/-- Takes as many values as have waited least long, in the order in which they came. -/
def takeWaiting (count : Nat) : Rendering (List Value) :=
  modifyGet fun machine =>
    ((machine.waiting.take count).reverse,
      { machine with waiting := machine.waiting.drop count })

/-- Takes the value that has waited least long. -/
def takeLast : Rendering Value :=
  return (← takeWaiting 1).headD .undefined

/-- Values that come in pairs. -/
def pairsOf : List Value → List (Value × Value)
  | first :: second :: rest => (first, second) :: pairsOf rest
  | _ => []

/-- Performs an action with operands of its own. -/
def apart {α : Type} (action : Rendering α) : Rendering α := do
  let before := (← get).waiting
  modify fun machine => { machine with waiting := [] }
  let result ← action
  modify fun machine => { machine with waiting := before }
  return result

/-! ## Items -/

/-- What a running loop says about itself. How far it is from its end is undefined if its length is
    not known, and no item is known to be the last one then. -/
def LoopState.fields (state : LoopState) : List (String × Value) :=
  let counted (count : Nat → Nat) : Value :=
    orUndefined (state.length.map fun length => .int (count length))
  [("index0", .int state.index),
   ("index", .int (state.index + 1)),
   ("length", counted id),
   ("revindex", counted (· - state.index)),
   ("revindex0", counted (· - state.index - 1)),
   ("first", .bool (state.index = 0)),
   ("last", .bool (state.length.any fun length => length = 0 ∨ state.index + 1 = length)),
   ("depth", .int (state.depth + 1)),
   ("depth0", .int state.depth),
   ("previtem", orUndefined state.previous),
   ("nextitem", orUndefined state.next)]

/-- The entries of a cell. -/
def Cell.entries : Cell → List (String × Value)
  | .names entries => entries
  | .loop state => state.fields

/-- The entries of the cell with a number. -/
def entriesIn (cells : Array Cell) (index : Nat) : List (String × Value) :=
  (cells[index]?.map Cell.entries).getD []

/-- The entries of the cell with a number as those of a map. -/
def heldIn (cells : Array Cell) (index : Nat) : List (Value × Value) :=
  (entriesIn cells index).map fun (name, value) => (.ofText name, value)

/-- The item of a value under a key, looked up in a cell where the value refers to one. -/
def itemAmong (cells : Array Cell) (value key : Value) : Option Value :=
  match value with
  | .namespace index _ | .loop index _ =>
    key.asText?.bind fun name => (entriesIn cells index).lookup name
  | other => other.item? key

/-- What filters can see. -/
def Machine.surroundings (machine : Machine) : Surroundings :=
  ⟨machine.escaping, itemAmong machine.cells⟩

/-- The value with what the cells hold that it refers to, as far as `depth` levels show it. On a
    path that comes back to one of its cells, `passed`, the value ends there. -/
def renewWithin (depth : Nat) (cells : Array Cell) (passed : List Nat) (value : Value) : Value :=
  match depth with
  | 0 => value
  | depth + 1 =>
    let renewed := renewWithin depth cells
    let pair (passed : List Nat) (entry : Value × Value) : Value × Value :=
      (renewed passed entry.1, renewed passed entry.2)
    let held (index : Nat) : List (Value × Value) :=
      if passed.contains index then []
      else (heldIn cells index).map (pair (index :: passed))
    match value with
    | .list items identity => .list (items.map (renewed passed)) identity
    | .sequence items identity => .sequence (items.map (renewed passed)) identity
    | .stream items identity => .stream (items.map (renewed passed)) identity
    | .group key members identity =>
      .group (renewed passed key) (members.map (renewed passed)) identity
    | .map entries identity => .map (entries.map (pair passed)) identity
    | .keywords entries => .keywords (entries.map (pair passed))
    | .namespace index _ => .namespace index (held index)
    | .loop index _ => .loop index (held index)
    | other => other

/-- The value with what the cells hold that it refers to. -/
def renewed (value : Value) : Rendering Value := do
  return renewWithin valueDepth (← get).cells [] value

/-- The value with what the cell holds that it refers to itself. -/
def opened (value : Value) : Rendering Value := do
  match value with
  | .namespace index _ => return .namespace index (heldIn (← get).cells index)
  | .loop index _ => return .loop index (heldIn (← get).cells index)
  | other => return other

/-- Whether a value counts as true now. -/
def holds (value : Value) : Rendering Bool := do
  return (← opened value).isTrue

/-- The item of a value under a key. Nothing can be found in what is undefined. -/
def itemOf (value key : Value) : Rendering Value := do
  (← get).surroundings.item value (← renewed key)

/-! ## Names -/

/-- The functions that every line format can call. -/
def functionNames : List String :=
  ["range", "dict", "debug", "namespace"]

/-- The value that a frame gives to a name. -/
def Frame.lookup? (cells : Array Cell) (name : String) (frame : Frame) : Option Value :=
  match frame.locals.lookup name with
  | some value => some value
  | none =>
    match frame.loop with
    | some loop =>
      if loop.visible && name == "loop" then some (.loop loop.cell [])
      else itemAmong cells frame.names (.ofText name)
    | none => itemAmong cells frame.names (.ofText name)

/-- The value of a name, if it has one. -/
def valueOf? (name : String) : Rendering (Option Value) := do
  let machine ← get
  match machine.frames.findSome? (Frame.lookup? machine.cells name) with
  | some value => return some value
  | none => return if functionNames.contains name then some (.function name) else none

/-- The names with one more; an earlier value of the name is dropped. -/
def bindName (name : String) (value : Value) (names : List (String × Value)) :
    List (String × Value) :=
  (name, value) :: names.filter fun (other, _) => other ≠ name

/-- Gives a name a value in the innermost frame, and in what its routines have captured. -/
def store (name : String) (value : Value) : Rendering Unit := do
  match (← get).frames with
  | [] => return
  | frame :: rest =>
    let value ← identified value
    if let some index := frame.closure then storeIn index name value
    modify fun machine =>
      { machine with frames := { frame with locals := bindName name value frame.locals } :: rest }

/-- Takes all names from the innermost frame. Its routines keep what they have captured. -/
def forgetNames : Rendering Unit :=
  modify fun machine =>
    match machine.frames with
    | [] => machine
    | frame :: rest =>
      { machine with frames := { frame with locals := [], closure := none } :: rest }

/-- The cell for what the routines of the innermost frame capture. -/
def closureCell : Rendering Nat := do
  match (← get).frames with
  | [] => allocate (.names [])
  | frame :: rest =>
    match frame.closure with
    | some index => return index
    | none =>
      let index ← allocate (.names [])
      modify fun machine =>
        { machine with frames := { frame with closure := some index } :: rest }
      return index

/-- Captures a name, unless it has been captured before. -/
def capture (name : String) : Rendering Unit := do
  let index ← closureCell
  let entries ← namesIn index
  if (entries.lookup name).isNone then
    storeIn index name (orUndefined (← valueOf? name))

/-! ## Frames -/

/-- The greatest number of frames. -/
def frameLimit : Nat := 500

/-- What a call of a routine adds to the number of frames. -/
def callSurcharge : Nat := 4

/-- The fault of too many frames. -/
def tooDeep : Fault :=
  .about .invalidOperation "recursion limit exceeded"

/-- The number of frames, those of callers included. -/
def Machine.depth (machine : Machine) : Nat :=
  machine.outer + machine.frames.length

/-- Performs an action in a frame of its own. -/
def inFrame {α : Type} (frame : Frame) (action : Rendering α) : Rendering α := do
  let machine ← get
  if machine.depth > frameLimit then throw tooDeep
  set { machine with frames := frame :: machine.frames }
  let result ← action
  modify fun after => { after with frames := after.frames.drop 1 }
  return result

/-- The innermost loop. -/
def innermostLoop? : Rendering (Option RunningLoop) := do
  return (← get).frames.findSome? Frame.loop

/-- The depth at which a loop starts: loops count only inside a loop that can be started again. -/
def nextLoopDepth : Rendering Nat := do
  match ← innermostLoop? with
  | some outer =>
    match ← loopIn? outer.cell with
    | some state => return if state.again.isSome then state.depth + 1 else 0
    | none => return 0
  | none => return 0

/-- Goes through the items of a loop from the one at `index` on, and gives the results. What has
    been assigned for one item is forgotten before the next one. In the end the loop has gone past
    its last item. -/
def eachItem {α : Type} (cell : Nat) (step : Value → Rendering α) (index : Nat)
    (previous : Option Value) (items : List Value) : Rendering (List α) := do
  if let some state := ← loopIn? cell then
    writeCell cell (.loop { state with index, previous, next := items.tail.head? })
  match items with
  | [] => return []
  | item :: rest => do
    forgetNames
    let result ← step (← item.used)
    return result :: (← eachItem cell step (index + 1) (some item) rest)

/-- Performs a step for every item in the frame of one loop. -/
def loopOver {α : Type} (visible : Bool) (again : Option Repeatable) (items : Items)
    (step : Value → Rendering α) : Rendering (List α) := do
  let depth ← nextLoopDepth
  let length := if items.counted then some items.values.length else none
  let values ← items.values.mapM identified
  let cell ← allocate (.loop ⟨0, length, depth, again, none, none, none⟩)
  inFrame { Frame.empty with loop := some ⟨cell, visible⟩ } (eachItem cell step 0 none values)

/-! ## Output -/

/-- Adds text to the output. -/
def emitText (text : String) : Rendering Unit :=
  modify fun machine => { machine with output := machine.output ++ text }

/-- Adds the text of a value to the output, escaped where text is escaped. -/
def emit (value : Value) : Rendering Unit := do
  let value ← renewed value
  emitText (if (← get).escaping then value.escaped else value.toText)

/-- The output of an action as text, which needs no escaping if text was escaped in it. -/
def captured (action : Rendering Unit) : Rendering Value := do
  let before ← get
  set { before with output := "" }
  action
  let after ← get
  set { after with output := before.output }
  return .text after.output after.escaping

/-- What the value of an `autoescape` tag says. -/
def escapingMode (mode : Value) : Except Fault Bool :=
  match mode.asText? with
  | some "html" => return true
  | some "none" => return false
  | some _ => throw (.about .invalidOperation "invalid value to autoescape tag")
  | none => return mode.equal (.bool true)

end Codebook.Template
