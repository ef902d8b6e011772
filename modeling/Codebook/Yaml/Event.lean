import Codebook.Yaml.Token

/-!
# Events of a YAML text

Read in their order, tokens tell what a document holds: scalars, aliases, and where sequences and
mappings start and end. An entry without a key or a value has an empty scalar in its place. What a
tag stands for is resolved, and aliases are resolved to the start of what they refer to once the
document has been read.

Reading is a machine with a stack of things to come back to. Every step gives one event. A document
that is not well formed gives the events before the fault.
-/

namespace Codebook.Yaml

/-- What an event says. -/
inductive Event where
  | documentStart
  | documentEnd
  | streamEnd
  | scalar (text : String) (style : Style) (tag : Option TagText)
  | sequenceStart (tag : Option TagText)
  | sequenceEnd
  | mappingStart (tag : Option TagText)
  | mappingEnd
  | alias (name : String)
  deriving Repr, DecidableEq

/-- An event, where it stands, the anchor it was given, and whether it was reached by an alias. -/
structure Happening where
  event : Event
  mark : Mark
  anchor : Option String
  aliased : Bool
  deriving Repr, DecidableEq

/-- What is to be read next. -/
inductive Phase where
  | firstDocument
  | nextDocument
  | documentContent
  | documentEnd
  | blockNode
  | blockSequence (first : Bool)
  | indentlessSequence
  | blockKey (first : Bool)
  | blockValue
  | flowSequence (first : Bool)
  | pairKey
  | pairValue
  | pairEnd
  | flowKey (first : Bool)
  | flowValue
  | flowEmptyValue
  | over
  deriving Repr, DecidableEq

/-- The state of reading. -/
structure Reading where
  tokens : List Placed
  phase : Phase
  stack : List Phase
  handles : List (String × TagText)

/-- A step of reading: an event and the state after it. -/
abbrev Step := Option (Happening × Reading)

/-- The state that goes on with what is on top of the stack. -/
def Reading.back (reading : Reading) : Reading :=
  match reading.stack with
  | [] => { reading with phase := .over }
  | phase :: rest => { reading with phase, stack := rest }

/-- The state that goes on with a phase. -/
def Reading.goTo (reading : Reading) (phase : Phase) : Reading :=
  { reading with phase }

/-- The state that comes back to a phase later. -/
def Reading.later (reading : Reading) (phase : Phase) : Reading :=
  { reading with stack := phase :: reading.stack }

/-- The next token. -/
def Reading.next? (reading : Reading) : Option Placed :=
  reading.tokens.head?

/-- The state without the next token. -/
def Reading.drop (reading : Reading) : Reading :=
  { reading with tokens := reading.tokens.tail }

/-- An event without an anchor, and the state after it. -/
def Reading.give (reading : Reading) (event : Event) (mark : Mark) : Step :=
  some (⟨event, mark, none, false⟩, reading)

/-- An empty scalar, and the state that goes on with a phase. -/
def Reading.giveEmpty (reading : Reading) (mark : Mark) (phase : Phase) : Step :=
  (reading.goTo phase).give (.scalar "" .plain none) mark

/-! ## Nodes -/

/-- What stands before a node. -/
structure Properties where
  anchor : Option String
  tag : Option Tag

/-- The anchor and the tag before a node, in any order and each at most once. -/
def Reading.properties (reading : Reading) : Properties × Reading :=
  match reading.tokens with
  | ⟨.anchor name, _, _⟩ :: ⟨.tag tag, _, _⟩ :: rest => (⟨name, tag⟩, { reading with tokens := rest })
  | ⟨.anchor name, _, _⟩ :: rest => (⟨name, none⟩, { reading with tokens := rest })
  | ⟨.tag tag, _, _⟩ :: ⟨.anchor name, _, _⟩ :: rest =>
    (⟨name, tag⟩, { reading with tokens := rest })
  | ⟨.tag tag, _, _⟩ :: rest => (⟨none, tag⟩, { reading with tokens := rest })
  | _ => (⟨none, none⟩, reading)

/-- What the tag of a node stands for. Nothing if its handle is not known. -/
def Reading.resolveTag? (reading : Reading) (tag : Tag) : Option TagText :=
  if tag.handle.isEmpty then some tag.suffix.counted
  else (reading.handles.lookup tag.handle).map fun start => start.counted ++ tag.suffix.counted

/-- The start of a node. In a block a node may be a block itself; where it may be `indentless`, a
    sequence without further indentation can stand as well. -/
def Reading.node (block indentless : Bool) (reading : Reading) : Step := do
  let first ← reading.next?
  match first.token with
  | .alias name => reading.drop.back.give (.alias name) first.start
  | _ =>
    let (properties, reading) := reading.properties
    let next ← reading.next?
    let tag ←
      match properties.tag with
      | some tag => (reading.resolveTag? tag).map some
      | none => some none
    let give (event : Event) (reading : Reading) : Step :=
      some (⟨event, first.start, properties.anchor, false⟩, reading)
    match next.token with
    | .blockEntry =>
      if indentless then give (.sequenceStart tag) (reading.goTo .indentlessSequence)
      else if properties.anchor.isSome || tag.isSome then
        give (.scalar "" .plain tag) reading.back
      else none
    | .scalar text style => give (.scalar text style tag) reading.drop.back
    | .flowSequenceStart => give (.sequenceStart tag) (reading.goTo (.flowSequence true))
    | .flowMappingStart => give (.mappingStart tag) (reading.goTo (.flowKey true))
    | .blockSequenceStart =>
      if block then give (.sequenceStart tag) (reading.goTo (.blockSequence true))
      else if properties.anchor.isSome || tag.isSome then
        give (.scalar "" .plain tag) reading.back
      else none
    | .blockMappingStart =>
      if block then give (.mappingStart tag) (reading.goTo (.blockKey true))
      else if properties.anchor.isSome || tag.isSome then
        give (.scalar "" .plain tag) reading.back
      else none
    | _ =>
      if properties.anchor.isSome || tag.isSome then give (.scalar "" .plain tag) reading.back
      else none

/-! ## Documents -/

/-- The handles that need no directive. -/
def standardHandles : List (String × TagText) :=
  [("!", .ofString "!"), ("!!", .ofString "tag:yaml.org,2002:")]

/-- Takes the directives at the start of a document. There may be one version, which has to be 1.1
    or 1.2, and one meaning for every handle. -/
def readDirectives (versioned : Bool) (handles : List (String × TagText)) :
    List Placed → Option (List (String × TagText) × List Placed)
  | ⟨.directive (.version major minor), _, _⟩ :: rest =>
    if versioned || major != 1 || (minor != 1 && minor != 2) then none
    else readDirectives true handles rest
  | ⟨.directive (.handle name text), _, _⟩ :: rest =>
    if (handles.lookup name).isSome then none
    else readDirectives versioned ((name, text) :: handles) rest
  | rest => some (handles, rest)

/-- Whether a token belongs to the outside of documents. -/
def isOutside : Token → Bool
  | .directive _ | .documentStart | .documentEnd | .streamEnd => true
  | _ => false

/-- The start of a document that is announced by directives or by a mark. -/
def Reading.explicitDocument (reading : Reading) : Step := do
  let first ← reading.next?
  let (handles, rest) ← readDirectives false [] reading.tokens
  match rest with
  | ⟨.documentStart, _, _⟩ :: rest =>
    let reading := { reading with tokens := rest, handles := handles ++ standardHandles }
    ((reading.goTo .documentContent).later .documentEnd).give .documentStart first.start
  | _ => none

/-- The start of a document, or the end of all. The first document needs no mark. -/
def Reading.document (isFirst : Bool) (reading : Reading) : Step := do
  let reading :=
    if isFirst then reading
    else { reading with tokens := reading.tokens.dropWhile fun placed =>
      placed.token = .documentEnd }
  let next ← reading.next?
  if next.token = .streamEnd then
    (reading.drop.goTo .over).give .streamEnd next.start
  else if isFirst && (!isOutside next.token || next.token = .documentEnd) then
    let reading := { reading with handles := standardHandles }
    ((reading.goTo .blockNode).later .documentEnd).give .documentStart next.start
  else reading.explicitDocument

/-! ## Sequences and mappings -/

/-- A node unless the next token is one of those that stand for its absence. -/
def Reading.nodeUnless (reading : Reading) (absent : List Token) (block : Bool) (later : Phase)
    (mark : Mark) : Step := do
  let next ← reading.next?
  if absent.contains next.token then reading.giveEmpty mark later
  else (reading.later later).node block block

/-- The end of a collection, which is the next token. -/
def Reading.close (reading : Reading) (event : Event) (mark : Mark) : Step :=
  reading.drop.back.give event mark

/-- The next entry of a block sequence. -/
def Reading.blockSequence (reading : Reading) : Step := do
  let next ← reading.next?
  match next.token with
  | .blockEntry =>
    let reading := reading.drop
    let after ← reading.next?
    if after.token = .blockEntry ∨ after.token = .blockEnd then
      reading.giveEmpty next.stop (.blockSequence false)
    else (reading.later (.blockSequence false)).node true false
  | .blockEnd => reading.close .sequenceEnd next.start
  | _ => none

/-- The next entry of a sequence without further indentation. -/
def Reading.indentlessSequence (reading : Reading) : Step := do
  let next ← reading.next?
  match next.token with
  | .blockEntry =>
    let reading := reading.drop
    let after ← reading.next?
    if [Token.blockEntry, .key, .value, .blockEnd].contains after.token then
      reading.giveEmpty next.stop .indentlessSequence
    else (reading.later .indentlessSequence).node true false
  | _ => reading.back.give .sequenceEnd next.start

/-- The next key of a block mapping. -/
def Reading.blockKey (reading : Reading) : Step := do
  let next ← reading.next?
  match next.token with
  | .key => reading.drop.nodeUnless [.key, .value, .blockEnd] true .blockValue next.stop
  | .blockEnd => reading.close .mappingEnd next.start
  | _ => none

/-- The next value of a block mapping. -/
def Reading.blockValue (reading : Reading) : Step := do
  let next ← reading.next?
  match next.token with
  | .value => reading.drop.nodeUnless [.key, .value, .blockEnd] true (.blockKey false) next.stop
  | _ => reading.giveEmpty next.start (.blockKey false)

/-- Passes the comma between two entries in brackets. -/
def Reading.afterComma (first : Bool) (closing : Token) (reading : Reading) : Option Reading := do
  let next ← reading.next?
  if first || next.token = closing then some reading
  else if next.token = .flowEntry then some reading.drop
  else none

/-- The next entry of a sequence in brackets. -/
def Reading.flowSequence (first : Bool) (reading : Reading) : Step := do
  let reading ← reading.afterComma first .flowSequenceEnd
  let next ← reading.next?
  match next.token with
  | .flowSequenceEnd => reading.close .sequenceEnd next.start
  | .key => (reading.drop.goTo .pairKey).give (.mappingStart none) next.start
  | _ => (reading.later (.flowSequence false)).node false false

/-- The key of a pair that is an entry of a sequence. -/
def Reading.pairKey (reading : Reading) : Step := do
  let next ← reading.next?
  if [Token.value, .flowEntry, .flowSequenceEnd].contains next.token then
    reading.drop.giveEmpty next.stop .pairValue
  else (reading.later .pairValue).node false false

/-- The value of a pair that is an entry of a sequence. -/
def Reading.pairValue (reading : Reading) : Step := do
  let next ← reading.next?
  match next.token with
  | .value =>
    let reading := reading.drop
    let after ← reading.next?
    reading.nodeUnless [.flowEntry, .flowSequenceEnd] false .pairEnd after.start
  | _ => reading.giveEmpty next.start .pairEnd

/-- The end of a pair that is an entry of a sequence. -/
def Reading.pairEnd (reading : Reading) : Step := do
  let next ← reading.next?
  (reading.goTo (.flowSequence false)).give .mappingEnd next.start

/-- The next key of a mapping in brackets. -/
def Reading.flowKey (first : Bool) (reading : Reading) : Step := do
  let reading ← reading.afterComma first .flowMappingEnd
  let next ← reading.next?
  match next.token with
  | .flowMappingEnd => reading.close .mappingEnd next.start
  | .key =>
    let reading := reading.drop
    let after ← reading.next?
    reading.nodeUnless [.value, .flowEntry, .flowMappingEnd] false .flowValue after.start
  | _ => (reading.later .flowEmptyValue).node false false

/-- The next value of a mapping in brackets. -/
def Reading.flowValue (reading : Reading) : Step := do
  let next ← reading.next?
  match next.token with
  | .value =>
    let reading := reading.drop
    let after ← reading.next?
    reading.nodeUnless [.flowEntry, .flowMappingEnd] false (.flowKey false) after.start
  | _ => reading.giveEmpty next.start (.flowKey false)

/-- The next event. -/
def Reading.step (reading : Reading) : Step := do
  match reading.phase with
  | .firstDocument => reading.document true
  | .nextDocument => reading.document false
  | .documentContent =>
    let next ← reading.next?
    if isOutside next.token then reading.back.give (.scalar "" .plain none) next.start
    else reading.node true false
  | .documentEnd =>
    let next ← reading.next?
    let reading := if next.token = .documentEnd then reading.drop else reading
    (reading.goTo .nextDocument).give .documentEnd next.start
  | .blockNode => reading.node true false
  | .blockSequence first => (if first then reading.drop else reading).blockSequence
  | .indentlessSequence => reading.indentlessSequence
  | .blockKey first => (if first then reading.drop else reading).blockKey
  | .blockValue => reading.blockValue
  | .flowSequence first => (if first then reading.drop else reading).flowSequence first
  | .pairKey => reading.pairKey
  | .pairValue => reading.pairValue
  | .pairEnd => reading.pairEnd
  | .flowKey first => (if first then reading.drop else reading).flowKey first
  | .flowValue => reading.flowValue
  | .flowEmptyValue =>
    let next ← reading.next?
    reading.giveEmpty next.start (.flowKey false)
  | .over => none

/-! ## The first document -/

/-- What a document holds. It is `complete` if it came to its end without a fault, and `alone` if
    nothing comes after it. -/
structure Document where
  happenings : List Happening
  complete : Bool
  alone : Bool

/-- A part of a document while it is read: an event, or a reference to the number of an anchor. -/
inductive Part where
  | happening (happening : Happening)
  | reference (number : Nat)

/-- A document of which the references are still to be resolved. The `targets` are the events with
    an anchor, by its number and in their order. -/
structure Draft where
  parts : List Part
  targets : List (Nat × Happening)
  complete : Bool
  alone : Bool

/-- A draft without parts. -/
def Draft.finished (complete alone : Bool) : Draft :=
  ⟨[], [], complete, alone⟩

/-- The document of a draft. Of several targets with one number the last one counts, wherever the
    reference stands. -/
def Draft.resolved (draft : Draft) : Document where
  happenings := draft.parts.filterMap fun part =>
    match part with
    | .happening happening => some happening
    | .reference number =>
      (draft.targets.reverse.lookup number).map fun target => { target with aliased := true }
  complete := draft.complete
  alone := draft.alone

/-- Whether the text ends after a document. -/
def Reading.endsHere (reading : Reading) : Bool :=
  match reading.step with
  | some (happening, _) => happening.event = .streamEnd
  | none => false

/-- Reads on to the end of the document. `anchors` are the names that have been given, each with its
    number: how many other names there were when it was given the last time, and itself if that was
    not the first time. So two names can have one number. Every token gives no more than a few
    events, so `fuel` need not be more than a multiple of their number. -/
def Reading.readDraft (anchors : List (String × Nat)) : (fuel : Nat) → Reading → Draft
  | 0, _ => .finished false false
  | fuel + 1, reading =>
    match reading.step with
    | none => .finished false false
    | some (happening, after) =>
      match happening.event with
      | .documentStart => readDraft anchors fuel after
      | .documentEnd => .finished true after.endsHere
      | .streamEnd => .finished true true
      | .alias name =>
        match anchors.lookup name with
        | none => .finished false false
        | some number =>
          let draft := readDraft anchors fuel after
          { draft with parts := .reference number :: draft.parts }
      | _ =>
        match happening.anchor with
        | some name =>
          let number := anchors.length
          let others := anchors.filter fun (other, _) => other ≠ name
          let draft := readDraft ((name, number) :: others) fuel after
          { draft with
            parts := .happening happening :: draft.parts
            targets := (number, happening) :: draft.targets }
        | none =>
          let draft := readDraft anchors fuel after
          { draft with parts := .happening happening :: draft.parts }

/-- The first document of a text. -/
def Document.ofText (text : List Char) : Document :=
  let stream := tokens text
  let reading : Reading := ⟨stream.tokens, .firstDocument, [], []⟩
  (reading.readDraft [] (4 * stream.tokens.length + 8)).resolved

end Codebook.Yaml
