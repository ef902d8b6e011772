import Codebook.Yaml.Scalar
import Codebook.Yaml.Tag

/-!
# Tokens of a YAML text

A YAML text is cut into tokens from left to right. Where lines are indented further, blocks are
opened, and where they are indented less, blocks are closed; brackets switch indentation off.

Whether a scalar, an alias or a bracket is the key of an entry shows only at the colon behind it,
on the same line and at most 1024 bytes further on. Until then it is a *possible key*, one at
most on every level of brackets, and the tokens from it on are held back. At the colon the token
that marks a key is put in front of it. A possible key at the indentation of its block has to be
one.

A text that is not well formed gives the tokens that were not held back when the fault was found.
-/

namespace Codebook.Yaml

/-- Tokens. -/
inductive Token where
  | streamEnd
  | directive (directive : Directive)
  | documentStart
  | documentEnd
  | blockSequenceStart
  | blockMappingStart
  | blockEnd
  | flowSequenceStart
  | flowSequenceEnd
  | flowMappingStart
  | flowMappingEnd
  | blockEntry
  | flowEntry
  | key
  | value
  | alias (name : String)
  | anchor (name : String)
  | tag (tag : Tag)
  | scalar (text : String) (style : Style)
  deriving Repr, DecidableEq

/-- A token and where it starts and ends. -/
structure Placed where
  token : Token
  start : Mark
  stop : Mark
  deriving Repr, DecidableEq

/-- A possible key: the number of its token, where it starts, and whether it has to be one. -/
structure PossibleKey where
  number : Nat
  mark : Mark
  required : Bool

/-- The state of cutting. Tokens are listed from the last to the first; possible keys and columns of
    blocks from the innermost to the outermost. The outermost level of keys is outside of all
    brackets. -/
structure Cutting where
  cursor : Cursor
  tokens : List Placed
  count : Nat
  columns : List Nat
  keys : List (Option PossibleKey)
  keyAllowed : Bool
  ended : Bool

/-- The state at the start of a text. -/
def Cutting.start (text : List Char) : Cutting where
  cursor := .start text
  tokens := []
  count := 0
  columns := []
  keys := [none]
  keyAllowed := true
  ended := false

/-- Whether the state is inside brackets. -/
def Cutting.inFlow (cutting : Cutting) : Bool :=
  1 < cutting.keys.length

/-- The least column that lines inside the current block can have. -/
def Cutting.column (cutting : Cutting) : Nat :=
  match cutting.columns with
  | [] => 0
  | column :: _ => column + 1

/-- The column at the cursor. -/
def Cutting.here (cutting : Cutting) : Nat :=
  cutting.cursor.mark.column

/-- The state with one token more, which ends at the cursor `after`. -/
def Cutting.push (cutting : Cutting) (token : Token) (after : Cursor) : Cutting :=
  { cutting with
    cursor := after
    tokens := ⟨token, cutting.cursor.mark, after.mark⟩ :: cutting.tokens
    count := cutting.count + 1 }

/-- The state with a token put in front of the token of a number. -/
def Cutting.insert (cutting : Cutting) (token : Token) (number : Nat) (mark : Mark) : Cutting :=
  { cutting with
    tokens := cutting.tokens.insertIdx (cutting.count - number) ⟨token, mark, mark⟩
    count := cutting.count + 1 }

/-! ## Possible keys -/

/-- Whether a key that starts at `mark` is too far back for a colon at `here`. -/
def tooFarBack (mark here : Mark) : Bool :=
  mark.line < here.line || mark.index + 1024 < here.index

/-- Gives up the possible keys that are too far back. Nothing if one of them has to be a key. -/
def Cutting.dropStale (cutting : Cutting) : Option Cutting :=
  let isStale (key : PossibleKey) : Bool := tooFarBack key.mark cutting.cursor.mark
  if cutting.keys.any fun key => key.any fun key => key.required && isStale key then none
  else some { cutting with keys := cutting.keys.map (·.filter fun key => !isStale key) }

/-- Gives up the possible key of the current level. Nothing if it has to be a key. -/
def Cutting.dropKey (cutting : Cutting) : Option Cutting :=
  match cutting.keys with
  | some key :: rest => if key.required then none else some { cutting with keys := none :: rest }
  | _ => some cutting

/-- Notes that the next token may be a key, if a key is allowed here. -/
def Cutting.noteKey (cutting : Cutting) : Option Cutting :=
  if cutting.keyAllowed then do
    let cutting ← cutting.dropKey
    let required := !cutting.inFlow && cutting.columns.head? = some cutting.here
    let key : PossibleKey := ⟨cutting.count, cutting.cursor.mark, required⟩
    return { cutting with keys := some key :: cutting.keys.tail }
  else some cutting

/-- The number of tokens that are not held back. -/
def Cutting.delivered (cutting : Cutting) : Nat :=
  (cutting.keys.filterMap fun key => key.map PossibleKey.number).foldl min cutting.count

/-! ## Indentation -/

/-- Closes the blocks that are indented further than `column`. -/
def Cutting.closeBlocks (column : Option Nat) : (columns : List Nat) → Cutting → Cutting
  | [], cutting => cutting
  | inner :: outer, cutting =>
    if column.all (· < inner) then
      closeBlocks column outer { (cutting.push .blockEnd cutting.cursor) with columns := outer }
    else cutting

/-- Closes the blocks that end before the cursor. -/
def Cutting.unindent (cutting : Cutting) : Cutting :=
  if cutting.inFlow then cutting
  else closeBlocks (some cutting.here) cutting.columns cutting

/-- Closes all blocks. -/
def Cutting.closeAll (cutting : Cutting) : Cutting :=
  if cutting.inFlow then cutting else closeBlocks none cutting.columns cutting

/-- Whether a block at `column` is indented further than the current one. -/
def Cutting.opens (cutting : Cutting) (column : Nat) : Bool :=
  !cutting.inFlow && cutting.columns.head?.all (· < column)

/-- Opens a block at the cursor if it is indented further than the current one. -/
def Cutting.indent (cutting : Cutting) (opening : Token) : Cutting :=
  if cutting.opens cutting.here then
    { (cutting.push opening cutting.cursor) with columns := cutting.here :: cutting.columns }
  else cutting

/-! ## Steps -/

/-- The cursor behind a mark of the byte order that a line starts with. -/
def Cursor.skipOrderMark (cursor : Cursor) : Cursor :=
  if cursor.mark.column = 0 ∧ cursor.rest.head? = some '\ufeff' then cursor.skip 1 else cursor

/-- The cursor at the next token. A tab may stand before it only where no key is allowed, or inside
    brackets. Every step takes a character, so `fuel` need not be more than the length of the rest. -/
def Cutting.toNextToken : (fuel : Nat) → Cutting → Cutting
  | 0, cutting => cutting
  | fuel + 1, cutting =>
    let tabs := cutting.inFlow || !cutting.keyAllowed
    let cursor := cutting.cursor.skipOrderMark.skipWhile fun c => c == ' ' || (tabs && c == '\t')
    let cursor := if cursor.rest.head? = some '#' then cursor.toLineEnd else cursor
    if cursor.rest.isEmpty || !endsLine cursor.rest then { cutting with cursor }
    else
      toNextToken fuel
        { cutting with
          cursor := cursor.skipBreak
          keyAllowed := cutting.keyAllowed || !cutting.inFlow }

/-- A token of one character. -/
def Cutting.sign (cutting : Cutting) (token : Token) : Cutting :=
  cutting.push token (cutting.cursor.skip 1)

/-- The end of the text. All blocks end, on a line of their own. -/
def Cutting.finish (cutting : Cutting) : Option Cutting := do
  let mark := cutting.cursor.mark
  let mark := if mark.column = 0 then mark else ⟨mark.index, mark.line + 1, 0⟩
  let cutting := { cutting with cursor := { cutting.cursor with mark } }
  let cutting ← cutting.closeAll.dropKey
  return { (cutting.push .streamEnd cutting.cursor) with keyAllowed := false, ended := true }

/-- A token that stands outside of all blocks. -/
def Cutting.outside (cutting : Cutting) (token : Token) (after : Cursor) : Option Cutting := do
  let cutting ← cutting.closeAll.dropKey
  return { (cutting.push token after) with keyAllowed := false }

/-- An opening bracket. -/
def Cutting.openFlow (cutting : Cutting) (token : Token) : Option Cutting := do
  let cutting ← cutting.noteKey
  return { (cutting.sign token) with keys := none :: cutting.keys, keyAllowed := true }

/-- A closing bracket. -/
def Cutting.closeFlow (cutting : Cutting) (token : Token) : Option Cutting := do
  let cutting ← cutting.dropKey
  let keys := if cutting.inFlow then cutting.keys.tail else cutting.keys
  return { (cutting.sign token) with keys, keyAllowed := false }

/-- A comma between brackets. -/
def Cutting.flowEntry (cutting : Cutting) : Option Cutting := do
  let cutting ← cutting.dropKey
  return { (cutting.sign .flowEntry) with keyAllowed := true }

/-- A dash before an entry of a sequence. -/
def Cutting.blockEntry (cutting : Cutting) : Option Cutting := do
  if !cutting.inFlow && !cutting.keyAllowed then none
  else
    let cutting ← (cutting.indent .blockSequenceStart).dropKey
    return { (cutting.sign .blockEntry) with keyAllowed := true }

/-- A question mark before a key. -/
def Cutting.explicitKey (cutting : Cutting) : Option Cutting := do
  if !cutting.inFlow && !cutting.keyAllowed then none
  else
    let cutting ← (cutting.indent .blockMappingStart).dropKey
    return { (cutting.sign .key) with keyAllowed := !cutting.inFlow }

/-- A colon before a value. If there is a possible key it is one, and may open a block. -/
def Cutting.value (cutting : Cutting) : Option Cutting :=
  match cutting.keys with
  | some key :: rest =>
    let cutting := cutting.insert .key key.number key.mark
    let cutting :=
      if cutting.opens key.mark.column then
        { (cutting.insert .blockMappingStart key.number key.mark) with
          columns := key.mark.column :: cutting.columns }
      else cutting
    some { (cutting.sign .value) with keys := none :: rest, keyAllowed := false }
  | _ =>
    if !cutting.inFlow && !cutting.keyAllowed then none
    else
      let cutting := cutting.indent .blockMappingStart
      some { (cutting.sign .value) with keyAllowed := !cutting.inFlow }

/-- A token that may be a key, or may stand before one. -/
def Cutting.keyToken (cutting : Cutting) (token : Token) (after : Cursor) : Option Cutting := do
  let cutting ← cutting.noteKey
  return { (cutting.push token after) with keyAllowed := false }

/-- A block of lines. -/
def Cutting.block (cutting : Cutting) (kept : Bool) : Option Cutting := do
  let cutting ← cutting.dropKey
  let (text, after) ← readBlock kept cutting.column (cutting.cursor.skip 1)
  return { (cutting.push (.scalar (String.ofList text) (if kept then .literal else .folded)) after)
    with keyAllowed := true }

/-- Plain text. A key is allowed behind it if it was followed to another line. -/
def Cutting.plain (bound : Nat) (cutting : Cutting) : Option Cutting := do
  let cutting ← cutting.noteKey
  let (text, after, crossed) ← readPlain cutting.inFlow cutting.column bound cutting.cursor
  return { (cutting.push (.scalar (String.ofList text) .plain) after) with keyAllowed := crossed }

/-- The characters that no plain text starts with. -/
def isIndicator (c : Char) : Bool :=
  isFlowIndicator c ||
    ['-', '?', ':', '#', '&', '*', '!', '|', '>', '\'', '"', '%', '@', '`'].contains c

/-- Whether plain text starts with a character before the rest of a text. A blank never starts it. A
    dash, a question mark or a colon can start it if no blank follows. -/
def startsPlain (inFlow : Bool) (c : Char) (rest : List Char) : Bool :=
  (!isIndicator c && !isBlank c) ||
    (c = '-' && !rest.head?.any isBlank) ||
    (!inFlow && (c = '?' || c = ':') && !endsWord rest)

/-- The next token, and what has to be put before it. The rest of the text is no longer than
    `bound`. -/
def Cutting.step (bound : Nat) (cutting : Cutting) : Option Cutting := do
  let cutting ← (cutting.toNextToken (bound + 1)).dropStale
  let cutting := cutting.unindent
  let cursor := cutting.cursor
  match cursor.rest with
  | [] => cutting.finish
  | c :: rest =>
    if cutting.here = 0 ∧ c = '%' then
      let (directive, after) ← readDirective? (cursor.skip 1)
      cutting.outside (.directive directive) after
    else if cursor.atDocumentMark then
      cutting.outside (if c = '-' then .documentStart else .documentEnd) (cursor.skip 3)
    else if c = '[' then cutting.openFlow .flowSequenceStart
    else if c = '\x7b' then cutting.openFlow .flowMappingStart
    else if c = ']' then cutting.closeFlow .flowSequenceEnd
    else if c = '\x7d' then cutting.closeFlow .flowMappingEnd
    else if c = ',' then cutting.flowEntry
    else if c = '-' ∧ endsWord rest then cutting.blockEntry
    else if c = '?' ∧ (cutting.inFlow ∨ endsWord rest) then cutting.explicitKey
    else if c = ':' ∧ (cutting.inFlow ∨ endsWord rest) then cutting.value
    else if c = '*' then
      let (name, after) ← readAnchor? (cursor.skip 1)
      cutting.keyToken (.alias name) after
    else if c = '&' then
      let (name, after) ← readAnchor? (cursor.skip 1)
      cutting.keyToken (.anchor name) after
    else if c = '!' then
      let (tag, after) ← readTag? cutting.inFlow cursor
      cutting.keyToken (.tag tag) after
    else if c = '|' ∧ !cutting.inFlow then cutting.block true
    else if c = '>' ∧ !cutting.inFlow then cutting.block false
    else if c = '\'' then
      let (text, after) ← readSingle bound (cursor.skip 1)
      cutting.keyToken (.scalar (String.ofList text) .single) after
    else if c = '"' then
      let (text, after) ← readDouble bound (cursor.skip 1)
      cutting.keyToken (.scalar (String.ofList text) .double) after
    else if startsPlain cutting.inFlow c rest then cutting.plain bound
    else none

/-- The tokens of a text, and whether they are all. -/
structure TokenStream where
  tokens : List Placed
  complete : Bool

/-- Cuts on until the end or a fault. Every step takes a character or ends the text, so `fuel` need
    not be more than the length of the text, and bounds the length of the rest. -/
def Cutting.run : (fuel : Nat) → Cutting → TokenStream
  | 0, cutting => ⟨cutting.tokens.reverse, cutting.ended⟩
  | fuel + 1, cutting =>
    if cutting.ended then ⟨cutting.tokens.reverse, true⟩
    else
      match (cutting.step (fuel + 1)).bind Cutting.dropStale with
      | some next => run fuel next
      | none => ⟨cutting.tokens.reverse.take cutting.delivered, false⟩

/-- The characters that a text may hold. -/
def isPrintable (c : Char) : Bool :=
  c == '\t' || c == '\n' || c == '\r' || c == '\u0085' ||
    (' ' ≤ c && c ≤ '~') || ('\u00a0' ≤ c && c ≤ '\ufffd') || 0xffff < c.toNat

/-- The tokens of a text. -/
def tokens (text : List Char) : TokenStream :=
  if text.all isPrintable then (Cutting.start text).run (text.length + 2)
  else ⟨[], false⟩

end Codebook.Yaml
