import Codebook.Decimal.Read
import Codebook.Yaml.Cursor

/-!
# Scalars of a YAML text

Text can be written plain, between single quotes, between double quotes with escapes, and as a
block of lines that is kept or folded. In all forms but the kept block, line ends inside the text
are folded. The readers here give the text and the cursor after it, or nothing if the text is not
well formed.

The readers that call themselves take a character at every step, so `fuel` need not be more than
the length of the rest.
-/

namespace Codebook.Yaml

open Decimal

/-- How a scalar was written. -/
inductive Style where
  | plain
  | single
  | double
  | literal
  | folded
  deriving Repr, DecidableEq

/-! ## Quoted text -/

/-- The text between single quotes, read from after the opening one. A quote inside is doubled. -/
def readSingle : (fuel : Nat) → Cursor → Option (List Char × Cursor)
  | 0, _ => none
  | fuel + 1, cursor =>
    if cursor.atDocumentMark then none
    else
      match cursor.rest with
      | [] => none
      | '\'' :: '\'' :: _ =>
        (readSingle fuel (cursor.skip 2)).map fun (text, after) => ('\'' :: text, after)
      | '\'' :: _ => some ([], cursor.skip 1)
      | c :: _ =>
        if isBlank c || isBreak c then do
          let (gap, after) ← readGap 0 cursor
          let (text, after) ← readSingle fuel after
          return (gap.folded ++ text, after)
        else (readSingle fuel (cursor.skip 1)).map fun (text, after) => (c :: text, after)

/-- The characters that escapes of one letter stand for. -/
def shortEscape? : Char → Option Char
  | '0' => some '\x00'
  | 'a' => some '\x07'
  | 'b' => some '\x08'
  | 't' => some '\t'
  | '\t' => some '\t'
  | 'n' => some '\n'
  | 'v' => some '\x0b'
  | 'f' => some '\x0c'
  | 'r' => some '\r'
  | 'e' => some '\x1b'
  | ' ' => some ' '
  | '"' => some '"'
  | '/' => some '/'
  | '\\' => some '\\'
  | 'N' => some '\u0085'
  | '_' => some '\u00a0'
  | 'L' => some '\u2028'
  | 'P' => some '\u2029'
  | _ => none

/-- The number of digits that an escape by number takes. -/
def escapeWidth? : Char → Option Nat
  | 'x' => some 2
  | 'u' => some 4
  | 'U' => some 8
  | _ => none

/-- The character that an escape stands for, and the number of characters it takes after the
    backslash. -/
def readEscape? : List Char → Option (Char × Nat)
  | [] => none
  | e :: rest =>
    match escapeWidth? e with
    | none => (shortEscape? e).map fun c => (c, 1)
    | some width => do
      let digits := rest.take width
      if digits.length < width then none
      else
        let code ← readNat? 16 digits
        if 0x10FFFF < code ∨ (0xD800 ≤ code ∧ code ≤ 0xDFFF) then none
        else return (Char.ofNat code, width + 1)

/-- The text between double quotes, read from after the opening one. A line end after a backslash
    stands for nothing, and so do the blanks after it. -/
def readDouble : (fuel : Nat) → Cursor → Option (List Char × Cursor)
  | 0, _ => none
  | fuel + 1, cursor =>
    if cursor.atDocumentMark then none
    else
      match cursor.rest with
      | [] => none
      | c :: rest =>
        if c = '"' then some ([], cursor.skip 1)
        else if c = '\\' then
          if !rest.isEmpty && endsLine rest then do
            let start := (cursor.skip 1).skipBreak
            let length := (start.taken fun c => isBlank c || isBreak c).length
            let (breaks, after) ← readBreaks 0 length start
            let (text, after) ← readDouble fuel after
            return (breaks ++ text, after)
          else do
            let (resolved, width) ← readEscape? rest
            let (text, after) ← readDouble fuel (cursor.skip (width + 1))
            return (resolved :: text, after)
        else if isBlank c || isBreak c then do
          let (gap, after) ← readGap 0 cursor
          let (text, after) ← readDouble fuel after
          return (gap.folded ++ text, after)
        else (readDouble fuel (cursor.skip 1)).map fun (text, after) => (c :: text, after)

/-! ## Plain text -/

/-- The characters that end plain text inside brackets. -/
def isFlowIndicator (c : Char) : Bool :=
  c == ',' || c == '[' || c == ']' || c == '\x7b' || c == '\x7d'

/-- The word of plain text at the start of a text. A colon ends it before a blank; inside brackets
    an indicator ends it, and a colon before one is not well formed. -/
def plainWord? (inFlow : Bool) : List Char → Option (List Char)
  | [] => some []
  | c :: rest =>
    if isBlank c || isBreak c then some []
    else if inFlow && c = ':' && rest.head?.any fun d => isFlowIndicator d || d = '?' then none
    else if c = ':' && endsWord rest then some []
    else if inFlow && isFlowIndicator c then some []
    else (plainWord? inFlow rest).map (c :: ·)

/-- Plain text, the cursor after it and the gap behind it, and whether that gap has a line end.
    Outside of brackets the text ends before a word in a column below `column`. -/
def readPlain (inFlow : Bool) (column : Nat) :
    (fuel : Nat) → Cursor → Option (List Char × Cursor × Bool)
  | 0, cursor => some ([], cursor, false)
  | fuel + 1, cursor => do
    if cursor.atDocumentMark || cursor.rest.head? = some '#' then return ([], cursor, false)
    let word ← plainWord? inFlow cursor.rest
    if word.isEmpty then return ([], cursor, false)
    let after := cursor.skip word.length
    if after.rest.isEmpty || !endsWord after.rest then return (word, after, false)
    let (gap, after) ← readGap column after
    let crossed := !gap.breaks.isEmpty
    if !inFlow && after.mark.column < column then return (word, after, crossed)
    let (text, after, crossedLater) ← readPlain inFlow column fuel after
    if text.isEmpty then return (word, after, crossed)
    return (word ++ gap.folded ++ text, after, crossedLater)

/-! ## Blocks of lines -/

/-- What becomes of the line ends at the end of a block. -/
inductive Chomping where
  | strip
  | clip
  | keep
  deriving Repr, DecidableEq

/-- What stands after the sign of a block: its chomping and its indentation. -/
structure BlockHeader where
  chomping : Chomping
  indentation : Option Nat

/-- The chomping at the start of a text. -/
def chomping? : List Char → Option Chomping
  | '+' :: _ => some .keep
  | '-' :: _ => some .strip
  | _ => none

/-- The digit at the start of a text. -/
def digit? : List Char → Option Nat
  | c :: _ => if c.isDigit then some (c.toNat - '0'.toNat) else none
  | [] => none

/-- The header of a block, read from after its sign up to the end of its line. -/
def readHeader (cursor : Cursor) : Option (BlockHeader × Cursor) := do
  let (chomping, indentation, cursor) :=
    match chomping? cursor.rest, digit? cursor.rest with
    | some chomping, _ =>
      let cursor := cursor.skip 1
      match digit? cursor.rest with
      | some digit => (chomping, some digit, cursor.skip 1)
      | none => (chomping, none, cursor)
    | none, some digit =>
      let cursor := cursor.skip 1
      match chomping? cursor.rest with
      | some chomping => (chomping, some digit, cursor.skip 1)
      | none => (.clip, some digit, cursor)
    | none, none => (.clip, none, cursor)
  if indentation = some 0 then none
  else
    let cursor := cursor.skipWhile isBlank
    let cursor := if cursor.rest.head? = some '#' then cursor.toLineEnd else cursor
    if endsLine cursor.rest then
      return (⟨chomping, indentation⟩, if cursor.rest.isEmpty then cursor else cursor.skipBreak)
    else none

/-- The empty lines at a cursor, the cursor in the next line after its indentation, and the
    greatest column that was reached. Without a given indentation all blanks are taken for one. -/
def readEmptyLines (indentation : Option Nat) :
    (fuel : Nat) → Cursor → (widest : Nat) → Option (List Char × Cursor × Nat)
  | 0, cursor, widest => some ([], cursor, widest)
  | fuel + 1, cursor, widest =>
    let spaces := (cursor.taken (· == ' ')).length
    let spaces :=
      match indentation with
      | some column => min spaces (column - cursor.mark.column)
      | none => spaces
    let cursor := cursor.skip spaces
    let widest := max widest cursor.mark.column
    match cursor.rest with
    | [] => some ([], cursor, widest)
    | c :: _ =>
      if c = '\t' ∧ (indentation.all fun column => cursor.mark.column < column) then none
      else if isBreak c then
        (readEmptyLines indentation fuel cursor.skipBreak widest).map fun (breaks, after) =>
          (breakChar c :: breaks, after)
      else some ([], cursor, widest)

/-- What stands in a block between two lines. A folded block has a blank for a single line end
    between two lines that both start without a blank. -/
def betweenLines (kept : Bool) (startsBlank nextStartsBlank : Bool) (leading trailing : List Char) :
    List Char :=
  if !kept && leading = ['\n'] && !startsBlank && !nextStartsBlank then
    if trailing.isEmpty then [' '] else trailing
  else leading ++ trailing

/-- The lines of a block. `startsBlank` says whether the line before starts with a blank, and
    `leading` and `trailing` are the line end of that line and those of the empty lines after it. -/
def readBlockLines (kept : Bool) (chomping : Chomping) (indentation : Nat) :
    (fuel : Nat) → (startsBlank : Bool) → (leading trailing : List Char) → Cursor →
      Option (List Char × Cursor)
  | 0, _, _, _, _ => none
  | fuel + 1, startsBlank, leading, trailing, cursor =>
    if cursor.mark.column = indentation ∧ cursor.rest ≠ [] then do
      let nextStartsBlank := cursor.rest.head?.any isBlank
      let between := betweenLines kept startsBlank nextStartsBlank leading trailing
      let line := cursor.taken fun c => !isBreak c
      let after := cursor.skip line.length
      let (ended, after) :=
        match after.rest with
        | [] => ([], after)
        | c :: _ => ([breakChar c], after.skipBreak)
      let (breaks, after, _) ← readEmptyLines (some indentation) (after.rest.length + 1) after 0
      let (text, after) ←
        readBlockLines kept chomping indentation fuel nextStartsBlank ended breaks after
      return (between ++ line ++ text, after)
    else
      match chomping with
      | .strip => some ([], cursor)
      | .clip => some (leading, cursor)
      | .keep => some (leading ++ trailing, cursor)

/-- A block, read from after its sign. `column` is the least column of its lines. -/
def readBlock (kept : Bool) (column : Nat) (cursor : Cursor) : Option (List Char × Cursor) := do
  let (header, cursor) ← readHeader cursor
  let given := header.indentation.map fun n => n + (column - 1)
  let (breaks, after, widest) ← readEmptyLines given (cursor.rest.length + 1) cursor 0
  let indentation := given.getD (max widest (max column 1))
  readBlockLines kept header.chomping indentation (cursor.rest.length + 1) false [] breaks after

end Codebook.Yaml
