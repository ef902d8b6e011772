/-!
# Places in a YAML text

A cursor is the rest of a text together with the mark of its first character: how many bytes and
how many lines come before it, and how many characters of its own line. Five characters end a line;
a carriage return and the line feed after it count as one line end.

A gap is what stands between two words: blanks, and possibly line ends with blanks around them.
-/

namespace Codebook.Yaml

/-- Where something stands in a text. All three count from zero. -/
structure Mark where
  index : Nat
  line : Nat
  column : Nat
  deriving Repr, DecidableEq

/-- The rest of a text and where it stands. -/
structure Cursor where
  rest : List Char
  mark : Mark

/-- The characters that end a line. -/
def isBreak (c : Char) : Bool :=
  c == '\n' || c == '\r' || c == '\u0085' || c == '\u2028' || c == '\u2029'

/-- The blanks within a line. -/
def isBlank (c : Char) : Bool :=
  c == ' ' || c == '\t'

/-- Whether a word ends before the rest of a text: at a blank, at a line end, or at the end. -/
def endsWord : List Char → Bool
  | [] => true
  | c :: _ => isBlank c || isBreak c

/-- Whether a line ends before the rest of a text. -/
def endsLine : List Char → Bool
  | [] => true
  | c :: _ => isBreak c

/-- The characters of anchors and of handles of tags. -/
def isNameChar (c : Char) : Bool :=
  c.isAlphanum || c == '_' || c == '-'

/-- The start of a text. -/
def Cursor.start (text : List Char) : Cursor :=
  ⟨text, ⟨0, 0, 0⟩⟩

/-- The number of bytes of some characters. -/
def byteCount (text : List Char) : Nat :=
  text.foldl (fun count c => count + c.utf8Size) 0

/-- The cursor after `count` more characters of the line. -/
def Cursor.skip (cursor : Cursor) (count : Nat) : Cursor where
  rest := cursor.rest.drop count
  mark := { cursor.mark with
    index := cursor.mark.index + byteCount (cursor.rest.take count)
    column := cursor.mark.column + count }

/-- The cursor after the line end that it stands at. -/
def Cursor.skipBreak (cursor : Cursor) : Cursor :=
  let width : Nat :=
    match cursor.rest with
    | '\r' :: '\n' :: _ => 2
    | _ => 1
  { rest := cursor.rest.drop width
    mark := ⟨cursor.mark.index + byteCount (cursor.rest.take width), cursor.mark.line + 1, 0⟩ }

/-- The characters of the line that satisfy `p`, up to the first that does not. -/
def Cursor.taken (cursor : Cursor) (p : Char → Bool) : List Char :=
  cursor.rest.takeWhile p

/-- The cursor after the characters of the line that satisfy `p`. -/
def Cursor.skipWhile (cursor : Cursor) (p : Char → Bool) : Cursor :=
  cursor.skip (cursor.taken p).length

/-- The cursor at the end of its line. -/
def Cursor.toLineEnd (cursor : Cursor) : Cursor :=
  cursor.skipWhile fun c => !isBreak c

/-- Whether three dashes or three points stand alone at the start of the line. -/
def Cursor.atDocumentMark (cursor : Cursor) : Bool :=
  cursor.mark.column == 0 &&
    (match cursor.rest with
    | '-' :: '-' :: '-' :: rest => endsWord rest
    | '.' :: '.' :: '.' :: rest => endsWord rest
    | _ => false)

/-! ## Gaps -/

/-- What a line end stands for in text. -/
def breakChar (c : Char) : Char :=
  if c == '\u2028' || c == '\u2029' then c else '\n'

/-- The line ends at a cursor, with the blanks around them left out. From a line end on, no tab may
    stand in a column below `column`. Every step takes a character, so `fuel` need not be more than
    the length of the rest. -/
def readBreaks (column : Nat) : (fuel : Nat) → Cursor → Option (List Char × Cursor)
  | 0, cursor => some ([], cursor)
  | fuel + 1, cursor =>
    match cursor.rest with
    | [] => some ([], cursor)
    | c :: _ =>
      if isBreak c then
        (readBreaks column fuel cursor.skipBreak).map fun (breaks, after) =>
          (breakChar c :: breaks, after)
      else if c = '\t' ∧ cursor.mark.column < column then none
      else if isBlank c then readBreaks column fuel (cursor.skip 1)
      else some ([], cursor)

/-- What stands between two words: blanks before the first line end, and the line ends. -/
structure Gap where
  blanks : List Char
  breaks : List Char

/-- The gap at a cursor. After a line end, no tab may stand in a column below `column`. -/
def readGap (column : Nat) (cursor : Cursor) : Option (Gap × Cursor) :=
  let blanks := cursor.taken isBlank
  let cursor := cursor.skip blanks.length
  if endsLine cursor.rest then
    let length := (cursor.taken fun c => isBlank c || isBreak c).length
    (readBreaks column length cursor).map fun (breaks, after) =>
      (⟨blanks, breaks⟩, after)
  else some (⟨blanks, []⟩, cursor)

/-- What a gap stands for in text: blanks for themselves, one line end for a blank, and of several
    line ends the first for nothing. -/
def Gap.folded (gap : Gap) : List Char :=
  match gap.breaks with
  | [] => gap.blanks
  | ['\n'] => [' ']
  | '\n' :: more => more
  | breaks => breaks

end Codebook.Yaml
