import Codebook.Definition

/-!
# The grammar of definition texts

A definition text is a concatenation of pieces: single blanks, line comments, block comments and
entries. What follows says how each piece is written, without saying how it is read. An entry keeps
every part of its text apart, so that the parts which carry no meaning can be spoken of as well.

A line comment does not hold the line feed that ends it, and so it has to stand before a line feed
or at the end of the text. No other piece depends on what follows it.
-/

namespace Codebook.Grammar

open Text

/-- Blanks and nothing else. -/
def AllBlank (text : List Char) : Prop :=
  ∀ c ∈ text, isBlank c = true

instance (text : List Char) : Decidable (AllBlank text) :=
  List.decidableBAll (isBlank · = true) text

/-- Digits in groups that are not empty, with single underscores between the groups. -/
def IsCode (text : List Char) : Prop :=
  ∃ groups : List (List Char), groups ≠ [] ∧
    (∀ group ∈ groups, group ≠ [] ∧ ∀ c ∈ group, isDecimalDigit c = true) ∧
    text = List.intercalate ['_'] groups

/-- A character that may start a name, and then characters that a name may go on with. -/
def IsName (text : List Char) : Prop :=
  ∃ first rest, text = first :: rest ∧ isNameStart first = true ∧ ∀ c ∈ rest, isNamePart c = true

/-- An escape: a backslash with one of the short escapes, with `u` and four hexadecimal digits, or
with `U` and eight of them. -/
inductive IsEscape : List Char → Prop where
  | short (c : Char) (known : isShortEscape c = true) : IsEscape ['\\', c]
  | four (digits : List Char) (count : digits.length = 4)
      (hexadecimal : ∀ d ∈ digits, isHexDigit d = true) : IsEscape ('\\' :: 'u' :: digits)
  | eight (digits : List Char) (count : digits.length = 8)
      (hexadecimal : ∀ d ∈ digits, isHexDigit d = true) : IsEscape ('\\' :: 'U' :: digits)

/-- What may stand between the quotes of a message: escapes, and all characters but the backslash
and the double quote. Line feeds and comment marks are such characters. -/
inductive IsMessage : List Char → Prop where
  | empty : IsMessage []
  | plain (c : Char) (body : List Char) (notBackslash : c ≠ '\\') (notQuote : c ≠ '"')
      (tail : IsMessage body) : IsMessage (c :: body)
  | escaped (escape body : List Char) (isEscape : IsEscape escape)
      (tail : IsMessage body) : IsMessage (escape ++ body)

/-- An entry with all that is written in it. Only the gap between the code and the name has to be
there; the other gaps may be empty. -/
structure Entry where
  code : List Char
  afterCode : List Char
  name : List Char
  afterName : List Char
  afterEquals : List Char
  message : List Char
  afterMessage : List Char
  isCode : IsCode code
  isName : IsName name
  isMessage : IsMessage message
  gap : afterCode ≠ []
  blankAfterCode : AllBlank afterCode
  blankAfterName : AllBlank afterName
  blankAfterEquals : AllBlank afterEquals
  blankAfterMessage : AllBlank afterMessage

/-- The text of an entry. -/
def Entry.text (entry : Entry) : List Char :=
  entry.code ++ (entry.afterCode ++ (entry.name ++ (entry.afterName ++ '=' ::
    (entry.afterEquals ++ '"' :: (entry.message ++ '"' :: (entry.afterMessage ++ [';']))))))

/-- The definition that an entry gives: its code and its name as they are written. -/
def Entry.definition (entry : Entry) : Definition :=
  ⟨String.ofList entry.code, String.ofList entry.name⟩

/-- What a definition text consists of. -/
inductive Piece where
  | blank (c : Char) (isBlank : isBlank c = true)
  | lineComment (body : List Char) (oneLine : '\n' ∉ body)
  | blockComment (body : List Char) (notClosed : ¬ ['*', '/'] <:+: body)
  | entry (held : Entry)

/-- The text of a piece. -/
def Piece.text : Piece → List Char
  | .blank c _ => [c]
  | .lineComment body _ => '/' :: '/' :: body
  | .blockComment body _ => '/' :: '*' :: (body ++ ['*', '/'])
  | .entry held => held.text

/-- The definitions that a piece gives: one if it is an entry, and none else. -/
def Piece.definitions : Piece → List Definition
  | .entry held => [held.definition]
  | _ => []

/-- The end of a line: a line feed, or the end of the text. -/
def EndsLine (rest : List Char) : Prop :=
  rest = [] ∨ rest.head? = some '\n'

/-- Whether a piece may stand before `rest`. A line comment takes all characters of its line. -/
def Piece.Fits : Piece → (rest : List Char) → Prop
  | .lineComment _ _, rest => EndsLine rest
  | _, _ => True

/-- The text of some pieces. -/
def textOf (pieces : List Piece) : List Char :=
  pieces.flatMap Piece.text

/-- The definitions that some pieces give, in their order. -/
def definitionsOf (pieces : List Piece) : List Definition :=
  pieces.flatMap Piece.definitions

/-- Every piece may stand where it stands, with `rest` after the last one. -/
def Laid : List Piece → (rest : List Char) → Prop
  | [], _ => True
  | piece :: pieces, rest => piece.Fits (textOf pieces ++ rest) ∧ Laid pieces rest

@[simp]
theorem textOf_nil : textOf [] = [] := rfl

@[simp]
theorem textOf_cons (piece : Piece) (pieces : List Piece) :
    textOf (piece :: pieces) = piece.text ++ textOf pieces := rfl

@[simp]
theorem definitionsOf_nil : definitionsOf [] = [] := rfl

@[simp]
theorem definitionsOf_cons (piece : Piece) (pieces : List Piece) :
    definitionsOf (piece :: pieces) = piece.definitions ++ definitionsOf pieces := rfl

/-- The text of an entry before any other text, with its parts in a row. -/
theorem Entry.text_append (entry : Entry) (rest : List Char) :
    entry.text ++ rest =
      entry.code ++ (entry.afterCode ++ (entry.name ++ (entry.afterName ++ '=' ::
        (entry.afterEquals ++ '"' ::
          (entry.message ++ '"' :: (entry.afterMessage ++ ';' :: rest)))))) := by
  simp [Entry.text]

end Codebook.Grammar
