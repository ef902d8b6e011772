/-!
# Positions in a text

A place in a text is reported as a line and a column, both counted from one. A line ends at a
line feed and at nothing else, and a column counts characters, not bytes. The place of a
character is determined by the text before it.
-/

namespace Codebook.Text

/-- A line and a column, both counted from one. -/
structure Position where
  line : Nat
  column : Nat
  deriving Repr, DecidableEq, Inhabited

/-- The start of a text. -/
def Position.start : Position :=
  ⟨1, 1⟩

/-- The position after one more character. -/
def Position.next (position : Position) (c : Char) : Position :=
  if c = '\n' then ⟨position.line + 1, 1⟩ else ⟨position.line, position.column + 1⟩

/-- The position of the character that follows `before`: the line is one more than the line
    feeds in `before`, the column one more than the characters after the last of them. -/
def Position.after (before : List Char) : Position :=
  before.foldl Position.next .start

end Codebook.Text
