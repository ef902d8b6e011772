/-!
# Text for a terminal

Text can hold controls that a terminal acts upon instead of showing them: single characters, and
sequences that start with an escape. Where nobody looks at a terminal they are left out, so that the
text holds only what would be seen.

A sequence ends in a way that depends on how it starts. Line ends and tabs are shown even inside a
sequence with parameters, which they cut short. What is cut short by the end of the text is left out
as well.
-/

namespace Codebook.Text

/-- Where a reader of text with controls stands: outside of sequences; behind an escape and perhaps
    some more of its kind; inside a sequence with parameters; inside a command, which a bell ends;
    inside a text that is not meant to be shown. -/
inductive TerminalState where
  | outside
  | escape (more : Bool)
  | parameters
  | command
  | hidden
  deriving Repr, DecidableEq

/-- The controls that are shown, as blanks. -/
def isShownControl (c : Char) : Bool :=
  c = '\t' || c = '\n' || c = '\x0c' || c = '\r'

/-- Whether a character inside a sequence is passed over: a control, or one beyond seven bits. -/
def isPassedOver (c : Char) : Bool :=
  c < ' ' || '\x7f' ≤ c

/-- The state after the character that follows an escape. -/
def TerminalState.afterEscape (c : Char) : TerminalState :=
  if c = '[' then .parameters
  else if c = ']' then .command
  else if c = 'P' || c = 'X' || c = '^' || c = '_' then .hidden
  else .outside

/-- The state after a character, and whether the character is shown. -/
def TerminalState.step (state : TerminalState) (c : Char) : TerminalState × Bool :=
  if c = '\x1b' then (.escape false, false)
  else if c = '\x18' || c = '\x1a' then (.outside, false)
  else
    match state with
    | .outside => (.outside, isShownControl c || (' ' ≤ c && c ≠ '\x7f'))
    | .escape more =>
      if isShownControl c then (.outside, true)
      else if isPassedOver c then (state, false)
      else if c < '0' then (.escape true, false)
      else (if more then .outside else .afterEscape c, false)
    | .parameters =>
      if isShownControl c then (.outside, true)
      else (if isPassedOver c || c < '@' then .parameters else .outside, false)
    | .command => (if c = '\x07' then .outside else .command, false)
    | .hidden => (.hidden, false)

/-- The characters that are shown, read from a state on. -/
def shownFrom (state : TerminalState) : List Char → List Char
  | [] => []
  | c :: rest =>
    let (state, shown) := state.step c
    if shown then c :: shownFrom state rest else shownFrom state rest

/-- The text without what a terminal does not show. -/
def shown (text : String) : String :=
  String.ofList (shownFrom .outside text.toList)

end Codebook.Text
