import Codebook.Text.Blank
import Codebook.Text.DecimalDigit
import Codebook.Text.Position

/-!
# Definitions and the texts that hold them

A definition text is a sequence of entries `<code> <name> = "<message>";` with blanks, line
comments and block comments between them. Scanning it gives the definitions in their order,
or the first character that starts neither a comment nor an entry and is no blank.

Each construct is read once from left to right, taking every repetition as far as it goes.
A construct that does not come to its end is no construct at all: the text is then reported
at the first character of it. Messages are read only to find the end of an entry.
-/

namespace Codebook

open Text

/-- A code and the name it goes by, both as they are written. -/
structure Definition where
  code : String
  name : String
  deriving Repr, DecidableEq

/-- The characters a name may start with. -/
def isNameStart (c : Char) : Bool :=
  c.isAlpha || c == '_'

/-- The characters a name may go on with. -/
def isNamePart (c : Char) : Bool :=
  c.isAlphanum || c == '_'

/-- The characters that stand for a hexadecimal digit. -/
def isHexDigit (c : Char) : Bool :=
  c.isDigit || ('a' ≤ c && c ≤ 'f') || ('A' ≤ c && c ≤ 'F')

/-- The characters that form an escape in a message together with the backslash before them
    and nothing after them. -/
def isShortEscape (c : Char) : Bool :=
  ['\\', '"', '\'', '0', 'a', 'b', 'n', 'r', 't', '_', '-'].contains c

/-- What follows the expected character at the start of a text. -/
def expect? (expected : Char) : List Char → Option (List Char)
  | [] => none
  | c :: rest => if c = expected then some rest else none

/-- What follows the first `*/` of a text. -/
def afterBlockEnd? : List Char → Option (List Char)
  | [] => none
  | c :: rest =>
    if c = '*' ∧ rest.head? = some '/' then some rest.tail else afterBlockEnd? rest

/-- What follows the comment at the start of a text. A line comment ends before its line feed,
    a block comment after its first `*/`. -/
def comment? : List Char → Option (List Char)
  | '/' :: '/' :: rest => some (rest.dropWhile (· ≠ '\n'))
  | '/' :: '*' :: rest => afterBlockEnd? rest
  | _ => none

/-- The code that goes on at the start of a text, and what follows it: digits, and single
    underscores that have a digit after them. -/
def readCodeTail : List Char → List Char × List Char
  | [] => ([], [])
  | c :: rest =>
    if isDecimalDigit c || (c = '_' && rest.head?.any isDecimalDigit) then
      ((readCodeTail rest).map (c :: ·) id)
    else ([], c :: rest)

/-- The code at the start of a text, and what follows it. -/
def readCode? : List Char → Option (List Char × List Char)
  | [] => none
  | c :: rest =>
    if isDecimalDigit c then some ((readCodeTail rest).map (c :: ·) id) else none

/-- The name at the start of a text, and what follows it. -/
def readName? : List Char → Option (List Char × List Char)
  | [] => none
  | c :: rest =>
    if isNameStart c then some (c :: rest.takeWhile isNamePart, rest.dropWhile isNamePart)
    else none

/-- What follows the closing quote of a message, read from inside it. `hexLeft` is the number
    of hexadecimal digits that an escape still asks for. -/
def messageRest? : (hexLeft : Nat) → List Char → Option (List Char)
  | _, [] => none
  | hexLeft + 1, c :: rest => if isHexDigit c then messageRest? hexLeft rest else none
  | 0, c :: rest =>
    if c = '"' then some rest
    else if c = '\\' then
      match rest with
      | [] => none
      | e :: rest =>
        if isShortEscape e then messageRest? 0 rest
        else if e = 'u' then messageRest? 4 rest
        else if e = 'U' then messageRest? 8 rest
        else none
    else messageRest? 0 rest

/-- The blanks at the start of a text are left out; there has to be one at least. -/
def afterBlanks? : List Char → Option (List Char)
  | [] => none
  | c :: rest => if isBlank c then some (dropBlanks rest) else none

/-- The definition of the entry at the start of a text, and what follows the entry. -/
def entryAt? (text : List Char) : Option (Definition × List Char) := do
  let (code, text) ← readCode? text
  let text ← afterBlanks? text
  let (name, text) ← readName? text
  let text ← expect? '=' (dropBlanks text)
  let text ← expect? '"' (dropBlanks text)
  let text ← messageRest? 0 text
  let text ← expect? ';' (dropBlanks text)
  return (⟨String.ofList code, String.ofList name⟩, text)

/-! ## What is read gets shorter -/

theorem length_dropWhile_le (p : Char → Bool) (text : List Char) :
    (text.dropWhile p).length ≤ text.length :=
  (List.dropWhile_suffix p).length_le

theorem afterBlockEnd?_length {text rest : List Char} (found : afterBlockEnd? text = some rest) :
    rest.length < text.length := by
  induction text with
  | nil => simp [afterBlockEnd?] at found
  | cons c tail ih =>
    simp only [afterBlockEnd?] at found
    split at found
    · cases found
      simp only [List.length_tail, List.length_cons]
      omega
    · have := ih found
      simp only [List.length_cons]
      omega

theorem comment?_length {text rest : List Char} (found : comment? text = some rest) :
    rest.length < text.length := by
  unfold comment? at found
  split at found
  · cases found
    have := length_dropWhile_le (· ≠ '\n') ‹List Char›
    simp only [List.length_cons]
    omega
  · have := afterBlockEnd?_length found
    simp only [List.length_cons]
    omega
  · cases found

theorem readCodeTail_length (text : List Char) : (readCodeTail text).2.length ≤ text.length := by
  induction text with
  | nil => simp [readCodeTail]
  | cons c rest ih =>
    simp only [readCodeTail]
    split
    · simp only [Prod.map, id, List.length_cons]
      omega
    · simp

theorem expect?_length {expected : Char} {text rest : List Char}
    (found : expect? expected text = some rest) : rest.length < text.length := by
  cases text with
  | nil => simp [expect?] at found
  | cons c tail =>
    simp only [expect?] at found
    split at found <;> simp_all

theorem messageRest?_length {hexLeft : Nat} {text rest : List Char}
    (found : messageRest? hexLeft text = some rest) : rest.length < text.length := by
  fun_induction messageRest? hexLeft text <;> grind

theorem afterBlanks?_length {text rest : List Char} (found : afterBlanks? text = some rest) :
    rest.length < text.length := by
  cases text with
  | nil => simp [afterBlanks?] at found
  | cons c tail =>
    simp only [afterBlanks?] at found
    split at found
    · cases found
      have := length_dropWhile_le isBlank tail
      simp only [dropBlanks, List.length_cons]
      omega
    · cases found

theorem entryAt?_length {text rest : List Char} {definition : Definition}
    (found : entryAt? text = some (definition, rest)) : rest.length < text.length := by
  simp only [entryAt?, bind, Option.bind_eq_some_iff, pure, Option.some.injEq, Prod.mk.injEq] at found
  obtain ⟨⟨code, t₁⟩, h₁, t₂, h₂, ⟨name, t₃⟩, h₃, t₄, h₄, t₅, h₅, t₆, h₆, t₇, h₇, -, rfl⟩ := found
  have l₁ : t₁.length ≤ text.length := by
    cases text with
    | nil => simp [readCode?] at h₁
    | cons c tail =>
      simp only [readCode?] at h₁
      split at h₁
      · cases h₁
        have := readCodeTail_length tail
        simp only [id, List.length_cons]
        omega
      · cases h₁
  have l₂ := afterBlanks?_length h₂
  have l₃ : t₃.length ≤ t₂.length := by
    cases t₂ with
    | nil => simp [readName?] at h₃
    | cons c tail =>
      simp only [readName?] at h₃
      split at h₃
      · cases h₃
        have := length_dropWhile_le isNamePart tail
        simp only [List.length_cons]
        omega
      · cases h₃
  have l₄ := expect?_length h₄
  have l₅ := expect?_length h₅
  have l₆ := messageRest?_length h₆
  have l₇ := expect?_length h₇
  have b₃ := length_dropWhile_le isBlank t₃
  have b₄ := length_dropWhile_le isBlank t₄
  have b₆ := length_dropWhile_le isBlank t₆
  simp only [dropBlanks] at l₂ l₄ l₅ l₇
  omega

/-! ## Scanning -/

/-- The definitions of a text, or the part of it that starts with the first stray character. -/
def scanFrom (text : List Char) : Except (List Char) (List Definition) :=
  match text with
  | [] => .ok []
  | c :: rest =>
    match _comment : comment? (c :: rest) with
    | some after => scanFrom after
    | none =>
      match _entry : entryAt? (c :: rest) with
      | some (definition, after) => (scanFrom after).map (definition :: ·)
      | none => if isBlank c then scanFrom rest else .error (c :: rest)
termination_by text.length
decreasing_by
  · exact comment?_length _comment
  · exact entryAt?_length _entry
  · simp

/-- A character that has no place in a definition text, and where it stands. -/
structure Stray where
  character : Char
  position : Position
  deriving Repr, DecidableEq

/-- The code point of a stray character. -/
def Stray.codePoint (stray : Stray) : Nat :=
  stray.character.toNat

/-- The stray character at the start of `rest`, which is the end of `text`. -/
def Stray.atStartOf (text rest : List Char) : Stray where
  character := rest.headD '\x00'
  position := .after (text.take (text.length - rest.length))

/-- The definitions of a text in their order, or the first stray character. -/
def scan (text : String) : Except Stray (List Definition) :=
  (scanFrom text.toList).mapError (Stray.atStartOf text.toList)

end Codebook
