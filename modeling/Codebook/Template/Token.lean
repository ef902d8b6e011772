import Codebook.Text.Blank
import Codebook.Template.Literal

/-!
# Tokens of a line format

A line format alternates between text that is copied and tags: `{{ … }}` for a value, `{% … %}`
for a statement, `{# … #}` for a comment. A minus sign inside a tag's delimiter removes the blanks
of the text on that side, a plus sign is allowed and does nothing. The part between a `raw` and an
`endraw` statement is text whatever it looks like.

The tokens before a fault are delivered together with it, since a reader that stops earlier never
meets the fault. Each token knows its line.
-/

namespace Codebook.Template

open Text

/-- Operators and punctuation. -/
inductive Symbol where
  | floorDiv | pow | eq | ne | ge | le
  | plus | minus | times | div | percent
  | dot | comma | colon | tilde | pipe | assign | gt | lt
  | parenOpen | parenClose | bracketOpen | bracketClose | braceOpen | braceClose
  deriving Repr, DecidableEq

/-- Tokens. -/
inductive Token where
  | text (raw : String)
  | outputStart
  | outputEnd
  | statementStart
  | statementEnd
  | word (name : String)
  | string (value : String)
  | int (value : Nat)
  | float (value : Float)
  | symbol (symbol : Symbol)

/-- A token and the line it starts on. -/
structure Placed where
  token : Token
  line : Nat

/-- Tokens up to the end of the text or to a fault. -/
structure TokenStream where
  tokens : List Placed
  fault : Option Fault

/-- The stream with one more token in front. -/
def TokenStream.push (stream : TokenStream) (token : Token) (line : Nat) : TokenStream :=
  { stream with tokens := ⟨token, line⟩ :: stream.tokens }

/-- The empty stream that ends in a fault on a line. -/
def TokenStream.stop (fault : Fault) (line : Nat) : TokenStream :=
  ⟨[], some (fault.at line)⟩

/-! ## Text outside tags -/

/-- The kinds of tags. -/
inductive TagKind where
  | output
  | statement
  | comment
  deriving Repr, DecidableEq

/-- The kind of tag that two characters open. -/
def tagKind? (first second : Char) : Option TagKind :=
  if first = '{' then
    if second = '{' then some .output
    else if second = '%' then some .statement
    else if second = '#' then some .comment
    else none
  else none

/-- The text before the first tag, the tag's kind and what follows its opening delimiter. -/
def splitAtTag : List Char → List Char × Option (TagKind × List Char)
  | [] => ([], none)
  | c :: rest =>
    match rest with
    | [] => ([c], none)
    | d :: after =>
      match tagKind? c d with
      | some kind => ([], some (kind, after))
      | none =>
        let (more, tag) := splitAtTag rest
        (c :: more, tag)

/-- What a sign inside a delimiter asks for. -/
inductive Sign where
  | none
  | trim
  | keep
  deriving Repr, DecidableEq

/-- The sign at the start of a text, and what follows it. -/
def readSign : List Char → Sign × List Char
  | '-' :: rest => (.trim, rest)
  | '+' :: rest => (.keep, rest)
  | rest => (.none, rest)

/-- The number of line feeds in a text. -/
def lineFeeds (text : List Char) : Nat :=
  text.count '\n'

/-- The blanks that are skipped inside tags. -/
def isTagBlank (c : Char) : Bool :=
  c = ' ' || c = '\t' || c = '\n' || c = '\r' || c = '\x0c'

/-- What follows the words at the start of a text, if it starts with them. -/
def stripWord? (word : List Char) (text : List Char) : Option (List Char) :=
  if word.isPrefixOf text then some (text.drop word.length) else none

/-- What follows a statement tag that consists of one word, read from after its opening
    delimiter, and the sign in its closing delimiter. -/
def bareTag? (word : String) (text : List Char) : Option (Sign × List Char) := do
  let text ← stripWord? word.toList (text.dropWhile isTagBlank)
  let (sign, text) := readSign (text.dropWhile isTagBlank)
  let rest ← stripWord? ['%', '}'] text
  return (sign, rest)

/-- The text up to the tag that ends a raw part, the two signs of that tag, and what follows. -/
def rawText? : List Char → Option (List Char × Sign × Sign × List Char)
  | [] => none
  | c :: rest =>
    let ending : Option (Sign × Sign × List Char) := do
      guard (c = '{')
      let text ← stripWord? ['%'] rest
      let (before, text) := readSign text
      let (after, rest) ← bareTag? "endraw" text
      return (before, after, rest)
    match ending with
    | some (before, after, rest) => some ([], before, after, rest)
    | none => (rawText? rest).map fun (more, found) => (c :: more, found)

/-- What follows a comment, read from after its opening delimiter and sign, and the sign in its
    closing delimiter. -/
def afterComment? : (previous : Char) → List Char → Option (Sign × List Char)
  | _, [] => none
  | previous, c :: rest =>
    if c = '#' ∧ rest.head? = some '}' then some ((readSign [previous]).1, rest.tail)
    else afterComment? c rest

/-! ## Inside tags -/

/-- Symbols of two characters. -/
def pairSymbol? : Char → Char → Option Symbol
  | '/', '/' => some .floorDiv
  | '*', '*' => some .pow
  | '=', '=' => some .eq
  | '!', '=' => some .ne
  | '>', '=' => some .ge
  | '<', '=' => some .le
  | _, _ => none

/-- Symbols of one character. -/
def singleSymbol? (c : Char) : Option Symbol :=
  match c with
  | '+' => some .plus
  | '-' => some .minus
  | '*' => some .times
  | '/' => some .div
  | '%' => some .percent
  | '.' => some .dot
  | ',' => some .comma
  | ':' => some .colon
  | '~' => some .tilde
  | '|' => some .pipe
  | '=' => some .assign
  | '>' => some .gt
  | '<' => some .lt
  | '(' => some .parenOpen
  | ')' => some .parenClose
  | '[' => some .bracketOpen
  | ']' => some .bracketClose
  | '{' => some .braceOpen
  | '}' => some .braceClose
  | _ => none

/-- How a symbol changes the number of open brackets. -/
def Symbol.nesting : Symbol → Int
  | .parenOpen | .bracketOpen | .braceOpen => 1
  | .parenClose | .bracketClose | .braceClose => -1
  | _ => 0

/-- The characters a name may go on with. -/
def isWordPart (c : Char) : Bool :=
  c.isAlphanum || c = '_'

/-- The token at the start of a text inside a tag that is neither blank nor the tag's end, and
    what follows it. -/
def readToken (text : List Char) : Except Fault (Token × List Char) :=
  match text with
  | [] => throw (.about .malformed "unexpected end of input")
  | c :: rest =>
    match rest.head?.bind (pairSymbol? c) with
    | some symbol => return (.symbol symbol, rest.tail)
    | none =>
      match singleSymbol? c with
      | some symbol => return (.symbol symbol, rest)
      | none =>
        if c = '"' || c = '\'' then do
          let (value, rest) ← readQuoted c rest
          return (.string value, rest)
        else if c.isDigit then do
          match ← readNumber text with
          | (.int value, rest) => return (.int value, rest)
          | (.float value, rest) => return (.float value, rest)
        else if isWordStart c then
          return (.word (String.ofList (c :: rest.takeWhile isWordPart)), rest.dropWhile isWordPart)
        else throw (.about .malformed "unexpected character")

/-- What follows the closing delimiter of a tag at the start of a text, and its sign. -/
def tagEnd? (closing : Char) (text : List Char) : Option (Sign × List Char) :=
  let (sign, after) := readSign text
  match after with
  | c :: '}' :: rest => if c = closing then some (sign, rest) else none
  | _ => none

/-! ## The whole text -/

/-- Where a reader of tokens stands: outside tags, where the blanks ahead may have to be dropped,
    or inside a tag, with a number of brackets open. Brackets are counted across tags. -/
inductive Place where
  | outside (trimming : Bool)
  | inside (output : Bool)
  deriving Repr, DecidableEq

/-- The tokens of a text. Every step takes a character or ends, so `fuel` need not be more than
    the length. -/
def tokensFrom (fuel : Nat) (place : Place) (nesting : Int) (line : Nat) (text : List Char) :
    TokenStream :=
  match fuel with
  | 0 => ⟨[], none⟩
  | fuel + 1 =>
    match place with
    | .outside trimming =>
      let (raw, tag) := splitAtTag text
      let shown := if trimming then dropBlanks raw else raw
      let startLine := line + lineFeeds (raw.take (raw.length - shown.length))
      let tagLine := line + lineFeeds raw
      let emit (shown : List Char) (stream : TokenStream) : TokenStream :=
        if shown.isEmpty then stream else stream.push (.text (String.ofList shown)) startLine
      match tag with
      | none => emit shown ⟨[], none⟩
      | some (kind, after) =>
        let (sign, after) := readSign after
        let shown := if sign = .trim then dropBlanksRight shown else shown
        emit shown <|
          match kind with
          | .output =>
            (tokensFrom fuel (.inside true) nesting tagLine after).push .outputStart tagLine
          | .statement =>
            match bareTag? "raw" after with
            | none =>
              (tokensFrom fuel (.inside false) nesting tagLine after).push .statementStart tagLine
            | some (opening, inner) =>
              match rawText? inner with
              | none => .stop (.about .malformed "unexpected end of raw block") tagLine
              | some (raw, before, closing, rest) =>
                let shown := if opening = .trim then dropBlanks raw else raw
                let shown := if before = .trim then dropBlanksRight shown else shown
                let passed := after.take (after.length - rest.length)
                (tokensFrom fuel (.outside (closing = .trim)) nesting (tagLine + lineFeeds passed)
                  rest).push (.text (String.ofList shown)) tagLine
          | .comment =>
            match afterComment? '#' after with
            | none => .stop (.about .malformed "unexpected end of comment") tagLine
            | some (closing, rest) =>
              let passed := after.take (after.length - rest.length)
              tokensFrom fuel (.outside (closing = .trim)) nesting (tagLine + lineFeeds passed) rest
    | .inside output =>
      match text with
      | [] => ⟨[], none⟩
      | c :: rest =>
        if isTagBlank c then
          tokensFrom fuel place nesting (if c = '\n' then line + 1 else line) rest
        else
          match if nesting = 0 then tagEnd? (if output then '}' else '%') text else none with
          | some (sign, rest) =>
            (tokensFrom fuel (.outside (sign = .trim)) nesting line rest).push
              (if output then .outputEnd else .statementEnd) line
          | none =>
            match readToken text with
            | .error fault => .stop fault line
            | .ok (token, rest) =>
              let change :=
                match token with
                | .symbol symbol => symbol.nesting
                | _ => 0
              let passed := text.take (text.length - rest.length)
              (tokensFrom fuel place (nesting + change) (line + lineFeeds passed) rest).push token
                line

/-- The tokens of a line format. -/
def tokens (text : String) : TokenStream :=
  let text := text.toList
  tokensFrom (text.length + 1) (.outside false) 0 1 text

end Codebook.Template
