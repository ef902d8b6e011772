import Codebook.Text.Quoted
import Codebook.Template.Order

/-!
# The text of values

What is put out for a value: nothing for what is undefined, text as it is, numbers with the fewest
digits that tell them apart, lists and maps between brackets. Inside brackets text stands between
quotes, and numbers that are far off have an exponent.
-/

namespace Codebook.Template

open Decimal

/-- What the full name of every function starts with. -/
def functionPlace : String :=
  "minijinja::functions::builtins::"

/-- What a running loop is called: how far it has come, and how far it goes if that is known. -/
def loopLabel (held : List (Value × Value)) : String :=
  let part (name : String) : String :=
    match valueFor? (.ofText name) held with
    | some (.int n) => toString n
    | _ => "?"
  "<loop " ++ part "index0" ++ "/" ++ part "length" ++ ">"

mutual

/-- The text of a value inside another value. -/
def Value.shownWithin (depth : Nat) (value : Value) : List Char :=
  match depth with
  | 0 => []
  | depth + 1 =>
    match value with
    | .undefined => "undefined".toList
    | .float x => (floatTerm x).toList
    | .text content _ => Text.quoteText content.toList
    | other => Value.textWithin depth other

/-- The text of a value. -/
def Value.textWithin (depth : Nat) (value : Value) : List Char :=
  match depth with
  | 0 => []
  | depth + 1 =>
    let commas (parts : List (List Char)) : List Char := List.intercalate [',', ' '] parts
    let list (items : List Value) : List Char :=
      '[' :: commas (items.map (Value.shownWithin depth)) ++ [']']
    let map (entries : List (Value × Value)) : List Char :=
      let entry (part : Value × Value) : List Char :=
        Value.shownWithin depth part.1 ++ [':', ' '] ++ Value.shownWithin depth part.2
      '{' :: commas (entries.map entry) ++ ['}']
    match value with
    | .undefined => []
    | .none => "None".toList
    | .bool value => (if value then "True" else "False").toList
    | .int value => (toString value).toList
    | .wide value => (toString value).toList
    | .float value => (floatText value).toList
    | .nan _ => "NaN".toList
    | .text value _ => value.toList
    | .list items _ | .sequence items _ => list items
    | .stream _ _ => "<iterator>".toList
    | .group key members _ => list [key, .ofSequence members]
    | .map entries _ | .keywords entries | .namespace _ entries => map entries
    | .routine declared _ _ => ("<macro " ++ declared.name ++ ">").toList
    | .loop _ held => (loopLabel held).toList
    | .function name => (functionPlace ++ name).toList
    | .invalid fault => ("<invalid value: " ++ fault.message ++ ">").toList

end

/-- The text of a value. -/
def Value.toText : Value → String
  | .text value _ => value
  | other => String.ofList (other.textWithin valueDepth)

/-- The text of a value laid out over several lines: every item of a list and every entry of a map
    stands on a line of its own, four blanks further in. -/
def Value.layoutWithin (depth : Nat) (indent : List Char) (value : Value) : List Char :=
  match depth with
  | 0 => []
  | depth + 1 =>
    let inner := indent ++ [' ', ' ', ' ', ' ']
    let rows (opening closing : Char) (parts : List (List Char)) : List Char :=
      if parts.isEmpty then [opening, closing]
      else
        opening :: '\n' :: (parts.flatMap fun part => inner ++ part ++ [',', '\n']) ++
          indent ++ [closing]
    let map (entries : List (Value × Value)) : List Char :=
      rows '{' '}' (entries.map fun (key, item) =>
        Value.layoutWithin depth inner key ++ [':', ' '] ++ Value.layoutWithin depth inner item)
    match value with
    | .list items _ | .sequence items _ =>
      rows '[' ']' (items.map (Value.layoutWithin depth inner))
    | .group key members _ =>
      rows '[' ']' ([key, .ofSequence members].map (Value.layoutWithin depth inner))
    | .map entries _ | .keywords entries | .namespace _ entries => map entries
    | _ => value.shownWithin valueDepth

/-- The text of a value laid out over several lines. -/
def Value.laidOut (value : Value) : Value :=
  .ofChars (value.layoutWithin valueDepth [])

/-! ## Escaping -/

/-- The written form of a character where text is escaped. -/
def escapeChar (c : Char) : List Char :=
  match c with
  | '<' => "&lt;".toList
  | '>' => "&gt;".toList
  | '&' => "&amp;".toList
  | '"' => "&quot;".toList
  | '\'' => "&#x27;".toList
  | '/' => "&#x2f;".toList
  | other => [other]

/-- The text with everything escaped that needs it. -/
def escapeText (text : List Char) : List Char :=
  text.flatMap escapeChar

/-- The text of a value with everything escaped that needs it. -/
def Value.escaped (value : Value) : String :=
  match value with
  | .text content true => content
  | .undefined | .none | .bool _ | .int _ | .wide _ | .float _ | .nan _ => value.toText
  | other => String.ofList (escapeText other.toText.toList)

end Codebook.Template
