import Codebook.Settings.Layer
import Codebook.Yaml.Event

/-!
# Settings from YAML

A layer is written as a mapping with the names of settings, or as nothing at all. The entries are
taken in their order, and the first misfit ends it, even if the text is not well formed further on.
Only if all entries fit does a fault of the text count, and so does a second document.

A scalar stands for a text whatever it looks like, unless it is written plain and is a word for
nothing. What a plain scalar looks like is asked only where it does not fit, to say what was found.
-/

namespace Codebook

open Decimal

/-! ## Plain scalars -/

/-- Whether a plain scalar is a word for nothing. -/
def isNullWord (text : String) : Bool :=
  ["null", "Null", "NULL", "~"].contains text

/-- The truth value that a plain scalar stands for. -/
def boolWord? (text : String) : Option Bool :=
  if ["true", "True", "TRUE"].contains text then some true
  else if ["false", "False", "FALSE"].contains text then some false
  else none

/-- Whether a text looks like a number and has a zero in front. -/
def hasLeadingZero (text : List Char) : Bool :=
  let digits :=
    match text with
    | '-' :: rest => rest
    | '+' :: rest => rest
    | rest => rest
  match digits with
  | '0' :: rest => !rest.isEmpty && rest.all Char.isDigit
  | _ => false

/-- The base that a number with some letters in front is written in, and its digits. -/
def baseOf (text : List Char) : Nat × List Char :=
  match text with
  | '0' :: 'x' :: rest => (16, rest)
  | '0' :: 'o' :: rest => (8, rest)
  | '0' :: 'b' :: rest => (2, rest)
  | rest => (10, rest)

/-- The whole number that a plain scalar stands for. -/
def plainInt? (text : List Char) : Option Int :=
  let digits (text : List Char) : Option Nat :=
    let (base, digits) := baseOf text
    if base = 10 ∧ hasLeadingZero text then none else readNat? base digits
  match text with
  | '-' :: rest => (digits rest).map fun n => -(n : Int)
  | '+' :: rest => (digits rest).map Int.ofNat
  | rest => (digits rest).map Int.ofNat

/-- The whole number that a plain scalar stands for, as what was found. -/
def foundInt? (text : String) : Option Found :=
  match plainInt? text.toList with
  | some n =>
    if -(twoTo 63) ≤ n ∧ n < twoTo 64 then some (.int n)
    else if -(twoTo 127) ≤ n ∧ n < twoTo 128 then some (.wideInt n)
    else none
  | none => none

/-- The number of double precision that a plain scalar stands for. -/
def plainFloat? (text : String) : Option Float :=
  let infinity : Float := 1.0 / 0.0
  match text with
  | ".inf" | ".Inf" | ".INF" | "+.inf" | "+.Inf" | "+.INF" => some infinity
  | "-.inf" | "-.Inf" | "-.INF" => some (-infinity)
  | ".nan" | ".NaN" | ".NAN" => some (0.0 / 0.0)
  | _ => (readFloat? text.toList).filter fun x => !x.isInf && !x.isNaN

/-- What a plain scalar without a tag stands for. -/
def foundPlain (text : String) : Found :=
  if text.isEmpty || isNullWord text then .unit
  else
    match boolWord? text with
    | some value => .bool value
    | none =>
      match foundInt? text with
      | some found => found
      | none =>
        if hasLeadingZero text.toList then .text text
        else
          match plainFloat? text with
          | some x => .float x
          | none => .text text

/-! ## What does not fit -/

/-- A tag of the standard. -/
def standardTag (name : String) : Yaml.TagText :=
  .ofString ("tag:yaml.org,2002:" ++ name)

/-- The byte that a tag of one's own starts with. -/
def ownMark : UInt8 := 0x21

/-- The problem with a scalar where something else was expected. A tag of the standard says what the
    scalar has to be. -/
def scalarProblem (text : String) (style : Yaml.Style) (tag : Option Yaml.TagText)
    (expected : String) : Problem :=
  let found (found : Option Found) (needed : String) : Problem :=
    match found with
    | some found => .invalidType found expected
    | none => .invalidValue (.text text) needed
  let plain : Problem :=
    .invalidType (if style = .plain then foundPlain text else .text text) expected
  match tag with
  | none => plain
  | some tag =>
    if tag = standardTag "bool" then found ((boolWord? text).map .bool) "a boolean"
    else if tag = standardTag "int" then found (foundInt? text) "an integer"
    else if tag = standardTag "float" then found ((plainFloat? text).map .float) "a float"
    else if tag = standardTag "null" then
      found (if isNullWord text then some .unit else none) "null"
    else if tag.head? = some ownMark then plain
    else .invalidType (.text text) expected

/-- The problem with what was found where something else was expected. -/
def problemWith (event : Yaml.Event) (expected : String) : Problem :=
  match event with
  | .scalar text style tag => scalarProblem text style tag expected
  | .sequenceStart _ => .invalidType .sequence expected
  | _ => .invalidType .map expected

/-! ## Values -/

/-- A value that is taken for something, or a misfit. -/
abbrev Fitting (α : Type) := Except Misfit α

/-- A misfit that has no place yet. -/
def misfit {α : Type} (problem : Problem) : Fitting α :=
  throw ⟨problem, none⟩

/-- Whether a value leaves its setting open. -/
def leftOpen (event : Yaml.Event) : Fitting Bool :=
  match event with
  | .scalar text .plain none => return text.isEmpty || isNullWord text
  | .scalar text .plain (some tag) =>
    if tag = standardTag "null" then
      if isNullWord text then return true else misfit (.invalidValue (.text text) "null")
    else return false
  | _ => return false

/-- The text that a value stands for. -/
def fitText (event : Yaml.Event) : Fitting String :=
  match event with
  | .scalar text _ _ => return text
  | other => misfit (problemWith other "a string")

/-- The truth value that a value stands for. -/
def fitBool (event : Yaml.Event) : Fitting Bool :=
  let answer : Option Bool :=
    match event with
    | .scalar text .plain _ => boolWord? text
    | .scalar text .literal tag => if tag = some (standardTag "bool") then boolWord? text else none
    | _ => none
  match answer with
  | some value => return value
  | none => misfit (problemWith event "a boolean")

/-- The name that the tag of a value gives, if it is a tag of one's own and a text. A mark alone is a
    name as well. -/
def ownTag? (event : Yaml.Event) : Option String :=
  let tag : Option Yaml.TagText :=
    match event with
    | .scalar _ _ tag => tag
    | .sequenceStart tag => tag
    | .mappingStart tag => tag
    | _ => none
  tag.bind fun tag =>
    match tag with
    | [] => none
    | first :: rest =>
      if first ≠ ownMark then none
      else Yaml.TagText.toString? (if rest.isEmpty then [first] else rest)

/-- The dialect of a name. -/
def fitDialectName (name : String) : Fitting Dialect :=
  match Dialect.ofName? name false with
  | some dialect => return dialect
  | none => misfit (.unknownVariant name)

/-- Refuses a value that says anything. -/
def fitNothing (event : Yaml.Event) : Fitting Unit :=
  match event with
  | .scalar text style _ =>
    if style = .plain ∧ (text.isEmpty ∨ isNullWord text) then return
    else misfit (.invalidValue (.text text) "null")
  | other => misfit (problemWith other "unit")

/-- The dialect that a value stands for: a name, or a tag with nothing behind it. The name in a tag
    is not looked for at a place of the text. -/
def fitDialect (place : Misfit → Misfit) (event : Yaml.Event) : Fitting Dialect :=
  match ownTag? event with
  | some name => do
    let dialect ← fitDialectName name
    (fitNothing event).mapError place
    return dialect
  | none =>
    match event with
    | .scalar text _ _ => (fitDialectName text).mapError place
    | other => (misfit (problemWith other "a YAML tag starting with '!'")).mapError place

/-- A value that may be left open. -/
def fitOptional {α : Type} (fit : Yaml.Event → Fitting α) (event : Yaml.Event) :
    Fitting (Option α) := do
  if ← leftOpen event then return none else return some (← fit event)

/-! ## Layers -/

/-- The layer with one setting more. -/
def Layer.fitSetting (layer : Layer) (name : String) (setting : String) (value : Yaml.Happening) :
    Fitting Layer := do
  let place (misfit : Misfit) : Misfit := misfit.at setting value.mark
  let text (event : Yaml.Event) : Fitting String := (fitText event).mapError place
  match name with
  | "placeholder" => return { layer with placeholder := ← fitOptional text value.event }
  | "dialect" => return { layer with dialect := ← fitOptional (fitDialect place) value.event }
  | "line_format" => return { layer with lineFormat := ← fitOptional text value.event }
  | _ =>
    let bool (event : Yaml.Event) : Fitting Bool := (fitBool event).mapError place
    return { layer with strict := ← fitOptional bool value.event }

/-- Adds the entries of a mapping to a layer. `seen` are the names that have come before. -/
def Layer.fitEntries (start : Yaml.Mark) (layer : Layer) (seen : List String) :
    List Yaml.Happening → Except SettingsFault Layer
  | [] => throw .malformed
  | [key] =>
    match key.event with
    | .mappingEnd => return layer
    | .scalar name _ _ =>
      if !settingNames.contains name then
        throw (.misfit (Misfit.at ⟨.unknownField name, none⟩ "" key.mark))
      else if seen.contains name then
        throw (.misfit (Misfit.at ⟨.duplicateField name, none⟩ "" start))
      else throw .malformed
    | other =>
      throw (.misfit (Misfit.at ⟨problemWith other "field identifier", none⟩ "" key.mark))
  | key :: value :: rest =>
    match key.event with
    | .mappingEnd => return layer
    | .scalar name _ _ =>
      if !settingNames.contains name then
        throw (.misfit (Misfit.at ⟨.unknownField name, none⟩ "" key.mark))
      else if seen.contains name then
        throw (.misfit (Misfit.at ⟨.duplicateField name, none⟩ "" start))
      else
        match layer.fitSetting name (if key.aliased then "?" else name) value with
        | .ok layer => layer.fitEntries start (name :: seen) rest
        | .error misfit => throw (.misfit (misfit.at "" start))
    | other =>
      throw (.misfit (Misfit.at ⟨problemWith other "field identifier", none⟩ "" key.mark))

/-- The layer that a document stands for, whether or not it is well formed to its end. -/
def Layer.fitDocument (document : Yaml.Document) : Except SettingsFault Layer :=
  match document.happenings with
  | [] => if document.complete then return .empty else throw .malformed
  | first :: rest =>
    let refuse : Except SettingsFault Layer :=
      throw (.misfit (Misfit.at ⟨problemWith first.event "struct Config", none⟩ "" first.mark))
    match first.event with
    | .mappingStart _ => Layer.empty.fitEntries first.mark [] rest
    | .scalar text style _ =>
      if text.isEmpty ∧ style = .plain then return .empty else refuse
    | _ => refuse

/-- The layer that a text stands for. -/
def Layer.ofYaml (text : List Char) : Except SettingsFault Layer := do
  let document := Yaml.Document.ofText text
  let layer ← Layer.fitDocument document
  if document.complete && document.alone then return layer else throw .malformed

end Codebook
