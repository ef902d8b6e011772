import Codebook.Json
import Codebook.Settings.Layer

/-!
# Settings from JSON

A layer is written as an object with the names of settings, or as an array of all four of them in
their order. A setting that is null is left open. A name that is no setting, or that stands twice,
makes the text no layer, and so does a value of the wrong type.
-/

namespace Codebook

/-- The value of a setting that may be left open. -/
def Json.optional? {α : Type} (value? : Json → Option α) : Json → Option (Option α)
  | .null => some none
  | value => (value? value).map some

/-- The text of a text value. -/
def Json.asText? : Json → Option String
  | .text value => some value
  | _ => none

/-- The truth value of a truth value. -/
def Json.asBool? : Json → Option Bool
  | .bool value => some value
  | _ => none

/-- The dialect of a name. The name may also stand as the only one of an object, with nothing to
    say about it. -/
def Json.asDialect? : Json → Option Dialect
  | .text name => Dialect.ofName? name false
  | .object [(name, .null)] => Dialect.ofName? name false
  | _ => none

/-- Adds the members of an object to a layer. `seen` are the names that have come before. -/
def Layer.addMembers? (layer : Layer) (seen : List String) :
    List (String × Json) → Option Layer
  | [] => some layer
  | (name, value) :: rest =>
    if seen.contains name then none
    else
      let next : Option Layer :=
        match name with
        | "placeholder" => (value.optional? Json.asText?).map fun placeholder =>
          { layer with placeholder }
        | "dialect" => (value.optional? Json.asDialect?).map fun dialect => { layer with dialect }
        | "line_format" => (value.optional? Json.asText?).map fun lineFormat =>
          { layer with lineFormat }
        | "strict" => (value.optional? Json.asBool?).map fun strict => { layer with strict }
        | _ => none
      match next with
      | some next => next.addMembers? (name :: seen) rest
      | none => none

/-- The layer that a value stands for. -/
def Layer.ofJson? : Json → Option Layer
  | .object members => Layer.empty.addMembers? [] members
  | .array [placeholder, dialect, lineFormat, strict] => do
    return {
      placeholder := ← placeholder.optional? Json.asText?
      dialect := ← dialect.optional? Json.asDialect?
      lineFormat := ← lineFormat.optional? Json.asText?
      strict := ← strict.optional? Json.asBool? }
  | _ => none

end Codebook
