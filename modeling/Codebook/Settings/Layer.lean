import Codebook.Dialect
import Codebook.Settings.Misfit

/-!
# Settings in layers

Settings come from several places, of which later ones have more weight. Every place gives a layer,
in which any setting may be left open. Layers are put over one another, setting by setting; what is
still open in the end takes its default. A line format of one's own has more weight than a dialect,
whichever layer either comes from.
-/

namespace Codebook

/-- Some of the settings. -/
structure Layer where
  placeholder : Option String
  dialect : Option Dialect
  lineFormat : Option String
  strict : Option Bool
  deriving Repr, DecidableEq

/-- The layer that leaves everything open. -/
def Layer.empty : Layer :=
  ⟨none, none, none, none⟩

/-- The layer with another one put over it. -/
def Layer.merge (lower upper : Layer) : Layer where
  placeholder := upper.placeholder.or lower.placeholder
  dialect := upper.dialect.or lower.dialect
  lineFormat := upper.lineFormat.or lower.lineFormat
  strict := upper.strict.or lower.strict

/-- Layers put over one another, the first one lowest. -/
def Layer.stack (layers : List Layer) : Layer :=
  layers.foldl Layer.merge .empty

/-- All settings. -/
structure Settings where
  placeholder : String
  lineFormat : String
  strict : Bool
  deriving Repr, DecidableEq

/-- The placeholder that is used if none is set. -/
def defaultPlaceholder : String :=
  "\x7b$errorCodes$\x7d"

/-- What can be wrong with settings, or with the text they are read from. -/
inductive SettingsFault where
  | emptyPlaceholder
  | emptyLineFormat
  | malformed
  | misfit (misfit : Misfit)
  | other (text : String)
  deriving Repr

/-- What is said about a fault of settings. -/
def SettingsFault.message : SettingsFault → String
  | .emptyPlaceholder => "placeholder must not be empty"
  | .emptyLineFormat => "line format must not be empty"
  | .malformed => "Invalid configuration format: the text is not well formed"
  | .misfit found => "Invalid configuration format: " ++ found.message
  | .other text => text

/-- The settings of a layer, with defaults for what it leaves open. Neither the placeholder nor the
    line format may be empty. -/
def Settings.ofLayer (layer : Layer) : Except SettingsFault Settings := do
  let placeholder := layer.placeholder.getD defaultPlaceholder
  if placeholder.isEmpty then throw .emptyPlaceholder
  let lineFormat := layer.lineFormat.getD (layer.dialect.getD .default).lineFormat
  if lineFormat.isEmpty then throw .emptyLineFormat
  return { placeholder, lineFormat, strict := layer.strict.getD false }

end Codebook
