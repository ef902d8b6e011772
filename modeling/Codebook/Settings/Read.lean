import Codebook.Settings.OfJson
import Codebook.Settings.OfYaml
import Codebook.Text.Blank

/-!
# Reading settings

The text of a configuration is read as JSON; if it is not that, as YAML, and what is wrong with it
as YAML is what is reported. A text of blanks only leaves everything open.
-/

namespace Codebook

/-- The layer that the text of a configuration stands for. -/
def Layer.read (text : String) : Except SettingsFault Layer :=
  if (Text.trim text.toList).isEmpty then return .empty
  else
    match (Json.read? text).bind Layer.ofJson? with
    | some layer => return layer
    | none => Layer.ofYaml text.toList

end Codebook
