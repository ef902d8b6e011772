import Codebook.Definition
import Codebook.Files
import Codebook.Settings.Layer
import Codebook.Template.Fault
import Codebook.Text.Quoted

/-!
# Failures

Everything that can stop the work: a stray character in the definitions, a file that cannot be read
or written, settings that are not valid, a line format that cannot be rendered, a placeholder that is
missing where it has to be there. The wording of all failures is here.
-/

namespace Codebook

/-- Failures. -/
inductive Failure where
  | stray (stray : Stray)
  | io (fault : FileFault)
  | unreadable (path : String) (fault : FileFault)
  | unwritable (path : String) (fault : FileFault)
  | settings (fault : SettingsFault)
  | lineFormat (fault : Template.Fault)
  | pattern (text : String)
  | placeholderMissing (template placeholder : String)
  deriving Repr

/-- The message of a stray character: its code point, itself between quotes, and its position. -/
def Stray.message (stray : Stray) : String :=
  "Invalid character: " ++ toString stray.codePoint ++ " (" ++
    Text.quoteChar stray.character ++ ") at line " ++ toString stray.position.line ++
    ", column " ++ toString stray.position.column ++ "."

/-- The message of a failure. -/
def Failure.message : Failure → String
  | .stray found => found.message
  | .io fault => "IO error: " ++ fault.message ++ "."
  | .unreadable path fault => "Failed to read '" ++ path ++ "': " ++ fault.message ++ "."
  | .unwritable path fault => "Failed to write '" ++ path ++ "': " ++ fault.message ++ "."
  | .settings fault => "Configuration error: " ++ fault.message ++ "."
  | .lineFormat fault => "Line format error: " ++ fault.message ++ "."
  | .pattern text => "Pattern error: " ++ text ++ "."
  | .placeholderMissing template placeholder =>
    "Template '" ++ template ++ "' does not contain the placeholder '" ++ placeholder ++ "'."

end Codebook
