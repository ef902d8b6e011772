import Codebook.Text.Terminal

/-!
# Remarks on the work

A run remarks on what it does. Every remark has a level and a topic, and is written on a line of its
own behind both of them. Details are left out unless they are asked for; warnings are always
written. If a remark has line feeds in it, its further lines are set in. Of what it has in it for a
terminal, only what is shown is written.
-/

namespace Codebook

/-- How much a remark matters. -/
inductive Level where
  | detail
  | warning
  deriving Repr, DecidableEq

/-- The name of a level, wide enough for all of them. -/
def Level.word : Level → String
  | .detail => "DEBUG"
  | .warning => "WARN "

/-- Remarks. -/
inductive Remark where
  | loadingSettings (path : String)
  | noSettingsFound
  | readingDefinitions (path : String)
  | scanned (count : Nat)
  | readingTemplate (path : String)
  | replacing (count : Nat) (placeholder : String)
  | placeholderAbsent (template placeholder : String)
  | writingOutput (path : String)
  deriving Repr, DecidableEq

/-- How much a remark matters. Only a missing placeholder is worth a warning. -/
def Remark.level : Remark → Level
  | .placeholderAbsent _ _ => .warning
  | _ => .detail

/-- What a remark is about. -/
def Remark.topic : Remark → String
  | .loadingSettings _ | .noSettingsFound => "errcodegen::config"
  | .scanned _ => "errcodegen::scanner"
  | .replacing _ _ => "errcodegen::expander"
  | .readingDefinitions _ | .readingTemplate _ | .placeholderAbsent _ _ | .writingOutput _ =>
    "errcodegen::generator"

/-- The words of a remark. -/
def Remark.message : Remark → String
  | .loadingSettings path => "Loading configuration from " ++ path
  | .noSettingsFound => "No configuration file found, using defaults"
  | .readingDefinitions path => "Reading definitions from " ++ path
  | .scanned count => "Scanned " ++ toString count ++ " error codes"
  | .readingTemplate path => "Reading template from " ++ path
  | .replacing count placeholder =>
    "Replacing " ++ toString count ++ " occurrence(s) of " ++ placeholder
  | .placeholderAbsent template placeholder =>
    "Template " ++ template ++ " does not contain the placeholder " ++ placeholder
  | .writingOutput path => "Writing output to " ++ path

/-- A text with all lines but its first one set in. -/
def setIn (text : String) : String :=
  String.ofList (text.toList.flatMap fun c => if c = '\n' then "\n    ".toList else [c])

/-- The line that a remark is written on. -/
def Remark.line (remark : Remark) : String :=
  Text.shown
    ("[" ++ remark.level.word ++ " " ++ remark.topic ++ "] " ++ setIn remark.message ++ "\n")

/-- The lines of those remarks that are written. -/
def logText (details : Bool) (remarks : List Remark) : String :=
  "".intercalate ((remarks.filter fun remark => details || remark.level = .warning).map Remark.line)

end Codebook
