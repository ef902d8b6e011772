import Codebook.Decimal.Shortest
import Codebook.Text.Quoted
import Codebook.Yaml.Cursor

/-!
# Where a text does not fit the settings

A text that is well formed may still not say what settings can be: it names a setting that does not
exist or names one twice, or gives a setting a value of the wrong type. Such a misfit has a place:
the setting it was found in and a position in the text. Faults of the text as a whole have neither,
and a position at the very start is not worth naming.
-/

namespace Codebook

/-- What was found in a text. -/
inductive Found where
  | unit
  | bool (value : Bool)
  | int (value : Int)
  | wideInt (value : Int)
  | float (value : Float)
  | text (value : String)
  | sequence
  | map
  deriving Repr

/-- A text between quotes, as messages show it. -/
def shownText (text : String) : String :=
  String.ofList (Text.quoteText text.toList)

/-- The words for what was found. Whole numbers of more than 64 bits are named with their type. -/
def Found.words : Found → String
  | .unit => "unit value"
  | .bool value => "boolean `" ++ (if value then "true" else "false") ++ "`"
  | .int value => "integer `" ++ toString value ++ "`"
  | .wideInt value =>
    "integer `" ++ toString value ++ "` as " ++ (if value < 0 then "i128" else "u128")
  | .float value => "floating point `" ++ Decimal.floatText value ++ "`"
  | .text value => "string " ++ shownText value
  | .sequence => "sequence"
  | .map => "map"

/-- What does not fit. -/
inductive Problem where
  | unknownField (name : String)
  | duplicateField (name : String)
  | unknownVariant (name : String)
  | invalidType (found : Found) (expected : String)
  | invalidValue (found : Found) (expected : String)
  deriving Repr

/-- The names of all settings, as they are listed in messages. -/
def settingNames : List String :=
  ["placeholder", "dialect", "line_format", "strict"]

/-- Names between backquotes, separated by a word or a comma. -/
def quotedNames (separator : String) (names : List String) : String :=
  separator.intercalate (names.map fun name => "`" ++ name ++ "`")

/-- The words for a problem. -/
def Problem.words : Problem → String
  | .unknownField name =>
    "unknown field `" ++ name ++ "`, expected one of " ++ quotedNames ", " settingNames
  | .duplicateField name => "duplicate field `" ++ name ++ "`"
  | .unknownVariant name =>
    "unknown variant `" ++ name ++ "`, expected " ++ quotedNames " or " ["csharp", "rust"]
  | .invalidType found expected => "invalid type: " ++ found.words ++ ", expected " ++ expected
  | .invalidValue found expected => "invalid value: " ++ found.words ++ ", expected " ++ expected

/-- A problem and its place, if it has one: the setting it was found in, empty for the text as a
    whole, and where it stands. -/
structure Misfit where
  problem : Problem
  place : Option (String × Yaml.Mark)
  deriving Repr

/-- The misfit with a place. A misfit keeps the first place it is given. -/
def Misfit.at (misfit : Misfit) (setting : String) (mark : Yaml.Mark) : Misfit :=
  { misfit with place := misfit.place.or (some (setting, mark)) }

/-- The text of a misfit. Lines and columns are counted from one. -/
def Misfit.message (misfit : Misfit) : String :=
  match misfit.place with
  | none => misfit.problem.words
  | some (setting, mark) =>
    (if setting.isEmpty then "" else setting ++ ": ") ++ misfit.problem.words ++
      (if mark.line = 0 ∧ mark.column = 0 then ""
       else " at line " ++ toString (mark.line + 1) ++ " column " ++ toString (mark.column + 1))

end Codebook
