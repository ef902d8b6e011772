import Codebook.CommandLine.Choice

/-!
# Help on the command line

The help lists all choices with what they are for. In its short form every choice has a line, with
the explanations below one another; in its long form every explanation is a paragraph.
-/

namespace Codebook.CommandLine

/-- The name of the program. -/
def programName : String :=
  "errcodegen"

/-- The name of the program and its version. -/
def versionText : String :=
  programName ++ " 0.1.0\n"

/-- What the program is for. -/
def aboutText : String :=
  programName ++ ": generates error code declarations from message definitions"

/-- What a choice is for. The two forms of the help point at each other. -/
def Choice.purpose (long : Bool) : Choice → String
  | .parameter .definitions =>
    "File that contains all the error codes and messages. Message texts are ignored; only codes " ++
      "and names are used"
  | .parameter .template =>
    "Template file in which the placeholder is replaced with the generated error code list"
  | .parameter .output => "Output file where the generated error code list is saved"
  | .parameter .dialect => "Output dialect of the generated declarations"
  | .parameter .lineFormat =>
    "Custom line format, a MiniJinja template with `name` and `code`. Takes precedence over the " ++
      "dialect"
  | .parameter .placeholder => "Placeholder token replaced in the template"
  | .parameter .config =>
    "Configuration file (defaults to errcodegen.json/.yml/.yaml in the current directory, if present)"
  | .switch .strict => "Fail when the template does not contain the placeholder"
  | .switch .verbose => "Enable verbose logging output"
  | .switch .help =>
    if long then "Print help (see a summary with '-h')" else "Print help (see more with '--help')"
  | .switch .version => "Print version"

/-- What the lines of a dialect are. -/
def dialectPurpose : Dialect → String
  | .csharp => "`public const` members of a C# class"
  | .rust => "`pub const` items of a Rust module or impl block"

/-- A number of blanks. -/
def blanks (count : Nat) : String :=
  String.ofList (List.replicate count ' ')

/-- A text with blanks behind it up to a width. -/
def padded (width : Nat) (text : String) : String :=
  text ++ blanks (width - text.length)

/-- The largest of some numbers. -/
def greatest (numbers : List Nat) : Nat :=
  numbers.foldl max 0

/-- A choice as it is listed: its letter, if it has one, and how it is shown. -/
def Choice.listed (choice : Choice) : String :=
  let letter :=
    match choice.letter? with
    | some c => String.ofList ['-', c, ',', ' ']
    | none => blanks 4
  blanks 2 ++ letter ++ choice.shown

/-- The names of the dialects, listed behind a purpose or below it. -/
def dialectNames (long : Bool) : String :=
  if long then
    let width := greatest (Dialect.all.map fun dialect => dialect.name.length + 1)
    let lines := Dialect.all.map fun dialect =>
      blanks 10 ++ "- " ++ padded width (dialect.name ++ ":") ++ " " ++ dialectPurpose dialect ++ "\n"
    "\n" ++ blanks 10 ++ "Possible values:\n" ++ "".intercalate lines
  else " [possible values: " ++ ", ".intercalate (Dialect.all.map Dialect.name) ++ "]"

/-- The entry of a choice in the short form. `width` is that of the first column. -/
def Choice.shortEntry (width : Nat) (choice : Choice) : String :=
  let more := if choice = .parameter .dialect then dialectNames false else ""
  padded width choice.listed ++ blanks 2 ++ choice.purpose false ++ more ++ "\n"

/-- The entry of a choice in the long form. -/
def Choice.longEntry (choice : Choice) : String :=
  let more := if choice = .parameter .dialect then dialectNames true else ""
  choice.listed ++ "\n" ++ blanks 10 ++ choice.purpose true ++ "\n" ++ more

/-- The line that shows how the program is called. -/
def usageText : String :=
  let required := Parameter.required.map fun parameter => (Choice.parameter parameter).shown
  "Usage: " ++ programName ++ " [OPTIONS] " ++ " ".intercalate required

/-- The help, in its long or its short form. -/
def helpText (long : Bool) : String :=
  let entries :=
    if long then "\n".intercalate (Choice.all.map Choice.longEntry)
    else
      let width := greatest (Choice.all.map fun choice => choice.listed.length)
      "".intercalate (Choice.all.map (Choice.shortEntry width))
  aboutText ++ "\n\n" ++ usageText ++ "\n\nOptions:\n" ++ entries

end Codebook.CommandLine
