import Codebook.Dialect

/-!
# Choices on the command line

What can be chosen on the command line goes by a name behind two dashes, and some of it also by a
letter behind one. A parameter takes a value, a switch does not.
-/

namespace Codebook.CommandLine

/-- Choices that take a value. -/
inductive Parameter where
  | definitions
  | template
  | output
  | dialect
  | lineFormat
  | placeholder
  | config
  deriving Repr, DecidableEq

/-- Choices that take no value. -/
inductive Switch where
  | strict
  | verbose
  | help
  | version
  deriving Repr, DecidableEq

/-- Choices. -/
inductive Choice where
  | parameter (parameter : Parameter)
  | switch (switch : Switch)
  deriving Repr, DecidableEq

/-- All choices in the order in which they are listed. -/
def Choice.all : List Choice :=
  [.parameter .definitions, .parameter .template, .parameter .output, .parameter .dialect,
   .parameter .lineFormat, .parameter .placeholder, .parameter .config,
   .switch .strict, .switch .verbose, .switch .help, .switch .version]

/-- The name of a parameter. -/
def Parameter.name : Parameter → String
  | .definitions => "messages"
  | .template => "template"
  | .output => "output"
  | .dialect => "dialect"
  | .lineFormat => "line-format"
  | .placeholder => "placeholder"
  | .config => "config"

/-- What the value of a parameter is called. -/
def Parameter.valueName : Parameter → String
  | .definitions => "MESSAGES"
  | .template => "TEMPLATE"
  | .output => "OUTPUT"
  | .dialect => "DIALECT"
  | .lineFormat => "PATTERN"
  | .placeholder => "TOKEN"
  | .config => "CONFIG"

/-- The name of a switch. -/
def Switch.name : Switch → String
  | .strict => "strict"
  | .verbose => "verbose"
  | .help => "help"
  | .version => "version"

/-- The name of a choice. -/
def Choice.name : Choice → String
  | .parameter chosen => chosen.name
  | .switch chosen => chosen.name

/-- The letter that a choice also goes by. -/
def Choice.letter? : Choice → Option Char
  | .parameter .config => some 'c'
  | .switch .verbose => some 'v'
  | .switch .help => some 'h'
  | .switch .version => some 'V'
  | _ => none

/-- A choice as it is shown: its name, and what its value is called. -/
def Choice.shown : Choice → String
  | .parameter chosen => "--" ++ chosen.name ++ " <" ++ chosen.valueName ++ ">"
  | .switch chosen => "--" ++ chosen.name

/-- The choice of a name. -/
def Choice.ofName? (name : String) : Option Choice :=
  Choice.all.find? fun choice => choice.name == name

/-- The choice of a letter. -/
def Choice.ofLetter? (letter : Char) : Option Choice :=
  Choice.all.find? fun choice => choice.letter? == some letter

/-- The parameters without which nothing can be done. -/
def Parameter.required : List Parameter :=
  [.definitions, .template, .output]

/-- Whether the value of a parameter is a path. -/
def Parameter.isPath : Parameter → Bool
  | .definitions | .template | .output | .config => true
  | .dialect | .lineFormat | .placeholder => false

end Codebook.CommandLine
