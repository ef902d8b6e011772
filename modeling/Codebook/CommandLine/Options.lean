import Codebook.CommandLine.Help
import Codebook.Generation
import Codebook.Settings.Layer
import Codebook.Text.Terminal

/-!
# Reading the command line

Arguments are read from left to right. A parameter takes its value from the same argument, behind an
equals sign, or from the next one, which must not start with a dash then. No choice can be made
twice, and nothing is read that is not a choice or a value. A parameter that takes its value from the
next argument waits until another choice is met; only then its value is looked at, so that an unknown
choice is found before a value that does not suit.
-/

namespace Codebook.CommandLine

/-- Why reading ends without options: the user asks for a text instead, or something is wrong. -/
inductive Stop where
  | help (long : Bool)
  | version
  | unexpected (argument : String)
  | unneededValue (value : String) (choice : Choice)
  | valueMissing (parameter : Parameter)
  | valueUnknown (value : String) (parameter : Parameter)
  | repeated (choice : Choice)
  | incomplete
  deriving Repr, DecidableEq

/-- What is said about what is wrong. What the user has written is repeated as a terminal shows
    it. -/
def Stop.message : Stop → String
  | .help _ | .version => ""
  | .unexpected argument => "error: unexpected argument '" ++ Text.shown argument ++ "' found"
  | .unneededValue value choice =>
    "error: unexpected value '" ++ Text.shown value ++ "' for '" ++ choice.shown ++
      "' found; no more were expected"
  | .valueMissing chosen =>
    "error: a value is required for '" ++ (Choice.parameter chosen).shown ++
      "' but none was supplied"
  | .valueUnknown value chosen =>
    "error: invalid value '" ++ Text.shown value ++ "' for '" ++ (Choice.parameter chosen).shown ++
      "'"
  | .repeated choice => "error: the argument '" ++ choice.shown ++ "' cannot be used multiple times"
  | .incomplete => "error: the following required arguments were not provided:"

/-! ## Arguments -/

/-- What an argument looks like. -/
inductive Shape where
  | separator
  | long (name : String) (value : Option String)
  | short (letters : List Char)
  | plain
  deriving Repr, DecidableEq

/-- The shape of an argument. A single dash is a plain argument. -/
def shapeOf (argument : String) : Shape :=
  match argument.toList with
  | ['-', '-'] => .separator
  | '-' :: '-' :: rest =>
    let name := String.ofList (rest.takeWhile (· ≠ '='))
    match rest.dropWhile (· ≠ '=') with
    | [] => .long name none
    | _ :: value => .long name (some (String.ofList value))
  | ['-'] => .plain
  | '-' :: letters => .short letters
  | _ => .plain

/-- What has been chosen so far. A parameter may wait for its value, or hold one that has not been
    looked at yet. -/
structure Given where
  values : List (Parameter × String)
  switches : List Switch
  waiting : Option (Parameter × Option String)
  deriving Repr, DecidableEq

/-- Nothing chosen. -/
def Given.nothing : Given :=
  ⟨[], [], none⟩

/-- Refuses a value that does not suit its parameter. -/
def checkValue (parameter : Parameter) (value : String) : Except Stop Unit :=
  let isDialect := parameter = .dialect
  if value.isEmpty && (parameter.isPath || isDialect) then throw (.valueMissing parameter)
  else if isDialect && (Dialect.ofName? value false).isNone then
    throw (.valueUnknown value parameter)
  else return

/-- Gives a parameter its value. -/
def Given.give (given : Given) (parameter : Parameter) (value : String) : Except Stop Given := do
  if (given.values.lookup parameter).isSome then throw (.repeated (.parameter parameter))
  checkValue parameter value
  return { given with values := given.values ++ [(parameter, value)] }

/-- Gives the parameter that waits its value. -/
def Given.settle (given : Given) : Except Stop Given :=
  match given.waiting with
  | none => return given
  | some (chosen, none) => throw (.valueMissing chosen)
  | some (chosen, some value) => { given with waiting := none }.give chosen value

/-- Turns a switch on. -/
def Given.turnOn (given : Given) (long : Bool) (switch : Switch) : Except Stop Given :=
  match switch with
  | .help => throw (.help long)
  | .version => throw .version
  | chosen =>
    if given.switches.contains chosen then throw (.repeated (.switch chosen))
    else return { given with switches := given.switches ++ [chosen] }

/-- Makes a choice by its name. -/
def Given.chooseLong (given : Given) (name : String) (value : Option String) :
    Except Stop Given := do
  match Choice.ofName? name, value with
  | none, _ => throw (.unexpected ("--" ++ name))
  | some (.switch chosen), some value => throw (.unneededValue value (.switch chosen))
  | some (.switch chosen), none => (← given.settle).turnOn true chosen
  | some (.parameter chosen), some value => (← given.settle).give chosen value
  | some (.parameter chosen), none =>
    let given ← given.settle
    return { given with waiting := some (chosen, none) }

/-- Makes choices by their letters. What follows the letter of a parameter is its value. -/
def Given.chooseShort (given : Given) : List Char → Except Stop Given
  | [] => return given
  | c :: rest => do
    match Choice.ofLetter? c with
    | none => throw (.unexpected (String.ofList ['-', c]))
    | some (.switch chosen) =>
      let given ← (← given.settle).turnOn false chosen
      given.chooseShort rest
    | some (.parameter chosen) =>
      let given ← given.settle
      match rest with
      | [] => return { given with waiting := some (chosen, none) }
      | '=' :: value => given.give chosen (String.ofList value)
      | value => given.give chosen (String.ofList value)

/-- Takes a plain argument as the value of the parameter that waits for one. -/
def Given.takePlain (given : Given) (argument : String) : Except Stop Given :=
  match given.waiting with
  | some (chosen, none) => return { given with waiting := some (chosen, some argument) }
  | _ => throw (.unexpected argument)

/-- Reads arguments. Behind a separator there may be none. -/
def Given.read (given : Given) : List String → Except Stop Given
  | [] => given.settle
  | argument :: rest => do
    match shapeOf argument with
    | .separator =>
      match rest with
      | [] => given.settle
      | next :: _ => throw (.unexpected next)
    | .long name value =>
      let given ← given.chooseLong name value
      given.read rest
    | .short letters =>
      let given ← given.chooseShort letters
      given.read rest
    | .plain =>
      let given ← given.takePlain argument
      given.read rest

/-! ## Options -/

/-- All that has been chosen. -/
structure Options where
  job : Job
  dialect : Option Dialect
  lineFormat : Option String
  placeholder : Option String
  config : Option String
  strict : Bool
  verbose : Bool
  deriving Repr, DecidableEq

/-- The options that have been chosen, if none of the required parameters is missing. -/
def Given.options (given : Given) : Except Stop Options :=
  let value? (parameter : Parameter) : Option String := given.values.lookup parameter
  match value? .definitions, value? .template, value? .output with
  | some definitions, some template, some output => return {
      job := { definitions, template, output }
      dialect := (value? .dialect).bind fun name => Dialect.ofName? name false
      lineFormat := value? .lineFormat
      placeholder := value? .placeholder
      config := value? .config
      strict := given.switches.contains .strict
      verbose := given.switches.contains .verbose }
  | _, _, _ => throw .incomplete

/-- The options that some arguments stand for. -/
def Options.read (arguments : List String) : Except Stop Options := do
  (← Given.nothing.read arguments).options

/-- The settings among the options. Strictness can be asked for, but not be refused. -/
def Options.layer (options : Options) : Layer where
  placeholder := options.placeholder
  dialect := options.dialect
  lineFormat := options.lineFormat
  strict := if options.strict then some true else none

end Codebook.CommandLine
