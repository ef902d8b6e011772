import Codebook.Template.Written

/-!
# What is passed to filters, tests and functions

The values passed to a filter, a test or a function are taken one after the other, each as what it
is needed for: as any value, as text, as a count, as a switch. A value that may be left out may as
well be undefined or none. What is left over in the end was passed in vain, which is a fault.

Values that are passed by name stand in one value after all others. Where names are not asked for,
that value is passed like every other.
-/

namespace Codebook.Template

/-- What has been passed and not been taken yet. -/
structure Passed where
  values : List Value
  named : List (Value × Value)

/-- Taking what has been passed. -/
abbrev Taking (α : Type) := StateT Passed (Except Fault) α

/-- Separates the values that are passed by name from the others. -/
def Passed.ofValues (values : List Value) : Passed :=
  match values.getLast? with
  | some (.keywords named) => ⟨values.dropLast, named⟩
  | _ => ⟨values, []⟩

/-- Refuses values that are left over, apart from those that are passed by name. This comes before
    anything is done with what has been taken. -/
def noMore : Taking Unit := do
  unless (← get).values.isEmpty do throw (.plain .tooManyArguments)

/-- Refuses what is left over. -/
def finish : Taking Unit := do
  let passed ← get
  unless passed.values.isEmpty do throw (.plain .tooManyArguments)
  match passed.named with
  | [] => return
  | (name, _) :: _ =>
    match name.asText? with
    | some name => throw (.about .tooManyArguments ("unknown keyword argument '" ++ name ++ "'"))
    | none => throw (.about .invalidOperation "non string keywords passed to kwargs")

/-- Takes what is needed from the values, and refuses the rest. -/
def takeFrom {α : Type} (values : List Value) (taking : Taking α) : Except Fault α :=
  (do let taken ← taking; finish; return taken : Taking α).run' ⟨values, []⟩

/-- As `takeFrom`, where values may also be passed by name. -/
def takeNamedFrom {α : Type} (values : List Value) (taking : Taking α) : Except Fault α :=
  (do let taken ← taking; finish; return taken : Taking α).run' (.ofValues values)

/-- The next value, if there is one. -/
def nextValue? : Taking (Option Value) := do
  let passed ← get
  match passed.values with
  | [] => return none
  | value :: rest =>
    set { passed with values := rest }
    return some value

/-- The next value. -/
def nextValue : Taking Value := do
  match ← nextValue? with
  | some value => return value
  | none => throw (.plain .missingArgument)

/-- What counts as left out. -/
def present? : Option Value → Option Value
  | some .undefined => none
  | some .none => none
  | other => other

/-- All values that are left. -/
def allValues : Taking (List Value) := do
  let passed ← get
  set { passed with values := [] }
  return passed.values

/-- The value that was passed by a name, if there is one. -/
def namedValue? (name : String) : Taking (Option Value) := do
  let passed ← get
  let isNamed (entry : Value × Value) : Bool := entry.1.asText? == some name
  set { passed with named := passed.named.filter fun entry => !isNamed entry }
  return (passed.named.find? isNamed).map Prod.snd

/-- The next value, or else the value that was passed by a name. What counts as left out is not
    there. -/
def placedOrNamed? (name : String) : Taking (Option Value) := do
  match present? (← nextValue?) with
  | some value => return some value
  | none => return present? (← namedValue? name)

/-- The text that a value is taken for where text is needed. -/
def Value.takenText : Value → Except Fault String
  | .keywords _ => throw (.about .invalidOperation "cannot convert kwargs to string")
  | other => return other.toText

/-- The text of a text value, where only that will do. -/
def Value.properText (value : Value) : Except Fault String :=
  match value.asText? with
  | some content => return content
  | Option.none => throw (.about .invalidOperation "value is not a string")

/-- The count that a value is taken for. -/
def Value.takenCount (value : Value) : Except Fault Nat :=
  match value.asCount? with
  | some count => return count
  | Option.none =>
    throw (.about .invalidOperation ("cannot convert " ++ value.kind.word ++ " to usize"))

/-- The whole number that a value is taken for. -/
def Value.takenInt (value : Value) : Except Fault Int :=
  match value.asIndex? with
  | some n => return n
  | Option.none =>
    throw (.about .invalidOperation ("cannot convert " ++ value.kind.word ++ " to i64"))

/-- The switch that a value is taken for. -/
def Value.takenSwitch : Value → Except Fault Bool
  | .bool value => return value
  | other => throw (.about .invalidOperation ("cannot convert " ++ other.kind.word ++ " to bool"))

/-- The next value as text. -/
def nextText : Taking String := do
  (← nextValue).takenText

/-- The next value as text, which stays safe if it is. -/
def nextMarked : Taking (List Char × Bool) := do
  let value ← nextValue
  return ((← value.takenText).toList, value.isSafe)

/-- The next value as text, if it is there. -/
def nextText? : Taking (Option String) := do
  (present? (← nextValue?)).mapM fun value => value.takenText

/-- The next value as a count. -/
def nextCount : Taking Nat := do
  (← nextValue).takenCount

/-- The next value as a whole number, if it is there. -/
def nextInt? : Taking (Option Int) := do
  (present? (← nextValue?)).mapM fun value => value.takenInt

/-- The switch that was passed by a name, off if it is not there. -/
def namedSwitch (name : String) : Taking Bool := do
  match present? (← namedValue? name) with
  | some value => value.takenSwitch
  | none => return false

/-- The text that was passed by a name, if it is there. -/
def namedText? (name : String) : Taking (Option String) := do
  (present? (← namedValue? name)).mapM fun value => value.properText

end Codebook.Template
