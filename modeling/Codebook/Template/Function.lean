import Codebook.Template.Machine

/-!
# Functions

The functions that every line format can call: counting, maps and namespaces from named values, and
a look at values.
-/

namespace Codebook.Template

/-- The most items that counting may give. -/
def rangeLimit : Nat := 100000

/-- The whole numbers from `lower` up to but without `upper` in steps. -/
def rangeValues (lower upper step : Int) : Except Fault Value :=
  if step = 0 then throw (.about .invalidOperation "cannot create range with step of 0")
  else
    let count :=
      if 0 < step then (upper - lower + step - 1) / step else (lower - upper - step - 1) / (-step)
    if count > rangeLimit then throw (.about .invalidOperation "range has too many elements")
    else
      return .ofSequence ((List.range count.toNat).map fun (n : Nat) => .int (lower + step * n))

/-- The value of `range`. With one number it counts from zero. -/
def rangeFunction : Taking Value := do
  let first ← (← nextValue).takenInt
  let second ← nextInt?
  let step ← nextInt?
  match second with
  | some upper => rangeValues first upper (step.getD 1)
  | none => rangeValues 0 first (step.getD 1)

/-- The entries that a map or a namespace starts with, which are those of a map if one is given. -/
def startingEntries (given : Option Value) : Except Fault (List (Value × Value)) :=
  match present? given with
  | some value =>
    match value.entries? with
    | some entries => return entries
    | none =>
      throw (.about .invalidOperation
        ("expected object or keyword arguments, got " ++ value.kind.word))
  | none => return []

/-- The entries of the value of `dict`: those of a map, then those passed by name. -/
def dictEntries : Taking (List (Value × Value)) := do
  let given ← startingEntries (← nextValue?)
  noMore
  modifyGet fun passed => (given ++ passed.named, { passed with named := [] })

/-- The names of a new namespace, which are the keys of a map or passed by name. -/
def namespaceNames : Taking (List (String × Value)) := do
  (← startingEntries (← nextValue?)).mapM fun (key, value) =>
    match key.asText? with
    | some name => return (name, value)
    | none =>
      throw (.about .invalidOperation
        ("expected string key for namespace, got " ++ key.kind.word))

/-- What a function makes of the values passed to it. -/
def callFunction (name : String) (values : List Value) : Rendering Value := do
  match name with
  | "range" => takeFrom values rangeFunction
  | "dict" => return .ofEntries (← takeNamedFrom (← values.mapM opened) dictEntries)
  | "namespace" =>
    let names ← takeFrom (← values.mapM opened) namespaceNames
    let index ← allocate (.names [])
    names.forM fun (name, value) => storeIn index name value
    return .namespace index []
  | _ =>
    match ← values.mapM renewed with
    | [value] => return value.laidOut
    | values => return (Value.ofItems values).laidOut

end Codebook.Template
