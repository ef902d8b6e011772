import Codebook.Template.Basic

/-!
# The names that a routine takes from where it is declared

A routine remembers what the names that it mentions stood for where it was declared, except for those
that it gives a meaning itself before. Statements are walked through in their order: a name that
something is assigned to has a meaning from there on, up to the end of the part that the assignment
stands in. An assignment counts before the value that is assigned. A routine inside is a part of its
own, in which `caller` has a meaning.

Some expressions are not looked into: the filters of captured text, the mode of escaping, and the
names of other templates. What only they mention is not remembered.
-/

namespace Codebook.Template

mutual

/-- The names that an expression mentions. -/
def Expression.mentions : Expression → List String
  | .constant _ _ => []
  | .name name _ => [name]
  | .unary _ operand _ => operand.mentions
  | .binary _ left right _ => left.mentions ++ right.mentions
  | .comparisons first others _ => first.mentions ++ operandMentions others
  | .choice condition yes no => condition.mentions ++ yes.mentions ++ no.mentions
  | .filter _ operand arguments _ => operand.mentions ++ argumentMentions arguments
  | .test _ operand arguments _ => operand.mentions ++ argumentMentions arguments
  | .attribute operand _ => operand.mentions
  | .item operand key => operand.mentions ++ key.mentions
  | .slice operand start stop step =>
    operand.mentions ++ start.mentions ++ stop.mentions ++ step.mentions
  | .call callee arguments _ => callee.mentions ++ argumentMentions arguments
  | .list items _ => itemMentions items
  | .map entries _ => entryMentions entries

/-- The names that the operands of a row of comparisons mention. -/
def operandMentions : List (Comparison × Expression) → List String
  | [] => []
  | (_, operand) :: rest => operand.mentions ++ operandMentions rest

/-- The names that an argument mentions. -/
def Argument.mentions : Argument → List String
  | .positional value => value.mentions
  | .keyword _ value => value.mentions
  | .spread values => values.mentions
  | .spreadKeywords values => values.mentions

/-- The names that some arguments mention. -/
def argumentMentions : List Argument → List String
  | [] => []
  | argument :: rest => argument.mentions ++ argumentMentions rest

/-- The names that the items of a list mention. -/
def itemMentions : List Expression → List String
  | [] => []
  | item :: rest => item.mentions ++ itemMentions rest

/-- The names that the entries of a map mention. -/
def entryMentions : List (Expression × Expression) → List String
  | [] => []
  | (key, value) :: rest => key.mentions ++ value.mentions ++ entryMentions rest

end

mutual

/-- The names that a target gives a meaning. -/
def Target.bound : Target → List String
  | .name name => [name]
  | .attribute _ _ => []
  | .tuple targets _ => boundNames targets

/-- The names that some targets give a meaning. -/
def boundNames : List Target → List String
  | [] => []
  | target :: rest => target.bound ++ boundNames rest

end

mutual

/-- The names that a target mentions as owners of attributes. -/
def Target.mentions : Target → List String
  | .name _ => []
  | .attribute owner _ => owner.mentions
  | .tuple targets _ => targetMentions targets

/-- The names that some targets mention. -/
def targetMentions : List Target → List String
  | [] => []
  | target :: rest => target.mentions ++ targetMentions rest

end

/-- The names that some statements take from outside, and those that have a meaning after them. -/
structure Walk where
  taken : List String
  bound : List String

/-- The walk after an expression. -/
def Walk.mention (walk : Walk) (names : List String) : Walk :=
  { walk with taken := walk.taken ++ names.filter fun name => !walk.bound.contains name }

/-- The walk after names were given a meaning. -/
def Walk.bind (walk : Walk) (names : List String) : Walk :=
  { walk with bound := names ++ walk.bound }

/-- The walk after a part that was walked through. What has got a meaning in it loses it. -/
def Walk.leave (walk inside : Walk) : Walk :=
  { walk with taken := inside.taken }

mutual

/-- The walk after a statement. -/
def Statement.walk (walk : Walk) : Statement → Walk
  | .text _ _ => walk
  | .output value => walk.mention value.mentions
  | .forLoop target items condition _ body other =>
    let inside := ((walk.bind ["loop"]).mention items.mentions).bind target.bound
    let inside := inside.mention ((condition.map Expression.mentions).getD [])
    let walk := walk.leave (walkThrough inside body)
    walk.leave (walkThrough walk other)
  | .choice condition yes no =>
    let walk := walk.mention condition.mentions
    let walk := walk.leave (walkThrough walk yes)
    walk.leave (walkThrough walk no)
  | .scope assignments body _ =>
    walk.leave (walkThrough (assignments.foldl (fun walk (target, value) =>
      (walk.bind target.bound).mention value.mentions) walk) body)
  | .assign target value =>
    (walk.bind target.bound).mention (target.mentions ++ value.mentions)
  | .assignText target _ body _ =>
    let walk := (walk.bind target.bound).mention target.mentions
    walk.leave (walkThrough walk body)
  | .escaping _ body => walk.leave (walkThrough walk body)
  | .filtered _ body _ => walk.leave (walkThrough walk body)
  | .block _ body _ => walk.leave (walkThrough (walk.bind ["super"]) body)
  | .unfilled _ | .extend _ | .embed _ _ => walk
  | .importAll _ target => (walk.bind target.bound).mention target.mentions
  | .importNames _ names => walk.bind (names.map Import.known)
  | .routine name parameters defaults body _ =>
    let walk := walk.bind [name]
    let inside := (walk.bind ("caller" :: parameters)).mention (itemMentions defaults)
    walk.leave (walkThrough inside body)
  | .callWith callee arguments _ parameters defaults body _ =>
    let walk := walk.mention (callee.mentions ++ argumentMentions arguments)
    let inside := (walk.bind ("caller" :: parameters)).mention (itemMentions defaults)
    walk.leave (walkThrough inside body)
  | .perform call => walk.mention call.mentions

/-- The walk after some statements. -/
def walkThrough (walk : Walk) : List Statement → Walk
  | [] => walk
  | statement :: rest => walkThrough (statement.walk walk) rest

end

/-- The names that a routine takes from where it is declared. -/
def Routine.mentions (routine : Routine) : List String :=
  let walk : Walk := ⟨[], routine.parameters⟩
  (walkThrough (walk.mention (itemMentions routine.defaults)) routine.body).taken.eraseDups

end Codebook.Template
