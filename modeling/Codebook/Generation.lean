import Codebook.Expansion
import Codebook.Workplace

/-!
# Generating a file

A job names a file of definitions, a template and the file to write. The definitions are read and
scanned, then the template is read and the declaration lines are put into it. The file is written
last, after everything else has gone well. A template without the placeholder is a failure if the
settings are strict, and else worth a warning.
-/

namespace Codebook

/-- The paths of a job. -/
structure Job where
  definitions : String
  template : String
  output : String
  deriving Repr, DecidableEq

/-- What was done: how many definitions there are, and how often the block was put in. -/
structure Summary where
  definitions : Nat
  replacements : Nat
  deriving Repr, DecidableEq

/-- The definitions in the file at a path. -/
def loadDefinitions (path : String) : Task (List Definition) := do
  remark (.readingDefinitions path)
  let definitions ← settle .stray (scan (← readInput path))
  remark (.scanned definitions.length)
  return definitions

/-- Objects to a template without the placeholder, as strictly as the settings say. -/
def checkReplacements (path : String) (settings : Settings) (replacements : Nat) : Task Unit := do
  if replacements = 0 then
    if settings.strict then throw (.placeholderMissing path settings.placeholder)
    else remark (.placeholderAbsent path settings.placeholder)

/-- A writer whose faults are those of the line format is one whose faults are failures. -/
instance : Coe (LineWriter Template.Fault) (LineWriter Failure) where
  coe writer := fun lineFormat definition => (writer lineFormat definition).mapError .lineFormat

/-- Writes the output of a job, unless there is something to object to it. -/
def deliver (job : Job) (settings : Settings) (definitions : Nat) (expansion : Expansion) :
    Task Summary := do
  remark (.replacing expansion.replacements settings.placeholder)
  checkReplacements job.template settings expansion.replacements
  remark (.writingOutput job.output)
  writeOutput job.output expansion.text
  return { definitions, replacements := expansion.replacements }

/-- Does a job. -/
def generate (writer : LineWriter Failure) (job : Job) (settings : Settings) : Task Summary := do
  let definitions ← loadDefinitions job.definitions
  remark (.readingTemplate job.template)
  let template ← readInput job.template
  let expansion ← settle id
    (expand writer settings.lineFormat settings.placeholder template definitions)
  deliver job settings definitions.length expansion

end Codebook
