import Codebook.Failure
import Codebook.Log

/-!
# The place of the work

Work is done on files, and remarks are made on it. A task that fails ends there, but what it has done
to the files and remarked until then stays.
-/

namespace Codebook

/-- The files, and the remarks made so far, the oldest first. -/
structure Workplace where
  files : Files
  remarks : List Remark

/-- Work that ends with a result or a failure and leaves a workplace behind. -/
abbrev Task := ExceptT Failure (StateM Workplace)

/-- What becomes of a task at a workplace. -/
def Task.perform {α : Type} (task : Task α) (workplace : Workplace) :
    Except Failure α × Workplace :=
  StateT.run (ExceptT.run task) workplace

/-- Makes a remark. -/
def remark (remark : Remark) : Task Unit :=
  modify fun workplace => { workplace with remarks := workplace.remarks ++ [remark] }

/-- Goes on with a result, or fails as it says. -/
def settle {ε α : Type} (failure : ε → Failure) (result : Except ε α) : Task α :=
  ExceptT.mk (pure (result.mapError failure))

/-- The text of the file at a path. -/
def readInput (path : String) : Task String := do
  let workplace ← get
  settle (.unreadable path) (workplace.files.readText path)

/-- Writes a text into the file at a path and makes the directories it is in. -/
def writeOutput (path text : String) : Task Unit := do
  let workplace ← get
  let (files, made) := workplace.files.makeParents path
  set { workplace with files }
  settle (.unwritable path) made
  let files ← settle (.unwritable path) (files.write path text)
  set { workplace with files }

end Codebook
