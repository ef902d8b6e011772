import Codebook.Settings.Read
import Codebook.Workplace

/-!
# Configuration files

Settings may be kept in a file. Its path is given, or the file is looked for in a directory under a
few names, of which the first one that is there counts. Without such a file all settings are open.
-/

namespace Codebook

/-- The names that a configuration file is looked for under. -/
def configurationNames : List String :=
  ["errcodegen.json", "errcodegen.yml", "errcodegen.yaml"]

/-- The path of the first of some names in a directory that a file goes by. -/
def Files.findFirst? (files : Files) (directory : String) (names : List String) :
    Option String :=
  (names.map (joinPath directory)).find? files.isFile

/-- The settings in the file at a path. -/
def loadLayer (path : String) : Task Layer := do
  remark (.loadingSettings path)
  settle .settings (Layer.read (← readInput path))

/-- The settings in the file at a given path; else those in the configuration file of a directory;
    else none. -/
def chooseLayer (given : Option String) (directory : String) : Task Layer := do
  let workplace ← get
  match given.or (workplace.files.findFirst? directory configurationNames) with
  | some path => loadLayer path
  | none =>
    remark .noSettingsFound
    return .empty

end Codebook
