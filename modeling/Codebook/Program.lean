import Codebook.CommandLine.Options
import Codebook.Configuration

/-!
# The program

A run of the program reads its arguments, finds its settings and does its job. Settings on the
command line have more weight than those in a configuration file. What the run leaves behind is an
exit status, what it has written to the two streams, and the files.
-/

namespace Codebook

open CommandLine

/-- What a run leaves behind. -/
structure Outcome where
  status : Nat
  output : String
  errors : String
  files : Files

/-- The settings of a run: those among the options over those in the configuration file, and
    defaults for the rest. -/
def chooseSettings (options : Options) (directory : String) : Task Settings := do
  let layer ← chooseLayer options.config directory
  settle .settings (Settings.ofLayer (layer.merge options.layer))

/-- Finds the settings and does the job. -/
def work (options : Options) (directory : String) : Task Summary := do
  generate declarationLine options.job (← chooseSettings options directory)

/-- What a run leaves behind that ends before it has options. If something required is missing the
    help is more useful than a complaint. -/
def Outcome.ofStop (files : Files) : Stop → Outcome
  | .help long => ⟨0, helpText long, "", files⟩
  | .version => ⟨0, versionText, "", files⟩
  | .incomplete => ⟨1, helpText false, "", files⟩
  | wrong => ⟨2, "", wrong.message ++ "\n\nFor more information, try '--help'.\n", files⟩

/-- Runs the program. -/
def runProgram (arguments : List String) (files : Files) : Outcome :=
  match Options.read arguments with
  | .error stop => .ofStop files stop
  | .ok options =>
    let (result, workplace) := (work options files.hereText).perform ⟨files, []⟩
    let log := logText options.verbose workplace.remarks
    match result with
    | .ok summary =>
      ⟨0, "Generated " ++ toString summary.definitions ++ " error codes.\n", log, workplace.files⟩
    | .error failure => ⟨1, "", log ++ failure.message ++ "\n", workplace.files⟩

end Codebook
