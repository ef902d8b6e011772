import Codebook.Proofs.CommandLine.Requests
import Codebook.Proofs.Generation.Done
import Codebook.Proofs.Program.Configuration

/-!
# How a run ends

A run ends in one of four ways. It has generated its output; it has answered a request for the help or
the version; it was called in a wrong way; or it has failed. For each way it is said what the arguments
and the files were that led there, what is printed, and what has become of the files. A request is
answered if all that stands in front of it can be read, whatever stands behind it.

The exit status and what is printed on the standard output tell the four ways apart, with no need to
look at the files. For this the success line must not be taken for another text: the help and the
version start with the name of the program.
-/

namespace Codebook

open CommandLine

/-- The ways in which a run ends. -/
inductive Way where
  | generated
  | answered
  | misused
  | failed
  deriving DecidableEq

/-- Why a run fails that has options. -/
inductive RunFails (files : Files) (options : Options) (failure : Failure) : Prop
  /-- It has no valid settings. -/
  | unsettled {consulted : Option String} (consults : Consulted files options consulted)
    (configured : Configured files options consulted (.error failure))
  /-- It has settings, and a stage of its job is the first one to fail. -/
  | undone {consulted : Option String} {settings : Settings}
    (consults : Consulted files options consulted)
    (configured : Configured files options consulted (.ok settings))
    (first : FirstFailure declarationLine options.job settings files failure)

/-- A run has led from some arguments and files to an outcome in one of the ways. -/
inductive Ending (arguments : List String) (files : Files) (outcome : Outcome) : Way → Prop
  /-- The template with the lines of all definitions in it has been written to the output, under the
  settings of the run. The definitions are counted in the success line. -/
  | generated {options : Options} {consulted : Option String} {settings : Settings}
    {text template output : String} {definitions : List Definition} {lines : List String}
    {replacements : Nat} (read : Options.read arguments = .ok options)
    (consults : Consulted files options consulted)
    (configured : Configured files options consulted (.ok settings))
    (definitionsHold : Holds files options.job.definitions text)
    (accepted : scan text = .ok definitions)
    (templateHolds : Holds files options.job.template template)
    (lined : definitions.map
      ((declarationLine : LineWriter Failure) settings.lineFormat) = lines.map .ok)
    (filled : Filled settings.placeholder (lines.flatMap String.toList) template output replacements)
    (status : outcome.status = 0) (printed : outcome.output = successLine definitions.length)
    (written : Written options.job.output output files outcome.files) :
    Ending arguments files outcome .generated
  /-- The help was asked for. -/
  | help {long : Bool} (read : Options.read arguments = .error (.help long))
    (status : outcome.status = 0) (printed : outcome.output = helpText long)
    (unchanged : outcome.files = files) : Ending arguments files outcome .answered
  /-- The version was asked for. -/
  | version (read : Options.read arguments = .error .version)
    (status : outcome.status = 0) (printed : outcome.output = versionText)
    (unchanged : outcome.files = files) : Ending arguments files outcome .answered
  /-- A required option is missing. -/
  | incomplete (read : Options.read arguments = .error .incomplete)
    (status : outcome.status = 1) (printed : outcome.output = helpText false)
    (unchanged : outcome.files = files) : Ending arguments files outcome .misused
  /-- Something else is wrong with the arguments. -/
  | misused {stop : Stop} (read : Options.read arguments = .error stop)
    (noHelp : ∀ long, stop ≠ .help long) (noVersion : stop ≠ .version)
    (complete : stop ≠ .incomplete) (status : outcome.status = 2) (printed : outcome.output = "")
    (unchanged : outcome.files = files) : Ending arguments files outcome .misused
  /-- The run has failed. What it says at last is its failure, and it has touched no file. If it was not
  the output that could not be written, nothing at all has changed. -/
  | failed {options : Options} {failure : Failure} (read : Options.read arguments = .ok options)
    (fails : RunFails files options failure) (status : outcome.status = 1)
    (printed : outcome.output = "") (said : ∃ log, outcome.errors = log ++ failure.message ++ "\n")
    (untouched : ∀ place content, outcome.files.tree.at? place = some (.file content) ↔
      files.tree.at? place = some (.file content))
    (unchanged : (∀ path fault, failure ≠ .unwritable path fault) → outcome.files = files)
    (grown : Grown (files.startOf (Path.ofText options.job.output))
      (Path.ofText options.job.output).plainNames.dropLast files outcome.files) :
    Ending arguments files outcome .failed

variable {arguments : List String} {files : Files} {options : Options} {consulted : Option String}
  {settings : Settings}

/-! ## Every run ends -/

/-- A run without options goes no further. -/
theorem runProgram_of_stop {stop : Stop} (read : Options.read arguments = .error stop) :
    runProgram arguments files = .ofStop files stop := by
  rw [runProgram, read]

/-- A run without options ends at once. -/
theorem ending_of_stop {stop : Stop} (read : Options.read arguments = .error stop) :
    ∃ way, Ending arguments files (runProgram arguments files) way := by
  rw [runProgram_of_stop read]
  cases stop with
  | help long => exact ⟨_, .help read rfl rfl rfl⟩
  | version => exact ⟨_, .version read rfl rfl rfl⟩
  | incomplete => exact ⟨_, .incomplete read rfl rfl rfl⟩
  | unexpected | unneededValue | valueMissing | valueUnknown | repeated =>
    exact ⟨_, .misused read (by simp) (by simp) (by simp) rfl rfl rfl⟩

/-- A run whose job is done has generated its output. -/
theorem ending_of_done {summary : Summary} {workplace : Workplace}
    (read : Options.read arguments = .ok options) (consults : Consulted files options consulted)
    (configured : Configured files options consulted (.ok settings))
    (done : (generate declarationLine options.job settings).perform
      ⟨files, [consultation consulted]⟩ = (.ok summary, workplace)) :
    Ending arguments files (runProgram arguments files) .generated := by
  have run := configured.run_goes_on read consults
  obtain ⟨text, template, definitions, lines, ready, counted, written⟩ :=
    exists_written_of_done (congrArg Prod.fst done)
  rw [done] at run written
  have filled := filled_putBlock settings.placeholder ("".intercalate lines) template
  rw [toList_block] at filled
  rw [run]
  subst counted
  exact .generated read consults configured ready.definitionsHold ready.accepted ready.templateHolds
    ready.written filled rfl rfl written

/-- A run whose job is not done has failed. -/
theorem ending_of_undone {failure : Failure} {workplace : Workplace}
    (read : Options.read arguments = .ok options) (consults : Consulted files options consulted)
    (configured : Configured files options consulted (.ok settings))
    (undone : (generate declarationLine options.job settings).perform
      ⟨files, [consultation consulted]⟩ = (.error failure, workplace)) :
    Ending arguments files (runProgram arguments files) .failed := by
  have run := configured.run_goes_on read consults
  have first := generate_error_iff.mp (congrArg Prod.fst undone)
  obtain ⟨left, ends, grown, unchanged⟩ := ends_of_firstFailure first
  obtain ⟨-, later, rfl⟩ := ends.of_perform undone
  rw [undone] at run
  rw [run]
  refine .failed read (.undone consults configured first) rfl rfl ⟨_, rfl⟩ grown.file_iff ?_ grown
  intro otherFailure
  rcases unchanged with same | ⟨fault, unwritable⟩
  · exact same
  · exact absurd unwritable (otherFailure _ _)

/-- A run without valid settings has failed. -/
theorem ending_of_unsettled {failure : Failure} (read : Options.read arguments = .ok options)
    (consults : Consulted files options consulted)
    (configured : Configured files options consulted (.error failure)) :
    Ending arguments files (runProgram arguments files) .failed := by
  rw [configured.run_stops read consults]
  exact .failed read (.unsettled consults configured) rfl rfl ⟨_, rfl⟩ (fun _ _ => Iff.rfl)
    (fun _ => rfl) (Grown.refl _ _ _)

/-- Every run ends in one of the ways. -/
theorem exists_ending (arguments : List String) (files : Files) :
    ∃ way, Ending arguments files (runProgram arguments files) way := by
  cases read : Options.read arguments with
  | error stop => exact ending_of_stop read
  | ok options =>
    obtain ⟨consulted, consults⟩ := exists_consulted files options
    obtain ⟨result, configured⟩ := exists_configured files options consulted
    cases result with
    | error failure => exact ⟨_, ending_of_unsettled read consults configured⟩
    | ok settings =>
      rcases work : (generate declarationLine options.job settings).perform
        ⟨files, [consultation consulted]⟩ with ⟨failure | summary, workplace⟩
      · exact ⟨_, ending_of_undone read consults configured work⟩
      · exact ⟨_, ending_of_done read consults configured work⟩

/-! ## What can be told from outside -/

/-- What the exit status and the standard output say about the way in which a run has ended. -/
def Outcome.Tells (outcome : Outcome) : Way → Prop
  | .generated => outcome.status = 0 ∧ ∃ count, outcome.output = successLine count
  | .answered => outcome.status = 0 ∧ ∀ count, outcome.output ≠ successLine count
  | .misused => outcome.status ≠ 0 ∧ (∀ count, outcome.output ≠ successLine count) ∧
    (outcome.status = 1 → outcome.output ≠ "")
  | .failed => outcome.status = 1 ∧ outcome.output = ""

/-- The success line starts with a capital letter. -/
theorem successLine_starts (count : Nat) : (successLine count).toList.head? = some 'G' := by
  simp only [successLine, String.toList_append, List.append_assoc, List.head?_append]
  rfl

/-- A text that starts in another way is not the success line. -/
theorem ne_successLine {text : String} (starts : text.toList.head? ≠ some 'G') (count : Nat) :
    text ≠ successLine count := by
  rintro rfl
  exact starts (successLine_starts count)

/-- The help starts with the name of the program. -/
theorem helpText_starts (long : Bool) : (helpText long).toList.head? = some 'e' := by
  simp only [helpText, String.toList_append, List.append_assoc, List.head?_append]
  rfl

/-- The help is not the success line. -/
theorem helpText_ne_successLine (long : Bool) (count : Nat) : helpText long ≠ successLine count := by
  apply ne_successLine
  rw [helpText_starts]
  decide

/-- A run has ended in the way that its exit status and its standard output tell. -/
theorem Ending.told {outcome : Outcome} {way : Way} (ending : Ending arguments files outcome way) :
    outcome.Tells way := by
  cases ending with
  | generated _ _ _ _ _ _ _ _ status printed => exact ⟨status, _, printed⟩
  | help _ status printed =>
    refine ⟨status, fun count => ?_⟩
    rw [printed]
    exact helpText_ne_successLine _ count
  | version _ status printed =>
    refine ⟨status, fun count => ?_⟩
    rw [printed]
    exact ne_successLine (by decide) count
  | incomplete _ status printed =>
    refine ⟨by simp [status], fun count => ?_, fun _ => ?_⟩
    · rw [printed]
      exact helpText_ne_successLine _ count
    · intro none
      have starts := helpText_starts false
      rw [← printed, none] at starts
      cases starts
  | misused _ _ _ _ status printed =>
    refine ⟨by simp [status], fun count => ?_, by simp [status]⟩
    rw [printed]
    exact ne_successLine (by decide) count
  | failed _ _ status printed => exact ⟨status, printed⟩

/-- An outcome tells one way. -/
theorem Outcome.Tells.unique {outcome : Outcome} {way other : Way} (tells : outcome.Tells way)
    (again : outcome.Tells other) : other = way := by
  cases way <;> cases other <;> simp_all [Outcome.Tells]

/-- Whoever has printed the success line has generated the output. -/
theorem Outcome.Tells.generated {outcome : Outcome} {way : Way} {count : Nat}
    (tells : outcome.Tells way) (printed : outcome.output = successLine count) :
    way = .generated := by
  cases way with
  | generated => rfl
  | answered => exact absurd printed (tells.2 count)
  | misused => exact absurd printed (tells.2.1 count)
  | failed =>
    have silent := tells.2
    rw [printed] at silent
    exact absurd silent.symm (ne_successLine (by decide) count)

/-- A run that has not generated its output has touched no file. -/
theorem Ending.untouched {outcome : Outcome} {way : Way}
    (ending : Ending arguments files outcome way) (notGenerated : way ≠ .generated)
    (place : List String) (content : ByteArray) :
    outcome.files.tree.at? place = some (.file content) ↔
      files.tree.at? place = some (.file content) := by
  cases ending with
  | generated => exact absurd rfl notGenerated
  | help _ _ _ unchanged | version _ _ _ unchanged | incomplete _ _ _ unchanged
  | misused _ _ _ _ _ _ unchanged => rw [unchanged]
  | failed _ _ _ _ _ untouched => exact untouched place content

/-! ## What is answered -/

/-- A run answers if and only if its arguments ask for a text and can be read as far as that. -/
theorem ending_answered_iff : Ending arguments files (runProgram arguments files) .answered ↔
    ∃ stop, stop.Asks ∧ Given.nothing.Requested stop arguments := by
  constructor
  · intro ending
    cases ending with
    | @help long read =>
      have asks : (Stop.help long).Asks := trivial
      exact ⟨_, asks, (options_asked_iff asks).mp read⟩
    | version read =>
      have asks : Stop.version.Asks := trivial
      exact ⟨_, asks, (options_asked_iff asks).mp read⟩
  · rintro ⟨stop, asks, requested⟩
    have read := (options_asked_iff asks).mpr requested
    rw [runProgram_of_stop read]
    cases stop with
    | help long => exact .help read rfl rfl rfl
    | version => exact .version read rfl rfl rfl
    | incomplete | unexpected | unneededValue | valueMissing | valueUnknown | repeated =>
      exact asks.elim

/-- A run answers a request behind selections that can be made, whatever stands behind the request. -/
theorem ending_of_request {selections : List Selection} {front : List String} {stop : Stop}
    {argument : String} {verbose : Nat} (selected : Selected selections front)
    (suits : ∀ selection ∈ selections, selection.Suits)
    (once : ((selections ++ List.replicate verbose Selection.verbose).map Selection.choice).Nodup)
    (request : Request stop verbose argument) (rest : List String) (files : Files) :
    Ending (front ++ argument :: rest) files (runProgram (front ++ argument :: rest) files)
      .answered := by
  have read := selected.read_request suits once request rest
  exact ending_answered_iff.mpr ⟨stop, request.asks, (options_asked_iff request.asks).mp read⟩

/-! ## All runs -/

/-- Every run ends in exactly one of the ways that `Ending` describes, and which one it is can be told
from its exit status and its standard output alone. A run that prints the success line has written its
output, and a run after which any file is another one than before prints the success line and has an
exit status of zero. -/
theorem run_tells_the_truth (arguments : List String) (files : Files) :
    ∃ way, Ending arguments files (runProgram arguments files) way ∧
      (∀ other, Ending arguments files (runProgram arguments files) other → other = way) ∧
      (∀ other, (runProgram arguments files).Tells other ↔ other = way) ∧
      (∀ count, (runProgram arguments files).output = successLine count → way = .generated) ∧
      (∀ place content, ¬ ((runProgram arguments files).files.tree.at? place = some (.file content) ↔
          files.tree.at? place = some (.file content)) →
        (runProgram arguments files).status = 0 ∧
          ∃ count, (runProgram arguments files).output = successLine count) := by
  obtain ⟨way, ending⟩ := exists_ending arguments files
  have tells := ending.told
  refine ⟨way, ending, fun other again => tells.unique again.told,
    fun other => ⟨tells.unique, ?_⟩, fun count => tells.generated, ?_⟩
  · rintro rfl
    exact tells
  · intro place content touched
    have generated : way = .generated :=
      by_contra fun notGenerated => touched (ending.untouched notGenerated place content)
    subst generated
    exact tells

end Codebook
