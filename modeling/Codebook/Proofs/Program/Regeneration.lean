import Codebook.Proofs.Files.WorkingDirectory
import Codebook.Proofs.Generation.Done
import Codebook.Proofs.Generation.Remarks
import Codebook.Proofs.Program.Ending

/-!
# Generating once more

A run that has generated its output and is started again does the same again. It finds the directories
that it has made, and its output with the text that it has written, where it puts the same text: from
then on nothing changes.

That the text is the same rests on what is read before it is written. None of it may be the output,
neither the files that the options name nor, if they name no configuration file, the candidates for
one. All else that the first run has done is to make directories. These make no candidate a file, and
they lead no candidate somewhere else, since the directory that the candidates are in was there before.
-/

namespace Codebook

open CommandLine

/-! ## Jobs -/

section Job

variable {writer : LineWriter Failure} {job : Job} {settings : Settings} {files after : Files}
  {summary : Summary} {remarks later : List Remark}

/-- A text that was written to a path is written there again, and nothing changes. -/
theorem perform_writeOutput_again {path text : String} {before between : Files} {place : List String}
    (made : before.makeParents path = (between, .ok ())) (writable : Writable between path place)
    (remarks : List Remark) :
    (writeOutput path text).perform ⟨between.put place (.file text.toUTF8), remarks⟩ =
      (.ok (), ⟨between.put place (.file text.toUTF8), remarks⟩) := by
  have here : between.here = before.here := (grown_of_makeParents made).here
  have madeAgain : (between.put place (.file text.toUTF8)).makeParents path = (_, .ok ()) :=
    makeParents_again made here (writable.keepsDirectories _)
  exact perform_writeOutput madeAgain (writable.holds text).write remarks

/-- A job that is done has replaced one file. If neither the definitions nor the template are this file,
the job that is done once more on what it has left comes to the same, with the same remarks, and changes
nothing. -/
theorem generate_again
    (done : (generate writer job settings).perform ⟨files, remarks⟩ = (.ok summary, ⟨after, later⟩)) :
    ∃ place, after.place? job.output = some place ∧ Replaced place files after ∧
      (after.place? job.definitions ≠ some place → after.place? job.template ≠ some place →
        (generate writer job settings).perform ⟨after, remarks⟩ = (.ok summary, ⟨after, later⟩)) := by
  obtain ⟨text, template, definitions, lines, between, place, ready, made, writable, ends⟩ :=
    ends_written_of_passed (passed_of_done (congrArg Prod.fst done))
  have counted := Except.ok.inj (ends.of_perform done).1
  have first := ready.perform counted (perform_writeOutput made (writable.write _)) remarks
  obtain ⟨-, same⟩ := Prod.mk.inj (done.symm.trans first)
  obtain ⟨rfl, rfl⟩ := Workplace.mk.inj same
  have replaced := (grown_of_makeParents made).replaced writable
    (putBlock settings.placeholder ("".intercalate lines) template).text.toUTF8
  refine ⟨place, place?_of_led (writable.led_put _), replaced, ?_⟩
  intro definitionsApart templateApart
  have readyAgain : Ready writer job settings _ text template definitions lines :=
    { ready with
      definitionsHold := replaced.holds ready.definitionsHold definitionsApart
      templateHolds := replaced.holds ready.templateHolds templateApart }
  exact readyAgain.perform counted (perform_writeOutput_again made writable) remarks

end Job

/-! ## Settings -/

/-- The paths of all that a run reads, and of all that it asks whether it is a file. -/
def CommandLine.Options.inputs (options : Options) (files : Files) : List String :=
  options.job.definitions :: options.job.template ::
    match options.config with
    | some path => [path]
    | none => files.candidates

section Settings

variable {arguments : List String} {files after : Files} {options : Options}
  {consulted : Option String} {settings : Settings} {place : List String}

/-- A name of a configuration file stands for something in a directory. -/
theorem plainName_configurationNames : ∀ name ∈ configurationNames, PlainName name := by
  intro name member
  have facts : ∀ name ∈ configurationNames, (Path.ofText name).names = [name] ∧
      name.toList.head? ≠ some '/' ∧ (name ≠ "." ∧ name ≠ "..") ∧ name.utf8ByteSize ≤ nameLimit := by
    decide +kernel
  obtain ⟨single, relative, noPoints, short⟩ := facts name member
  exact ⟨single, relative, noPoints, short⟩

/-- The candidates are inputs of a run whose options name no configuration file. -/
theorem mem_inputs_of_candidate {path : String} (unnamed : options.config = none)
    (candidate : path ∈ files.candidates) : path ∈ options.inputs files := by
  refine List.mem_cons_of_mem _ (List.mem_cons_of_mem _ ?_)
  rw [unnamed]
  exact candidate

/-- A configuration file that is consulted is an input. -/
theorem Consulted.mem_inputs {path : String} (consults : Consulted files options (some path)) :
    path ∈ options.inputs files := by
  cases consults with
  | named named =>
    refine List.mem_cons_of_mem _ (List.mem_cons_of_mem _ ?_)
    rw [named]
    exact List.mem_cons_self
  | found unnamed among =>
    refine mem_inputs_of_candidate unnamed ?_
    rw [among]
    exact List.mem_append_right _ List.mem_cons_self

/-- When a file is replaced that is no input, the same configuration file is consulted. -/
theorem Consulted.of_replaced (consults : Consulted files options consulted)
    (replaced : Replaced place files after) (stands : files.HereStands)
    (apart : ∀ input ∈ options.inputs files, after.place? input ≠ some place) :
    Consulted after options consulted := by
  refine consults.transfer ?_ ?_
  · rw [Files.candidates, Files.candidates, Files.hereText, Files.hereText, replaced.here]
  · intro unnamed path candidate
    have input := mem_inputs_of_candidate unnamed candidate
    obtain ⟨name, among, rfl⟩ := List.mem_map.mp candidate
    have same := replaced.destination_joinPath stands (plainName_configurationNames name among)
    exact replaced.regularFile_iff same (apart _ input)

/-- A run with valid settings has read the file that it consults. -/
theorem Configured.holds {path : String}
    (configured : Configured files options (some path) (.ok settings)) :
    ∃ text, Holds files path text := by
  cases configured with
  | valid held =>
    cases held with
    | layer holds => exact ⟨_, holds⟩

/-- When a file is replaced that is no input, the settings are the same. -/
theorem Configured.of_replaced (configured : Configured files options consulted (.ok settings))
    (consults : Consulted files options consulted) (replaced : Replaced place files after)
    (apart : ∀ input ∈ options.inputs files, after.place? input ≠ some place) :
    Configured after options consulted (.ok settings) := by
  refine configured.transfer ?_
  rintro path rfl
  obtain ⟨text, holds⟩ := configured.holds
  have still := replaced.holds holds (apart path consults.mem_inputs)
  exact still.readText.trans holds.readText.symm

/-- A run that has printed the success line has settings, and has done its job under them. -/
theorem exists_done_of_printed {count : Nat} (read : Options.read arguments = .ok options)
    (printed : (runProgram arguments files).output = successLine count) :
    ∃ consulted settings summary workplace, Consulted files options consulted ∧
      Configured files options consulted (.ok settings) ∧
      (generate declarationLine options.job settings).perform ⟨files, [consultation consulted]⟩ =
        (.ok summary, workplace) := by
  have notSilent : "" ≠ successLine count := ne_successLine (by decide) count
  obtain ⟨consulted, consults⟩ := exists_consulted files options
  obtain ⟨result, configured⟩ := exists_configured files options consulted
  cases result with
  | error failure =>
    rw [configured.run_stops read consults] at printed
    exact absurd printed notSilent
  | ok settings =>
    rw [configured.run_goes_on read consults] at printed
    rcases done : (generate declarationLine options.job settings).perform
      ⟨files, [consultation consulted]⟩ with ⟨failure | summary, workplace⟩
    · rw [done] at printed
      exact absurd printed notSilent
    · exact ⟨consulted, settings, summary, workplace, consults, configured, done⟩

end Settings

/-! ## Runs -/

/-- A run that has printed the success line, and whose output is none of its inputs, can be repeated.
The same arguments lead to the same exit status, the same texts on both streams, and to files that are
in every place what the first run has left.

Where a path leads is told after the first run, as it may be only then that the output leads anywhere.
The working directory is there, as it is for every run. -/
theorem regeneration_is_idempotent (arguments : List String) (files : Files) (options : Options)
    (count : Nat) (read : Options.read arguments = .ok options) (stands : files.HereStands)
    (printed : (runProgram arguments files).output = successLine count)
    (apart : ∀ input ∈ options.inputs files, (runProgram arguments files).files.place? input ≠
      (runProgram arguments files).files.place? options.job.output) :
    runProgram arguments (runProgram arguments files).files = runProgram arguments files ∧
      (runProgram arguments files).status = 0 := by
  obtain ⟨consulted, settings, summary, ⟨after, later⟩, consults, configured, done⟩ :=
    exists_done_of_printed read printed
  obtain ⟨place, leads, replaced, doneAgain⟩ := generate_again done
  have run := configured.run_goes_on read consults
  rw [done] at run
  have left : (runProgram arguments files).files = after := by
    rw [run]
    rfl
  rw [left, leads] at apart
  have consultsAgain := consults.of_replaced replaced stands apart
  have configuredAgain := configured.of_replaced consults replaced apart
  have runAgain := configuredAgain.run_goes_on read consultsAgain
  rw [doneAgain (apart _ List.mem_cons_self)
    (apart _ (List.mem_cons_of_mem _ List.mem_cons_self))] at runAgain
  rw [left, runAgain, run]
  exact ⟨rfl, rfl⟩

/-- There is a run that can be repeated although it makes a directory of the name that a configuration
file is looked for under first. The next candidate is a file, and both runs consult it. -/
theorem run_into_candidate_is_repeated :
    ∃ (arguments : List String) (files : Files) (options : Options),
      Options.read arguments = .ok options ∧ files.HereStands ∧
      (runProgram arguments files).output = successLine 1 ∧
      (∀ input ∈ options.inputs files, (runProgram arguments files).files.place? input ≠
        (runProgram arguments files).files.place? options.job.output) ∧
      files.tree.at? ["w", "errcodegen.json"] = none ∧
      (runProgram arguments files).files.isDirectory [] ["w", "errcodegen.json"] = true ∧
      (runProgram arguments files).files.readText "errcodegen.json/out" = .ok "<A>" ∧
      runProgram arguments (runProgram arguments files).files = runProgram arguments files ∧
      (runProgram arguments files).status = 0 := by
  obtain ⟨arguments, files, options, read, stands, printed, apart, absent, made, written⟩ :
      ∃ (arguments : List String) (files : Files) (options : Options),
        Options.read arguments = .ok options ∧
        files.isDirectory [] (Path.ofText files.hereText).names = true ∧
        (runProgram arguments files).output = successLine 1 ∧
        (∀ input ∈ options.inputs files, (runProgram arguments files).files.place? input ≠
          (runProgram arguments files).files.place? options.job.output) ∧
        files.tree.at? ["w", "errcodegen.json"] = none ∧
        (runProgram arguments files).files.isDirectory [] ["w", "errcodegen.json"] = true ∧
        (runProgram arguments files).files.readText "errcodegen.json/out" = .ok "<A>" :=
    ⟨["-v", "--messages=codes", "--template", "page", "--output=errcodegen.json/out"],
      ⟨⟨[(["w"], .directory),
        (["w", "errcodegen.yml"],
          .file "placeholder: P\nline_format: '\x7b\x7bname\x7d\x7d'\n".toUTF8),
        (["w", "codes"], .file "1 A = \"\";".toUTF8), (["w", "page"], .file "<P>".toUTF8)]⟩, ["w"]⟩,
      ⟨⟨"codes", "page", "errcodegen.json/out"⟩, none, none, none, none, false, true⟩,
      by decide +kernel, by decide +kernel, by decide +kernel, by decide +kernel, rfl,
      by decide +kernel, by decide +kernel⟩
  obtain ⟨again, status⟩ :=
    regeneration_is_idempotent arguments files options 1 read stands printed apart
  exact ⟨arguments, files, options, read, stands, printed, apart, absent, made, written, again,
    status⟩

end Codebook
