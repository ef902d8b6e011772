import Codebook.Generation
import Codebook.Proofs.Expansion
import Codebook.Proofs.Files.Directories
import Codebook.Proofs.Workplace

/-!
# The stages of a job

A job goes through six stages. What makes a stage fail is said of what this stage works on and of no
other stage, so that several of them can fail on the same files. The job then fails with the first of
these failures in the order of the stages, and if there is none it has a result.

Only the last stage changes files. What it leaves when it fails are the files with new directories
along the path of the output.
-/

namespace Codebook

open Text

/-- The stages of a job. -/
inductive Stage where
  | readDefinitions
  | scan
  | readTemplate
  | writeLines
  | checkPlaceholder
  | writeOutput
  deriving Repr, DecidableEq

/-- The number of a stage in the order they are gone through. -/
def Stage.number : Stage → Nat
  | .readDefinitions => 0
  | .scan => 1
  | .readTemplate => 2
  | .writeLines => 3
  | .checkPlaceholder => 4
  | .writeOutput => 5

/-- What makes a stage fail, and with which failure. -/
inductive Fails (writer : LineWriter Failure) (job : Job) (settings : Settings) (files : Files) :
    Stage → Failure → Prop
  /-- The definitions cannot be read. -/
  | definitionsUnread {fault : FileFault} (unread : Unread files job.definitions fault) :
    Fails writer job settings files .readDefinitions (.unreadable job.definitions fault)
  /-- A character of the definitions is stray. -/
  | strayFound {text : String} {stray : Stray} (holds : Holds files job.definitions text)
    (rejected : scan text = .error stray) :
    Fails writer job settings files .scan (.stray stray)
  /-- The template cannot be read. -/
  | templateUnread {fault : FileFault} (unread : Unread files job.template fault) :
    Fails writer job settings files .readTemplate (.unreadable job.template fault)
  /-- The line of a definition cannot be written. -/
  | lineUnwritten {text : String} {definitions : List Definition} {failure : Failure}
    (holds : Holds files job.definitions text) (accepted : scan text = .ok definitions)
    (first : FirstFault (writer settings.lineFormat) definitions failure) :
    Fails writer job settings files .writeLines failure
  /-- The settings are strict, and the template does not hold the placeholder. -/
  | placeholderMissing {template : String} (holds : Holds files job.template template)
    (strict : settings.strict = true)
    (absent : ¬ settings.placeholder.toList <:+: template.toList) :
    Fails writer job settings files .checkPlaceholder
      (.placeholderMissing job.template settings.placeholder)
  /-- A directory above the output cannot be made. -/
  | directoriesUnmade {grown : Files} {fault : FileFault}
    (unmade : files.makeParents job.output = (grown, .error fault)) :
    Fails writer job settings files .writeOutput (.unwritable job.output fault)
  /-- The output cannot be written once the directories above it are made. -/
  | outputUnwritten {grown : Files} {fault : FileFault}
    (made : files.makeParents job.output = (grown, .ok ()))
    (unwritten : Unwritten grown job.output fault) :
    Fails writer job settings files .writeOutput (.unwritable job.output fault)

/-- The failure of the first stage that fails. -/
def FirstFailure (writer : LineWriter Failure) (job : Job) (settings : Settings) (files : Files)
    (failure : Failure) : Prop :=
  ∃ stage, Fails writer job settings files stage failure ∧
    ∀ earlier other, earlier.number < stage.number → ¬ Fails writer job settings files earlier other

variable {writer : LineWriter Failure} {job : Job} {settings : Settings} {files : Files}

/-- If some stage fails, one of them is the first to fail. -/
theorem exists_firstFailure {stage : Stage} {failure : Failure}
    (fails : Fails writer job settings files stage failure) :
    ∃ first, FirstFailure writer job settings files first := by
  induction number : stage.number using Nat.strongRecOn generalizing stage failure with
  | ind count ih =>
    by_cases sooner : ∃ earlier other, earlier.number < stage.number ∧
        Fails writer job settings files earlier other
    · obtain ⟨earlier, other, before, failsToo⟩ := sooner
      exact ih earlier.number (number ▸ before) failsToo rfl
    · exact ⟨failure, stage, fails, fun earlier other before failsToo =>
        sooner ⟨earlier, other, before, failsToo⟩⟩

/-! ## What is known behind a stage -/

/-- Definitions that can be read and have no stray character are there. -/
theorem definitions_of_passed
    (read : ∀ failure, ¬ Fails writer job settings files .readDefinitions failure)
    (scanned : ∀ failure, ¬ Fails writer job settings files .scan failure) :
    ∃ text definitions, Holds files job.definitions text ∧ scan text = .ok definitions := by
  rcases holds_or_unread files job.definitions with ⟨text, holds⟩ | ⟨fault, unread⟩
  · cases outcome : scan text with
    | error stray => exact absurd (.strayFound holds outcome) (scanned _)
    | ok definitions => exact ⟨text, definitions, holds, outcome⟩
  · exact absurd (.definitionsUnread unread) (read _)

/-- A template that can be read is there. -/
theorem template_of_passed
    (read : ∀ failure, ¬ Fails writer job settings files .readTemplate failure) :
    ∃ template, Holds files job.template template := by
  rcases holds_or_unread files job.template with holds | ⟨fault, unread⟩
  · exact holds
  · exact absurd (.templateUnread unread) (read _)

/-- The lines of definitions are there if each of them can be written. -/
theorem lines_of_passed {text : String} {definitions : List Definition}
    (holds : Holds files job.definitions text) (accepted : scan text = .ok definitions)
    (written : ∀ failure, ¬ Fails writer job settings files .writeLines failure) :
    ∃ lines : List String, definitions.map (writer settings.lineFormat) = lines.map .ok := by
  rcases firstFault_or_results (writer settings.lineFormat) definitions with ⟨fault, first⟩ | lines
  · exact absurd (.lineUnwritten holds accepted first) (written _)
  · exact lines

/-- A template passes the check if the settings are not strict or it holds the placeholder. -/
theorem placeholder_of_passed {template : String} (holds : Holds files job.template template)
    (checked : ∀ failure, ¬ Fails writer job settings files .checkPlaceholder failure) :
    settings.strict = false ∨ settings.placeholder.toList <:+: template.toList := by
  cases strict : settings.strict with
  | false => exact .inl rfl
  | true => exact .inr (by_contra fun absent => checked _ (.placeholderMissing holds strict absent))

/-! ## Stages on their own -/

/-- The definitions are what the scan of their text gives. -/
theorem ends_loadDefinitions {path text : String} {definitions : List Definition}
    (holds : Holds files path text) (accepted : scan text = .ok definitions) :
    (loadDefinitions path).Ends files (.ok definitions) files := by
  rw [loadDefinitions]
  refine (ends_remark _).next ((ends_readInput holds).next ?_)
  rw [accepted]
  exact (ends_settle _ _).next ((ends_remark _).next (ends_pure _))

/-- A stray character is the failure of loading the definitions. -/
theorem ends_loadDefinitions_stray {path text : String} {stray : Stray}
    (holds : Holds files path text) (rejected : scan text = .error stray) :
    (loadDefinitions path).Ends files (.error (.stray stray)) files := by
  rw [loadDefinitions]
  refine (ends_remark _).next ((ends_readInput holds).next ?_)
  rw [rejected]
  exact (ends_settle _ _).stop

/-- Definitions that cannot be read are not loaded. -/
theorem ends_loadDefinitions_unread {path : String} {fault : FileFault}
    (unread : Unread files path fault) :
    (loadDefinitions path).Ends files (.error (.unreadable path fault)) files := by
  rw [loadDefinitions]
  exact (ends_remark _).next (ends_readInput_unread unread).stop

/-- A template that holds the placeholder passes the check, and so does any if the settings are not
strict. -/
theorem ends_checkReplacements {path : String} {replacements : Nat}
    (fine : settings.strict = false ∨ replacements ≠ 0) :
    (checkReplacements path settings replacements).Ends files (.ok ()) files := by
  rw [checkReplacements]
  split
  · next none =>
    rw [fine.resolve_right (not_not_intro none)]
    exact ends_remark _
  · exact ends_pure _

/-- A template without the placeholder does not pass the check if the settings are strict. -/
theorem ends_checkReplacements_missing {path : String} {replacements : Nat}
    (strict : settings.strict = true) (none : replacements = 0) :
    (checkReplacements path settings replacements).Ends files
      (.error (.placeholderMissing path settings.placeholder)) files := by
  rw [checkReplacements, if_pos none, if_pos strict]
  exact ends_throw _

/-- An expanded template without the placeholder is not delivered if the settings are strict. -/
theorem ends_deliver_missing {definitions : Nat} {expansion : Expansion}
    (strict : settings.strict = true) (none : expansion.replacements = 0) :
    (deliver job settings definitions expansion).Ends files
      (.error (.placeholderMissing job.template settings.placeholder)) files := by
  rw [deliver]
  exact (ends_remark _).next (ends_checkReplacements_missing strict none).stop

/-- What writing the output ends with is what delivering an expanded template that passes the check
ends with. -/
theorem ends_deliver {definitions : Nat} {expansion : Expansion} {written : Except Failure Unit}
    {left : Files} (fine : settings.strict = false ∨ expansion.replacements ≠ 0)
    (writes : (writeOutput job.output expansion.text).Ends files written left) :
    (deliver job settings definitions expansion).Ends files
      (written.map fun _ => { definitions, replacements := expansion.replacements }) left := by
  rw [deliver]
  refine (ends_remark _).next ((ends_checkReplacements fine).next ((ends_remark _).next ?_))
  cases written with
  | error failure => exact writes.stop
  | ok => exact writes.next (ends_pure _)

/-! ## All stages -/

section Run

variable {text template : String} {definitions : List Definition} {lines : List String}
  {result : Except Failure Summary} {left : Files}

/-- Behind the definitions a job goes on with the template. -/
theorem ends_generate_template {fault : FileFault}
    (definitionsHold : Holds files job.definitions text) (accepted : scan text = .ok definitions)
    (unread : Unread files job.template fault) :
    (generate writer job settings).Ends files (.error (.unreadable job.template fault)) files := by
  rw [generate]
  exact (ends_loadDefinitions definitionsHold accepted).next
    ((ends_remark _).next (ends_readInput_unread unread).stop)

variable (definitionsHold : Holds files job.definitions text) (accepted : scan text = .ok definitions)
  (templateHolds : Holds files job.template template)

include definitionsHold accepted templateHolds

/-- Behind the template a job goes on with the lines. -/
theorem ends_generate_lines {failure : Failure}
    (first : FirstFault (writer settings.lineFormat) definitions failure) :
    (generate writer job settings).Ends files (.error failure) files := by
  rw [generate]
  refine (ends_loadDefinitions definitionsHold accepted).next
    ((ends_remark _).next ((ends_readInput templateHolds).next ?_))
  rw [expand_of_firstFault first]
  exact (ends_settle _ _).stop

/-- Behind the lines a job goes on with the expanded template. -/
theorem ends_generate_deliver
    (written : definitions.map (writer settings.lineFormat) = lines.map .ok)
    (delivers : (deliver job settings definitions.length
      (putBlock settings.placeholder ("".intercalate lines) template)).Ends files result left) :
    (generate writer job settings).Ends files result left := by
  rw [generate]
  refine (ends_loadDefinitions definitionsHold accepted).next
    ((ends_remark _).next ((ends_readInput templateHolds).next ?_))
  rw [expand_of_lines written]
  exact (ends_settle _ _).next delivers

end Run

/-- All that a job has before it writes the output: the texts of its files, the definitions, a line
for each of them, and a template that passes the check. -/
structure Ready (writer : LineWriter Failure) (job : Job) (settings : Settings) (files : Files)
    (text template : String) (definitions : List Definition) (lines : List String) : Prop where
  definitionsHold : Holds files job.definitions text
  accepted : scan text = .ok definitions
  templateHolds : Holds files job.template template
  written : definitions.map (writer settings.lineFormat) = lines.map .ok
  fine : settings.strict = false ∨ settings.placeholder.toList <:+: template.toList

/-- A job is ready to write the output when all stages before that have passed. -/
theorem exists_ready (passed : ∀ earlier other, earlier.number < Stage.writeOutput.number →
      ¬ Fails writer job settings files earlier other) :
    ∃ text template definitions lines,
      Ready writer job settings files text template definitions lines := by
  obtain ⟨text, definitions, definitionsHold, accepted⟩ := definitions_of_passed
    (fun other => passed .readDefinitions other (by decide))
    (fun other => passed .scan other (by decide))
  obtain ⟨template, templateHolds⟩ :=
    template_of_passed fun other => passed .readTemplate other (by decide)
  obtain ⟨lines, written⟩ := lines_of_passed definitionsHold accepted
    fun other => passed .writeLines other (by decide)
  have fine := placeholder_of_passed templateHolds
    fun other => passed .checkPlaceholder other (by decide)
  exact ⟨text, template, definitions, lines, definitionsHold, accepted, templateHolds, written, fine⟩

/-- A job that is ready ends with what writing the output ends with. -/
theorem Ready.ends {text template : String} {definitions : List Definition} {lines : List String}
    (ready : Ready writer job settings files text template definitions lines)
    {written : Except Failure Unit} {left : Files}
    (writes : (writeOutput job.output
      (putBlock settings.placeholder ("".intercalate lines) template).text).Ends files written left) :
    (generate writer job settings).Ends files
      (written.map fun _ => {
        definitions := definitions.length
        replacements := occurrences settings.placeholder.toList template.toList }) left := by
  have fine : settings.strict = false ∨
      occurrences settings.placeholder.toList template.toList ≠ 0 :=
    ready.fine.imp_right fun held none => occurrences_eq_zero_iff.mp none held
  exact ends_generate_deliver ready.definitionsHold ready.accepted ready.templateHolds ready.written
    (ends_deliver fine writes)

/-- A job whose first stage to fail is not the last one fails there and leaves the files as they are. -/
theorem ends_before_output {stage : Stage} {failure : Failure}
    (fails : Fails writer job settings files stage failure) (sooner : stage ≠ .writeOutput)
    (passed : ∀ earlier other, earlier.number < stage.number →
      ¬ Fails writer job settings files earlier other) :
    (generate writer job settings).Ends files (.error failure) files := by
  -- What an earlier stage leaves is not part of the reason why a stage fails, so it is taken from
  -- there not having failed.
  cases fails with
  | definitionsUnread unread =>
    rw [generate]
    exact (ends_loadDefinitions_unread unread).stop
  | strayFound holds rejected =>
    rw [generate]
    exact (ends_loadDefinitions_stray holds rejected).stop
  | templateUnread unread =>
    obtain ⟨text, definitions, holds, accepted⟩ := definitions_of_passed
      (fun other => passed .readDefinitions other (by decide))
      (fun other => passed .scan other (by decide))
    exact ends_generate_template holds accepted unread
  | lineUnwritten holds accepted first =>
    obtain ⟨template, templateHolds⟩ :=
      template_of_passed fun other => passed .readTemplate other (by decide)
    exact ends_generate_lines holds accepted templateHolds first
  | placeholderMissing holds strict absent =>
    obtain ⟨text, definitions, definitionsHold, accepted⟩ := definitions_of_passed
      (fun other => passed .readDefinitions other (by decide))
      (fun other => passed .scan other (by decide))
    obtain ⟨lines, written⟩ := lines_of_passed definitionsHold accepted
      fun other => passed .writeLines other (by decide)
    exact ends_generate_deliver definitionsHold accepted holds written
      (ends_deliver_missing strict (occurrences_eq_zero_iff.mpr absent))
  | directoriesUnmade | outputUnwritten => exact absurd rfl sooner

/-- A job all of whose stages but the last have passed fails where its output cannot be written. It
leaves the files with new directories along the path of the output. -/
theorem ends_at_output {failure : Failure}
    (fails : Fails writer job settings files .writeOutput failure)
    (passed : ∀ earlier other, earlier.number < Stage.writeOutput.number →
      ¬ Fails writer job settings files earlier other) :
    ∃ left, (generate writer job settings).Ends files (.error failure) left ∧
      Grown (files.startOf (Path.ofText job.output)) (Path.ofText job.output).plainNames.dropLast
        files left ∧
      ∃ fault, failure = .unwritable job.output fault := by
  obtain ⟨text, template, definitions, lines, ready⟩ := exists_ready passed
  cases fails with
  | directoriesUnmade unmade =>
    have grown := grown_of_makeParents unmade
    exact ⟨_, ready.ends (ends_writeOutput_unmade unmade), grown, _, rfl⟩
  | outputUnwritten made unwritten =>
    have grown := grown_of_makeParents made
    exact ⟨_, ready.ends (ends_writeOutput_unwritten made unwritten), grown, _, rfl⟩

/-- A job fails with the failure of the first stage that fails. It leaves the files as they are, or
with new directories along the path of the output if that could not be written. -/
theorem ends_of_firstFailure {failure : Failure}
    (first : FirstFailure writer job settings files failure) :
    ∃ left, (generate writer job settings).Ends files (.error failure) left ∧
      Grown (files.startOf (Path.ofText job.output)) (Path.ofText job.output).plainNames.dropLast
        files left ∧
      (left = files ∨ ∃ fault, failure = .unwritable job.output fault) := by
  obtain ⟨stage, fails, passed⟩ := first
  by_cases last : stage = .writeOutput
  · subst last
    obtain ⟨left, ends, grown, unwritable⟩ := ends_at_output fails passed
    exact ⟨left, ends, grown, .inr unwritable⟩
  · exact ⟨files, ends_before_output fails last passed, Grown.refl _ _ _, .inl rfl⟩

/-- A job none of whose stages fails has a result. It puts the expanded template where the path of the
output leads, once the directories above it are made. -/
theorem ends_written_of_passed
    (passed : ∀ stage failure, ¬ Fails writer job settings files stage failure) :
    ∃ text template definitions lines grown place,
      Ready writer job settings files text template definitions lines ∧
      files.makeParents job.output = (grown, .ok ()) ∧ Writable grown job.output place ∧
      (generate writer job settings).Ends files
        (.ok {
          definitions := definitions.length
          replacements := occurrences settings.placeholder.toList template.toList })
        (grown.put place (.file
          (putBlock settings.placeholder ("".intercalate lines) template).text.toUTF8)) := by
  obtain ⟨text, template, definitions, lines, ready⟩ :=
    exists_ready fun earlier other _ => passed earlier other
  rcases parents : files.makeParents job.output with ⟨grown, fault | ⟨⟩⟩
  · exact absurd (.directoriesUnmade parents) (passed _ _)
  · rcases writable_or_unwritten grown job.output with ⟨place, writable⟩ | ⟨fault, unwritten⟩
    · exact ⟨text, template, definitions, lines, grown, place, ready, rfl, writable,
        ready.ends (ends_writeOutput parents (writable.write _))⟩
    · exact absurd (.outputUnwritten parents unwritten) (passed _ _)

end Codebook
