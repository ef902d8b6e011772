import Codebook.Proofs.Files.Writing
import Codebook.Proofs.Generation.Failing

/-!
# What a job leaves that is done

A job that has a result has gone through all its stages. So its definitions and its template could be
read, there is a line for each definition, and the output was written last. The texts are those that
the files held before the job: where the output leads to one of these files, that file is overwritten
after it was read.

The output holds the template with the block of all lines in place of the placeholder, and nothing of
what it may have held before. Apart from it, only directories above it can be new.
-/

namespace Codebook

open Text

variable {writer : LineWriter Failure} {job : Job} {settings : Settings} {workplace : Workplace}
  {summary : Summary}

/-- No stage of a job that is done has failed, since a job fails with the first stage that does. -/
theorem passed_of_done
    (done : ((generate writer job settings).perform workplace).1 = .ok summary) (stage : Stage)
    (failure : Failure) : ¬ Fails writer job settings workplace.files stage failure := by
  intro fails
  obtain ⟨first, failsFirst⟩ := exists_firstFailure fails
  cases done.symm.trans (generate_error_iff.mpr failsFirst)

/-- A job that is done had all that it needs, and has written the expanded template. -/
theorem exists_written_of_done
    (done : ((generate writer job settings).perform workplace).1 = .ok summary) :
    ∃ text template definitions lines,
      Ready writer job settings workplace.files text template definitions lines ∧
      summary = {
        definitions := definitions.length
        replacements := (putBlock settings.placeholder ("".intercalate lines) template).replacements } ∧
      Written job.output (putBlock settings.placeholder ("".intercalate lines) template).text
        workplace.files ((generate writer job settings).perform workplace).2.files := by
  obtain ⟨text, template, definitions, lines, between, place, ready, made, writable, ends⟩ :=
    ends_written_of_passed (passed_of_done done)
  have grown := grown_of_makeParents made
  refine ⟨text, template, definitions, lines, ready, ?_, ?_⟩
  · exact Except.ok.inj (done.symm.trans ends.perform.1)
  · rw [ends.perform.2]
    exact grown.written writable

/-- A job that is done has read definitions without a stray character and a template, as they were
before it, and has a line for each definition. What it counts are the definitions and the places where
the placeholder stood. It has written the template with the block of all lines in these places, byte
for byte the same elsewhere, to its output, and has changed nothing else but for the directories above
the output that were missing. -/
theorem generate_writes_output (writer : LineWriter Failure) (job : Job) (settings : Settings)
    (workplace : Workplace) (summary : Summary)
    (done : ((generate writer job settings).perform workplace).1 = .ok summary) :
    ∃ (text : String) (definitions : List Definition) (template : String) (lines : List String)
      (output : String),
      Holds workplace.files job.definitions text ∧ scan text = .ok definitions ∧
      summary.definitions = definitions.length ∧
      Holds workplace.files job.template template ∧
      definitions.map (writer settings.lineFormat) = lines.map .ok ∧
      Filled settings.placeholder (lines.flatMap String.toList) template output
        summary.replacements ∧
      Written job.output output workplace.files
        ((generate writer job settings).perform workplace).2.files := by
  obtain ⟨text, template, definitions, lines, ready, rfl, written⟩ := exists_written_of_done done
  refine ⟨text, definitions, template, lines, _, ready.definitionsHold, ready.accepted, rfl,
    ready.templateHolds, ready.written, ?_, written⟩
  rw [← toList_block]
  exact filled_putBlock _ _ _

/-- There is a job that overwrites its own template, behind a directory that it has to make: the output
`new/../page` leads to the template `page`. What is written is made of the text that the template held
before, in which the placeholder stands twice. -/
theorem job_overwrites_its_template :
    ∃ (writer : LineWriter Failure) (job : Job) (settings : Settings) (workplace : Workplace)
      (summary : Summary) (output : String),
      ((generate writer job settings).perform workplace).1 = .ok summary ∧
      Holds workplace.files job.template "P;P" ∧
      Written job.output output workplace.files
        ((generate writer job settings).perform workplace).2.files ∧
      summary.replacements = 2 ∧
      Holds ((generate writer job settings).perform workplace).2.files job.template output := by
  obtain ⟨writer, job, settings, workplace, holds, result, overwritten⟩ :
      ∃ (writer : LineWriter Failure) (job : Job) (settings : Settings) (workplace : Workplace),
        workplace.files.readText job.template = .ok "P;P" ∧
        ((generate writer job settings).perform workplace).1.toOption = some ⟨1, 2⟩ ∧
        ∀ path ∈ [job.output, job.template],
          ((generate writer job settings).perform workplace).2.files.readText path = .ok "A;A" :=
    ⟨fun _ definition => .ok definition.name, ⟨"codes", "page", "new/../page"⟩, ⟨"P", "", true⟩,
      ⟨⟨⟨[(["codes"], .file "1 A = \"\";".toUTF8), (["page"], .file "P;P".toUTF8)]⟩, []⟩, []⟩,
      by decide +kernel, by decide +kernel, by decide +kernel⟩
  have done := ok_of_toOption result
  obtain ⟨-, -, -, -, output, -, -, -, -, -, -, written⟩ :=
    generate_writes_output writer job settings workplace ⟨1, 2⟩ done
  have same : output = "A;A" :=
    Except.ok.inj (written.holds.readText.symm.trans (overwritten _ List.mem_cons_self))
  refine ⟨writer, job, settings, workplace, ⟨1, 2⟩, output, done, readText_eq_ok_iff.mp holds,
    written, rfl, readText_eq_ok_iff.mp ?_⟩
  rw [same]
  exact overwritten _ (List.mem_cons_of_mem _ List.mem_cons_self)

end Codebook
