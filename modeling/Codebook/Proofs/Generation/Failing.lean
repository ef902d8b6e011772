import Codebook.Proofs.Generation.Stages

/-!
# A job is done as a whole or not at all

A job that fails has not touched a file. If it was not the output that could not be written, all is as
it was before, and otherwise there may be new directories on the way to the output. Which failure it
is, is that of the first stage that fails, and the job fails exactly if there is one.
-/

namespace Codebook

/-- A job fails exactly with the failure of the first stage that fails. -/
theorem generate_error_iff {writer : LineWriter Failure} {job : Job} {settings : Settings}
    {workplace : Workplace} {failure : Failure} :
    ((generate writer job settings).perform workplace).1 = .error failure ↔
      FirstFailure writer job settings workplace.files failure := by
  constructor
  · intro failed
    by_cases passed : ∀ stage other, ¬ Fails writer job settings workplace.files stage other
    · obtain ⟨_, _, _, _, _, _, -, -, -, ends⟩ := ends_written_of_passed passed
      cases failed.symm.trans ends.perform.1
    · simp only [not_forall, not_not] at passed
      obtain ⟨stage, other, fails⟩ := passed
      obtain ⟨firstOther, first⟩ := exists_firstFailure fails
      obtain ⟨left, ends, -⟩ := ends_of_firstFailure first
      cases failed.symm.trans ends.perform.1
      exact first
  · intro first
    obtain ⟨left, ends, -⟩ := ends_of_firstFailure first
    exact ends.perform.1

/-- A job fails exactly with the failure of the first stage that fails. When it has failed, every file
is there with its content as it was and no file is new. If the failure is another one than that of
writing the output, nothing at all has changed. If it is that one, the only change are new directories
that proper first parts of the path of the output lead to. -/
theorem generate_all_or_nothing (writer : LineWriter Failure) (job : Job) (settings : Settings)
    (workplace : Workplace) (failure : Failure) :
    (((generate writer job settings).perform workplace).1 = .error failure ↔
      FirstFailure writer job settings workplace.files failure) ∧
    (((generate writer job settings).perform workplace).1 = .error failure →
      (∀ place content,
        ((generate writer job settings).perform workplace).2.files.tree.at? place =
            some (.file content) ↔
          workplace.files.tree.at? place = some (.file content)) ∧
      ((∀ path fault, failure ≠ .unwritable path fault) →
        ((generate writer job settings).perform workplace).2.files = workplace.files) ∧
      Grown (workplace.files.startOf (Path.ofText job.output))
        (Path.ofText job.output).plainNames.dropLast workplace.files
        ((generate writer job settings).perform workplace).2.files) := by
  refine ⟨generate_error_iff, fun failed => ?_⟩
  obtain ⟨left, ends, grown, unchanged⟩ := ends_of_firstFailure (generate_error_iff.mp failed)
  rw [ends.perform.2]
  refine ⟨grown.file_iff, fun otherFailure => ?_, grown⟩
  rcases unchanged with same | ⟨fault, unwritable⟩
  · exact same
  · exact absurd unwritable (otherFailure _ _)

/-- There is a job that fails when its output is written and leaves a directory that was not there.
For the output `new/..` the directory `new` is made, and then the path leads to the directory that
`new` is in, which is no place for a file. -/
theorem failed_job_leaves_directory :
    ∃ (writer : LineWriter Failure) (job : Job) (settings : Settings) (workplace : Workplace)
      (failure : Failure),
      ((generate writer job settings).perform workplace).1 = .error failure ∧
      FirstFailure writer job settings workplace.files failure ∧
      (∃ path fault, failure = .unwritable path fault) ∧
      workplace.files.tree.at? ["new"] = none ∧
      ((generate writer job settings).perform workplace).2.files.tree.at? ["new"] =
        some .directory := by
  obtain ⟨writer, job, settings, workplace, fails, absent, stands⟩ :
      ∃ (writer : LineWriter Failure) (job : Job) (settings : Settings) (workplace : Workplace),
        ((generate writer job settings).perform workplace).1.toBool = false ∧
        workplace.files.tree.at? ["new"] = none ∧
        (((generate writer job settings).perform workplace).2.files.tree.at? ["new"]).isSome = true :=
    ⟨fun _ definition => .ok definition.name, ⟨"codes", "page", "new/.."⟩, ⟨"P", "", true⟩,
      ⟨⟨⟨[(["codes"], .file "".toUTF8), (["page"], .file "P".toUTF8)]⟩, []⟩, []⟩,
      by decide +kernel, rfl, by decide +kernel⟩
  obtain ⟨node, there⟩ := Option.isSome_iff_exists.mp stands
  cases failed : ((generate writer job settings).perform workplace).1 with
  | ok summary =>
    rw [failed] at fails
    cases fails
  | error failure =>
    obtain ⟨first, changes⟩ := generate_all_or_nothing writer job settings workplace failure
    obtain ⟨-, unchanged, grown⟩ := changes failed
    refine ⟨writer, job, settings, workplace, failure, failed, first.mp failed, ?_, absent, ?_⟩
    · by_contra otherFailure
      rw [unchanged fun path fault same => otherFailure ⟨path, fault, same⟩, absent] at there
      cases there
    · rw [there, (grown.made ["new"] node absent there).1]

end Codebook
