import Codebook.Proofs.Generation.Stages

/-!
# What a job remarks on

A job that is ready and whose output can be written makes its remarks in a fixed order. They name the
paths of the job and the placeholder, and count definitions and replacements. So they are a matter of
the job, of its settings and of what it has come to, and of nothing else that the files hold.
-/

namespace Codebook

open Text

variable {writer : LineWriter Failure} {job : Job} {settings : Settings} {files : Files}

/-- The remark that a template does not hold the placeholder, if it does not. -/
def absenceRemarks (path : String) (settings : Settings) (replacements : Nat) : List Remark :=
  if replacements = 0 then [.placeholderAbsent path settings.placeholder] else []

/-- The remarks of a job that is done, the oldest first. -/
def Job.remarks (job : Job) (settings : Settings) (summary : Summary) : List Remark :=
  [.readingDefinitions job.definitions, .scanned summary.definitions,
    .readingTemplate job.template, .replacing summary.replacements settings.placeholder] ++
  absenceRemarks job.template settings summary.replacements ++ [.writingOutput job.output]

/-- Loading definitions is remarked on before they are read and once they are counted. -/
theorem perform_loadDefinitions {path text : String} {definitions : List Definition}
    (holds : Holds files path text) (accepted : scan text = .ok definitions)
    (remarks : List Remark) :
    (loadDefinitions path).perform ⟨files, remarks⟩ =
      (.ok definitions,
        ⟨files, remarks ++ [.readingDefinitions path, .scanned definitions.length]⟩) := by
  rw [loadDefinitions, Task.perform_bind, perform_remark]
  simp only [Task.perform_bind, holds.perform_readInput, accepted, perform_settle_ok,
    perform_remark, List.append_assoc, List.cons_append, List.nil_append]
  rfl

/-- A template that passes the check is remarked on if it does not hold the placeholder. -/
theorem perform_checkReplacements {path : String} {replacements : Nat}
    (fine : settings.strict = false ∨ replacements ≠ 0) (remarks : List Remark) :
    (checkReplacements path settings replacements).perform ⟨files, remarks⟩ =
      (.ok (), ⟨files, remarks ++ absenceRemarks path settings replacements⟩) := by
  rw [checkReplacements, absenceRemarks]
  split
  · next none =>
    rw [fine.resolve_right (not_not_intro none)]
    exact perform_remark _ remarks
  · rw [List.append_nil]
    rfl

/-- An expanded template that passes the check is remarked on before it is written. -/
theorem perform_deliver (definitions : Nat) {expansion : Expansion} {left : Files}
    (fine : settings.strict = false ∨ expansion.replacements ≠ 0)
    (writes : ∀ remarks, (writeOutput job.output expansion.text).perform ⟨files, remarks⟩ =
      (.ok (), ⟨left, remarks⟩)) (remarks : List Remark) :
    (deliver job settings definitions expansion).perform ⟨files, remarks⟩ =
      (.ok { definitions, replacements := expansion.replacements },
        ⟨left, remarks ++ [.replacing expansion.replacements settings.placeholder] ++
          absenceRemarks job.template settings expansion.replacements ++
          [.writingOutput job.output]⟩) := by
  rw [deliver, Task.perform_bind, perform_remark]
  simp only [Task.perform_bind, perform_checkReplacements fine, perform_remark, writes]
  rfl

/-- A job that is ready makes its remarks and leaves the files that writing its output leaves. -/
theorem Ready.perform {text template : String} {definitions : List Definition}
    {lines : List String} {left : Files} {summary : Summary}
    (ready : Ready writer job settings files text template definitions lines)
    (counted : summary = {
      definitions := definitions.length
      replacements := occurrences settings.placeholder.toList template.toList })
    (writes : ∀ remarks, (writeOutput job.output
      (putBlock settings.placeholder ("".intercalate lines) template).text).perform
        ⟨files, remarks⟩ = (.ok (), ⟨left, remarks⟩)) (remarks : List Remark) :
    (generate writer job settings).perform ⟨files, remarks⟩ =
      (.ok summary, ⟨left, remarks ++ job.remarks settings summary⟩) := by
  have fine : settings.strict = false ∨
      occurrences settings.placeholder.toList template.toList ≠ 0 :=
    ready.fine.imp_right fun held none => occurrences_eq_zero_iff.mp none held
  have delivers := perform_deliver definitions.length fine writes
  subst counted
  rw [generate, Task.perform_bind, perform_loadDefinitions ready.definitionsHold ready.accepted]
  simp only [Task.perform_bind, perform_remark, ready.templateHolds.perform_readInput,
    expand_of_lines ready.written, perform_settle_ok, delivers, Job.remarks,
    List.append_assoc, List.cons_append, List.nil_append]
  rfl

end Codebook
