import Codebook.Proofs.Generation.Done

/-!
# Strictness refuses templates without the placeholder, and does nothing else

A job is compared with itself under settings that differ in strictness alone. Strictness is looked at
behind all reading, scanning and line writing, and only if the expansion counts no placeholder. So the
two runs go the same way, with the same remarks, if a stage before that fails or the template holds the
placeholder. What is left are templates without it that get as far as the check: there the strict run
ends, before it knows whether the output can be written, and the other one writes the template as it is.

Nothing is asked of the placeholder. An empty one is held by every template.
-/

namespace Codebook

open Text

variable {writer : LineWriter Failure} {job : Job} {settings : Settings} {files : Files}

/-- Strictness makes no difference to a job that fails before the check for the placeholder, or whose
template holds the placeholder. -/
def Indifferent (writer : LineWriter Failure) (job : Job) (settings : Settings) (files : Files) :
    Prop :=
  (∃ stage failure, stage.number < Stage.checkPlaceholder.number ∧
    Fails writer job settings files stage failure) ∨
  ∃ template, Holds files job.template template ∧ settings.placeholder.toList <:+: template.toList

/-! ## Stages and strictness -/

/-- Every stage but the check fails as it does, however strict the settings are. -/
theorem Fails.however_strict {stage : Stage} {failure : Failure}
    (fails : Fails writer job settings files stage failure) (notCheck : stage ≠ .checkPlaceholder)
    (strict : Bool) : Fails writer job { settings with strict } files stage failure := by
  cases fails with
  | definitionsUnread unread => exact .definitionsUnread unread
  | strayFound holds rejected => exact .strayFound holds rejected
  | templateUnread unread => exact .templateUnread unread
  | lineUnwritten holds accepted first => exact .lineUnwritten holds accepted first
  | placeholderMissing => exact absurd rfl notCheck
  | directoriesUnmade unmade => exact .directoriesUnmade unmade
  | outputUnwritten made unwritten => exact .outputUnwritten made unwritten

/-- Where strictness makes a difference, a job that is not strict is ready to write the output, and its
template does not hold the placeholder. -/
theorem ready_of_not_indifferent (different : ¬ Indifferent writer job settings files) :
    ∃ text template definitions lines,
      Ready writer job { settings with strict := false } files text template definitions lines ∧
      ¬ settings.placeholder.toList <:+: template.toList := by
  have passed : ∀ earlier other, earlier.number < Stage.writeOutput.number →
      ¬ Fails writer job { settings with strict := false } files earlier other := by
    intro earlier other sooner fails
    by_cases check : earlier = .checkPlaceholder
    · subst check
      cases fails with
      | placeholderMissing holds strict absent => cases strict
    · have before : earlier.number < Stage.checkPlaceholder.number := by
        cases earlier <;> simp_all [Stage.number]
      exact different (.inl ⟨earlier, other, before, fails.however_strict check settings.strict⟩)
  obtain ⟨text, template, definitions, lines, ready⟩ := exists_ready passed
  exact ⟨text, template, definitions, lines, ready,
    fun held => different (.inr ⟨template, ready.templateHolds, held⟩)⟩

/-! ## The same way -/

/-- An expanded template that counts a placeholder is delivered the same, however strict the settings
are. -/
theorem deliver_however_strict {definitions : Nat} {expansion : Expansion}
    (counted : expansion.replacements ≠ 0) (strict : Bool) :
    deliver job { settings with strict } definitions expansion =
      deliver job settings definitions expansion := by
  simp only [deliver, checkReplacements, if_neg counted]

/-- A job that delivers an expanded template without the placeholder is one to which strictness makes a
difference. -/
theorem Indifferent.counted {text template : String} {definitions : List Definition}
    {expansion : Expansion} (indifferent : Indifferent writer job settings files)
    (definitionsHold : Holds files job.definitions text) (accepted : scan text = .ok definitions)
    (templateHolds : Holds files job.template template)
    (expanded : expand writer settings.lineFormat settings.placeholder template definitions =
      .ok expansion) : expansion.replacements ≠ 0 := by
  rcases indifferent with ⟨stage, failure, sooner, fails⟩ | ⟨other, otherHolds, held⟩
  · cases fails with
    | definitionsUnread unread => cases definitionsHold.readText.symm.trans unread.readText
    | strayFound holds rejected =>
      obtain rfl := holds.unique definitionsHold
      cases accepted.symm.trans rejected
    | templateUnread unread => cases templateHolds.readText.symm.trans unread.readText
    | lineUnwritten holds scanned first =>
      obtain rfl := holds.unique definitionsHold
      obtain rfl := Except.ok.inj (accepted.symm.trans scanned)
      cases expanded.symm.trans (expand_of_firstFault first)
    | placeholderMissing | directoriesUnmade | outputUnwritten => simp [Stage.number] at sooner
  · obtain rfl := otherHolds.unique templateHolds
    rw [expand] at expanded
    cases block : declarationBlock writer settings.lineFormat definitions with
    | error fault =>
      rw [block] at expanded
      cases expanded
    | ok block' =>
      rw [block] at expanded
      cases expanded
      exact fun none => occurrences_eq_zero_iff.mp none held

/-- Definitions that were loaded are those of the text that their file holds. -/
theorem loadDefinitions_eq_ok {path : String} {remarks : List Remark} {workplace : Workplace}
    {definitions : List Definition}
    (loaded : (loadDefinitions path).perform ⟨files, remarks⟩ = (.ok definitions, workplace)) :
    (∃ text, Holds files path text ∧ scan text = .ok definitions) ∧
      ∃ later, workplace = ⟨files, later⟩ := by
  rcases holds_or_unread files path with ⟨text, holds⟩ | ⟨fault, unread⟩
  · cases outcome : scan text with
    | error stray =>
      obtain ⟨failed, -⟩ := (ends_loadDefinitions_stray holds outcome).of_perform loaded
      cases failed
    | ok scanned =>
      obtain ⟨same, unchanged⟩ := (ends_loadDefinitions holds outcome).of_perform loaded
      cases same
      exact ⟨⟨text, holds, outcome⟩, unchanged⟩
  · obtain ⟨failed, -⟩ := (ends_loadDefinitions_unread unread).of_perform loaded
    cases failed

/-- Strictness does not show in the run of a job to which it makes no difference.

Proof: the two runs can part only where the expanded template is delivered, and there it has counted a
placeholder. -/
theorem Indifferent.perform (indifferent : Indifferent writer job settings files)
    (strict : Bool) (remarks : List Remark) :
    (generate writer job { settings with strict }).perform ⟨files, remarks⟩ =
      (generate writer job settings).perform ⟨files, remarks⟩ := by
  rw [generate, generate]
  refine Task.perform_bind_congr fun definitions _ loaded => ?_
  obtain ⟨⟨text, definitionsHold, accepted⟩, later, rfl⟩ := loadDefinitions_eq_ok loaded
  refine Task.perform_bind_congr fun _ _ remarked => ?_
  obtain ⟨-, later, rfl⟩ := (ends_remark _).of_perform remarked
  refine Task.perform_bind_congr fun template _ read => ?_
  obtain ⟨templateHolds, later, rfl⟩ := readInput_eq_ok read
  refine Task.perform_bind_congr fun expansion _ settled => ?_
  obtain ⟨expanded, -⟩ := settle_eq_ok settled
  have counted : expansion.replacements ≠ 0 :=
    indifferent.counted definitionsHold accepted templateHolds expanded
  rw [deliver_however_strict counted]

/-! ## Where the ways part -/

section Different

variable {text template : String} {definitions : List Definition} {lines : List String}
  (ready : Ready writer job { settings with strict := false } files text template definitions lines)
  (absent : ¬ settings.placeholder.toList <:+: template.toList)

include ready absent

/-- A strict job that is ready but for the placeholder ends at the check, and nothing has been done. -/
theorem Ready.refused :
    (generate writer job { settings with strict := true }).Ends files
      (.error (.placeholderMissing job.template settings.placeholder)) files := by
  have none : (putBlock settings.placeholder ("".intercalate lines) template).replacements = 0 := by
    rw [putBlock_absent absent]
  exact ends_generate_deliver ready.definitionsHold ready.accepted ready.templateHolds ready.written
    (ends_deliver_missing rfl none)

/-- A job that is not strict writes a template without the placeholder as it is, or fails to write
it. -/
theorem Ready.copies :
    (∃ left, (generate writer job { settings with strict := false }).Ends files
        (.ok { definitions := definitions.length, replacements := 0 }) left ∧
      Written job.output template files left) ∨
    ∃ fault left, (generate writer job { settings with strict := false }).Ends files
        (.error (.unwritable job.output fault)) left ∧
      Fails writer job settings files .writeOutput (.unwritable job.output fault) := by
  have none : occurrences settings.placeholder.toList template.toList = 0 :=
    occurrences_eq_zero_iff.mpr absent
  have ends {written : Except Failure Unit} {left : Files}
      (writes : (writeOutput job.output template).Ends files written left) :
      (generate writer job { settings with strict := false }).Ends files
        (written.map fun _ => { definitions := definitions.length, replacements := 0 }) left := by
    have expands : (writeOutput job.output
        (putBlock settings.placeholder ("".intercalate lines) template).text).Ends files written
          left := by
      rw [putBlock_absent absent]
      exact writes
    have whole := ready.ends expands
    rwa [none] at whole
  rcases parents : files.makeParents job.output with ⟨between, fault | ⟨⟩⟩
  · exact .inr ⟨fault, between, ends (ends_writeOutput_unmade parents), .directoriesUnmade parents⟩
  · rcases writable_or_unwritten between job.output with ⟨place, writable⟩ | ⟨fault, unwritten⟩
    · exact .inl ⟨_, ends (ends_writeOutput parents (writable.write _)),
        (grown_of_makeParents parents).written writable⟩
    · exact .inr ⟨fault, between, ends (ends_writeOutput_unwritten parents unwritten),
        .outputUnwritten parents unwritten⟩

end Different

/-- A job is done under settings that are strict and under the same settings when they are not. If a
stage before the check for the placeholder fails, or the template holds the placeholder, the two runs
are the same: in their result, in the files they leave and in their remarks. Otherwise definitions and
template are there, and the template does not hold the placeholder. Then the strict run fails for
nothing but this, with the template's path and the placeholder, and leaves the files as they are,
whether or not the output can be written. The other run writes the template to the output as it is and
counts no replacement, or it fails because the output cannot be written. -/
theorem strictness_only_refuses (writer : LineWriter Failure) (job : Job) (settings : Settings)
    (workplace : Workplace) :
    (Indifferent writer job settings workplace.files →
      (generate writer job { settings with strict := true }).perform workplace =
        (generate writer job { settings with strict := false }).perform workplace) ∧
    (¬ Indifferent writer job settings workplace.files →
      ∃ text definitions template,
        Holds workplace.files job.definitions text ∧ scan text = .ok definitions ∧
        Holds workplace.files job.template template ∧
        ¬ settings.placeholder.toList <:+: template.toList ∧
        ((generate writer job { settings with strict := true }).perform workplace).1 =
          .error (.placeholderMissing job.template settings.placeholder) ∧
        ((generate writer job { settings with strict := true }).perform workplace).2.files =
          workplace.files ∧
        (((generate writer job { settings with strict := false }).perform workplace).1 =
              .ok { definitions := definitions.length, replacements := 0 } ∧
            Written job.output template workplace.files
              ((generate writer job { settings with strict := false }).perform workplace).2.files ∨
          ∃ fault, Fails writer job settings workplace.files .writeOutput
              (.unwritable job.output fault) ∧
            ((generate writer job { settings with strict := false }).perform workplace).1 =
              .error (.unwritable job.output fault))) := by
  constructor
  · intro indifferent
    rw [indifferent.perform true, indifferent.perform false]
  · intro different
    obtain ⟨text, template, definitions, lines, ready, absent⟩ := ready_of_not_indifferent different
    obtain ⟨refused, unchanged⟩ := (ready.refused absent).perform
    refine ⟨text, definitions, template, ready.definitionsHold, ready.accepted, ready.templateHolds,
      absent, refused, unchanged, ?_⟩
    rcases ready.copies absent with ⟨left, ends, written⟩ | ⟨fault, left, ends, fails⟩
    · left
      refine ⟨ends.perform.1, ?_⟩
      rw [ends.perform.2]
      exact written
    · exact .inr ⟨fault, fails, ends.perform.1⟩

/-- There is a job that is refused for its template although its output could not be written either. If
it is not strict, it makes a directory on the way to the output before it fails there. -/
theorem strict_job_spares_unwritable_output :
    ∃ (writer : LineWriter Failure) (job : Job) (settings : Settings) (workplace : Workplace),
      ¬ Indifferent writer job settings workplace.files ∧
      ((generate writer job { settings with strict := true }).perform workplace).1 =
        .error (.placeholderMissing job.template settings.placeholder) ∧
      ((generate writer job { settings with strict := true }).perform workplace).2.files =
        workplace.files ∧
      (∃ fault, ((generate writer job { settings with strict := false }).perform workplace).1 =
        .error (.unwritable job.output fault)) ∧
      ((generate writer job { settings with strict := false }).perform workplace).2.files ≠
        workplace.files := by
  obtain ⟨writer, job, settings, workplace, spared, made, failed⟩ :
      ∃ (writer : LineWriter Failure) (job : Job) (settings : Settings) (workplace : Workplace),
        (((generate writer job { settings with strict := true }).perform
          workplace).2.files.tree.at? ["new"]).isSome = false ∧
        (((generate writer job { settings with strict := false }).perform
          workplace).2.files.tree.at? ["new"]).isSome = true ∧
        ((generate writer job { settings with strict := false }).perform workplace).1.toBool =
          false :=
    ⟨fun _ definition => .ok definition.name, ⟨"codes", "page", "new/.."⟩, ⟨"P", "", true⟩,
      ⟨⟨⟨[(["codes"], .file "1 A = \"\";".toUTF8), (["page"], .file "Q".toUTF8)]⟩, []⟩, []⟩,
      by decide +kernel, by decide +kernel, by decide +kernel⟩
  obtain ⟨same, apart⟩ := strictness_only_refuses writer job settings workplace
  have different : ¬ Indifferent writer job settings workplace.files := by
    intro indifferent
    rw [same indifferent, made] at spared
    cases spared
  obtain ⟨_, _, _, -, -, -, -, refused, unchanged, copied | ⟨fault, -, unwritten⟩⟩ := apart different
  · rw [copied.1] at failed
    cases failed
  · refine ⟨writer, job, settings, workplace, different, refused, unchanged, ⟨fault, unwritten⟩, ?_⟩
    intro untouched
    rw [unchanged, ← untouched, made] at spared
    cases spared

end Codebook
