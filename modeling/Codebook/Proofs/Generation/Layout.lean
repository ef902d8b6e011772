import Codebook.Proofs.Definition.Layout
import Codebook.Proofs.Generation.Done

/-!
# Definition files that differ in gaps and messages give the same output

What is generated from a definition text is generated from its definitions. So two texts with the same
definitions give the same output, on whatever files the two jobs work besides, as long as they have the
same template, the same settings and the same writer of lines. If the two texts stand in the same
files, the one job is done if the other one is, and leaves the same files. Texts of which one is the
other with gaps and messages rewritten are such texts.
-/

namespace Codebook

open Grammar

variable {writer : LineWriter Failure} {settings : Settings} {job otherJob : Job}
  {workplace otherWorkplace : Workplace} {summary otherSummary : Summary}
  {path text other template : String}

/-- Two jobs that are done on definition texts with the same definitions, and on the same template,
have counted the same and have written the same text. -/
theorem same_output_of_same_scan
    (sameScan : scanFrom other.toList = scanFrom text.toList)
    (holds : Holds workplace.files job.definitions text)
    (otherHolds : Holds otherWorkplace.files otherJob.definitions other)
    (templateHolds : Holds workplace.files job.template template)
    (otherTemplateHolds : Holds otherWorkplace.files otherJob.template template)
    (done : ((generate writer job settings).perform workplace).1 = .ok summary)
    (otherDone : ((generate writer otherJob settings).perform otherWorkplace).1 = .ok otherSummary) :
    otherSummary = summary ∧ ∃ output,
      Holds ((generate writer job settings).perform workplace).2.files job.output output ∧
      Holds ((generate writer otherJob settings).perform otherWorkplace).2.files otherJob.output
        output := by
  obtain ⟨_, _, definitions, lines, ready, rfl, written⟩ := exists_written_of_done done
  obtain ⟨_, _, otherDefinitions, otherLines, otherReady, rfl, otherWritten⟩ :=
    exists_written_of_done otherDone
  obtain rfl := holds.unique ready.definitionsHold
  obtain rfl := otherHolds.unique otherReady.definitionsHold
  obtain rfl := templateHolds.unique ready.templateHolds
  obtain rfl := otherTemplateHolds.unique otherReady.templateHolds
  have accepted := scan_eq_ok_iff.mp ready.accepted
  have otherAccepted := scan_eq_ok_iff.mp otherReady.accepted
  obtain rfl : otherDefinitions = definitions :=
    Except.ok.inj (otherAccepted.symm.trans (sameScan.trans accepted))
  have sameLines : otherLines = lines := by
    have answers := otherReady.written.symm.trans ready.written
    exact List.map_injective_iff.mpr (fun _ _ => Except.ok.inj) answers
  subst sameLines
  exact ⟨rfl, _, written.holds, otherWritten.holds⟩

/-- A job that is done is done just so with another text of the same definitions, and leaves the same
files.

Proof: all that a job has before it writes the output is there for both, and the output is written to
the same files. -/
theorem done_of_same_scan
    (sameScan : scanFrom other.toList = scanFrom text.toList)
    (holds : Holds workplace.files job.definitions text)
    (otherHolds : Holds workplace.files path other)
    (done : ((generate writer job settings).perform workplace).1 = .ok summary) :
    ((generate writer { job with definitions := path } settings).perform workplace).1 = .ok summary ∧
    ((generate writer { job with definitions := path } settings).perform workplace).2.files =
      ((generate writer job settings).perform workplace).2.files := by
  obtain ⟨_, template, definitions, lines, _, place, ready, made, writable, ends⟩ :=
    ends_written_of_passed (passed_of_done done)
  obtain rfl := holds.unique ready.definitionsHold
  have accepted : scan other = .ok definitions :=
    scan_eq_ok_iff.mpr (sameScan.trans (scan_eq_ok_iff.mp ready.accepted))
  have otherReady : Ready writer { job with definitions := path } settings workplace.files other
      template definitions lines :=
    ⟨otherHolds, accepted, ready.templateHolds, ready.written, ready.fine⟩
  have otherEnds := otherReady.ends (ends_writeOutput made (writable.write _))
  exact ⟨otherEnds.perform.1.trans (ends.perform.1.symm.trans done),
    otherEnds.perform.2.trans ends.perform.2.symm⟩

/-- Of a text and another one in which the scan's entries are written with other gaps and messages, any
number of them, either both are accepted with the same definitions, or both are rejected with the same
character. A message may be any text with backslashes put before its backslashes and double quotes. If
a job is done on the first of two such texts, it is done on the other one, counts the same and leaves
the same files. Two jobs on two such texts that are done on different files, but with the same
template, count the same and write the same text. -/
theorem layout_does_not_interfere :
    (∀ text other : String, Relation.ReflTransGen Rewritten text.toList other.toList →
      outcome other = outcome text) ∧
    (∀ (before rest : List Char) (entry : Entry) (message : List Char),
      Reaches (before ++ (entry.text ++ rest)) (entry.text ++ rest) →
      Rewritten (before ++ (entry.text ++ rest))
        (before ++ ((entry.saying message).text ++ rest))) ∧
    (∀ (writer : LineWriter Failure) (settings : Settings) (job : Job) (path : String)
      (workplace : Workplace) (text other : String) (summary : Summary),
      Relation.ReflTransGen Rewritten text.toList other.toList →
      Holds workplace.files job.definitions text → Holds workplace.files path other →
      ((generate writer job settings).perform workplace).1 = .ok summary →
      ((generate writer { job with definitions := path } settings).perform workplace).1 =
        .ok summary ∧
      ((generate writer { job with definitions := path } settings).perform workplace).2.files =
        ((generate writer job settings).perform workplace).2.files) ∧
    (∀ (writer : LineWriter Failure) (settings : Settings) (job otherJob : Job)
      (workplace otherWorkplace : Workplace) (text other template : String)
      (summary otherSummary : Summary),
      Relation.ReflTransGen Rewritten text.toList other.toList →
      Holds workplace.files job.definitions text →
      Holds otherWorkplace.files otherJob.definitions other →
      Holds workplace.files job.template template →
      Holds otherWorkplace.files otherJob.template template →
      ((generate writer job settings).perform workplace).1 = .ok summary →
      ((generate writer otherJob settings).perform otherWorkplace).1 = .ok otherSummary →
      otherSummary = summary ∧ ∃ output,
        Holds ((generate writer job settings).perform workplace).2.files job.output output ∧
        Holds ((generate writer otherJob settings).perform otherWorkplace).2.files otherJob.output
          output) := by
  refine ⟨fun text other rewritten => ?_, fun before rest entry message taken => ?_, ?_, ?_⟩
  · rw [outcome_eq, outcome_eq, scanFrom_eq_of_rewritten rewritten]
  · exact .entry before rest entry (entry.saying message) taken ⟨rfl, rfl⟩
  · intro writer settings job path workplace text other summary rewritten
    exact done_of_same_scan (scanFrom_eq_of_rewritten rewritten)
  · intro writer settings job otherJob workplace otherWorkplace text other template summary
      otherSummary rewritten
    exact same_output_of_same_scan (scanFrom_eq_of_rewritten rewritten)

/-- Behind a comment, the message `a` can be replaced by one that looks like the end of its entry and
the start of a comment, with the next entry in it. A template is filled with the same two lines. -/
theorem misleading_message_is_immaterial :
    ∃ text other : String, text ≠ other ∧
      Relation.ReflTransGen Rewritten text.toList other.toList ∧ outcome other = outcome text ∧
      ∃ (writer : LineWriter Failure) (settings : Settings) (job otherJob : Job)
        (workplace : Workplace) (summary : Summary) (output : String),
        Holds workplace.files job.definitions text ∧
        Holds workplace.files otherJob.definitions other ∧
        ((generate writer job settings).perform workplace).1 = .ok summary ∧
        ((generate writer otherJob settings).perform workplace).1 = .ok summary ∧
        summary.definitions = 2 ∧
        Holds ((generate writer job settings).perform workplace).2.files job.output output ∧
        Holds ((generate writer otherJob settings).perform workplace).2.files otherJob.output
          output := by
  obtain ⟨sameOutcome, anyMessage, sameFiles, sameOutput⟩ := layout_does_not_interfere
  obtain ⟨entry, split, otherSplit⟩ : ∃ entry : Entry,
      "// x\n1 A=\"a\";2 B=\"b\";".toList =
        "// x\n".toList ++ (entry.text ++ "2 B=\"b\";".toList) ∧
      "// x\n1 A=\"\\\"; // 2 B=\\\"\";2 B=\"b\";".toList =
        "// x\n".toList ++ ((entry.saying "\"; // 2 B=\"".toList).text ++ "2 B=\"b\";".toList) :=
    ⟨{
      code := ['1'], afterCode := [' '], name := ['A'], afterName := [], afterEquals := []
      message := ['a'], afterMessage := []
      isCode := is_code_iff.mpr ⟨'1', [], rfl, by decide, .nothing⟩
      isName := ⟨'A', [], rfl, by decide, by simp⟩
      isMessage := .plain 'a' [] (by decide) (by decide) .empty
      gap := by decide, blankAfterCode := by decide, blankAfterName := by decide
      blankAfterEquals := by decide, blankAfterMessage := by decide }, by decide, by decide⟩
  have taken : Reaches ("// x\n".toList ++ (entry.text ++ "2 B=\"b\";".toList))
      (entry.text ++ "2 B=\"b\";".toList) :=
    reaches_iff.mpr ⟨[.lineComment [' ', 'x'] (by decide), .blank '\n' (by decide)], rfl,
      .inr rfl, trivial, trivial⟩
  have rewritten : Relation.ReflTransGen Rewritten "// x\n1 A=\"a\";2 B=\"b\";".toList
      "// x\n1 A=\"\\\"; // 2 B=\\\"\";2 B=\"b\";".toList := by
    rw [split, otherSplit]
    exact .single (anyMessage _ _ entry _ taken)
  obtain ⟨writer, settings, job, path, workplace, summary, holds, otherHolds, templateHolds, done,
      count⟩ :
      ∃ (writer : LineWriter Failure) (settings : Settings) (job : Job) (path : String)
        (workplace : Workplace) (summary : Summary),
        workplace.files.readText job.definitions = .ok "// x\n1 A=\"a\";2 B=\"b\";" ∧
        workplace.files.readText path = .ok "// x\n1 A=\"\\\"; // 2 B=\\\"\";2 B=\"b\";" ∧
        workplace.files.readText job.template = .ok "P" ∧
        ((generate writer job settings).perform workplace).1.toOption = some summary ∧
        summary.definitions = 2 :=
    ⟨fun _ definition => .ok definition.name, ⟨"P", "", true⟩, ⟨"codes", "page", "out"⟩, "others",
      ⟨⟨⟨[(["codes"], .file "// x\n1 A=\"a\";2 B=\"b\";".toUTF8),
        (["others"], .file "// x\n1 A=\"\\\"; // 2 B=\\\"\";2 B=\"b\";".toUTF8),
        (["page"], .file "P".toUTF8)]⟩, []⟩, []⟩,
      ⟨2, 1⟩, by decide +kernel, by decide +kernel, by decide +kernel, by decide +kernel, rfl⟩
  have holds := readText_eq_ok_iff.mp holds
  have otherHolds := readText_eq_ok_iff.mp otherHolds
  have templateHolds := readText_eq_ok_iff.mp templateHolds
  have done := ok_of_toOption done
  obtain ⟨otherDone, -⟩ := sameFiles writer settings job path workplace _ _ summary rewritten holds
    otherHolds done
  obtain ⟨-, output, written, otherWritten⟩ := sameOutput writer settings job
    { job with definitions := path } workplace workplace _ _ _ summary summary rewritten holds
    otherHolds templateHolds templateHolds done otherDone
  exact ⟨_, _, by decide, rewritten, sameOutcome _ _ rewritten, writer, settings, job,
    { job with definitions := path }, workplace, summary, output, holds, otherHolds, done, otherDone,
    count, written, otherWritten⟩

end Codebook
