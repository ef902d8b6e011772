import Codebook.Proofs.Files.Access
import Codebook.Workplace

/-!
# What tasks end with

A task reads and writes files, and it adds remarks to those made before, which it never reads. So what
it ends with is a matter of the files alone: a result or a failure, and the files it leaves. This is
said once for each task that others are made of. A task made of two ends as the second one does on the
files that the first one leaves, or fails with the first one and leaves what that one leaves.
-/

namespace Codebook

variable {α β ε : Type}

/-- A result that has a value as an option has it as it is. -/
theorem ok_of_toOption {result : Except ε α} {value : α}
    (there : result.toOption = some value) : result = .ok value := by
  cases result with
  | error fault => cases there
  | ok other => exact congrArg Except.ok (Option.some.inj there)

/-- On some files a task ends with a result or a failure and leaves some files, whatever the remarks
made before. -/
def Task.Ends (task : Task α) (files : Files) (result : Except Failure α) (left : Files) : Prop :=
  ∀ remarks, ∃ later, task.perform ⟨files, remarks⟩ = (result, ⟨left, later⟩)

/-- What a task ends with is what it is performed with. -/
theorem Task.Ends.perform {task : Task α} {result : Except Failure α} {left : Files}
    {workplace : Workplace} (ends : task.Ends workplace.files result left) :
    (task.perform workplace).1 = result ∧ (task.perform workplace).2.files = left := by
  obtain ⟨later, same⟩ := ends workplace.remarks
  exact ⟨congrArg Prod.fst same, congrArg (·.2.files) same⟩

/-- What a task is performed with is what it ends with. -/
theorem Task.Ends.of_perform {task : Task α} {files left : Files} {remarks : List Remark}
    {result other : Except Failure α} {workplace : Workplace} (ends : task.Ends files result left)
    (performed : task.perform ⟨files, remarks⟩ = (other, workplace)) :
    other = result ∧ ∃ later, workplace = ⟨left, later⟩ := by
  obtain ⟨later, same⟩ := ends remarks
  cases performed.symm.trans same
  exact ⟨rfl, later, rfl⟩

/-! ## Tasks made of two -/

/-- A task made of two goes on with the second if the first has a result. -/
theorem Task.perform_bind (task : Task α) (rest : α → Task β) (workplace : Workplace) :
    (task >>= rest).perform workplace =
      match task.perform workplace with
      | (.ok value, between) => (rest value).perform between
      | (.error failure, left) => (.error failure, left) := by
  rw [Task.perform, ExceptT.run_bind, StateT.run_bind, ← Task.perform]
  rcases task.perform workplace with ⟨value | failure, between⟩
  · rfl
  · rfl

variable {task : Task α} {rest : α → Task β} {files between left : Files}

/-- Looking at the workplace leaves it as it is. -/
theorem Task.perform_get (workplace : Workplace) :
    (get : Task Workplace).perform workplace = (.ok workplace, workplace) :=
  rfl

/-- Putting another workplace in place of the first one leaves that one. -/
theorem Task.perform_set (workplace other : Workplace) :
    (set other : Task PUnit).perform workplace = (.ok ⟨⟩, other) :=
  rfl

/-- Two tasks that start the same go the same way if they go on the same way from what the start has
come to. -/
theorem Task.perform_bind_congr {other : α → Task β} {workplace : Workplace}
    (goOn : ∀ value middle, task.perform workplace = (.ok value, middle) →
      (rest value).perform middle = (other value).perform middle) :
    (task >>= rest).perform workplace = (task >>= other).perform workplace := by
  rw [perform_bind, perform_bind]
  rcases start : task.perform workplace with ⟨failure | value, middle⟩
  · rfl
  · exact goOn value middle start

/-- After a task with a result the next one goes on. -/
theorem Task.Ends.next {value : α} {result : Except Failure β}
    (first : task.Ends files (.ok value) between) (second : (rest value).Ends between result left) :
    (task >>= rest).Ends files result left := by
  intro remarks
  obtain ⟨middle, done⟩ := first remarks
  obtain ⟨later, same⟩ := second middle
  refine ⟨later, ?_⟩
  rw [perform_bind, done]
  exact same

/-- After a task that fails nothing is done. -/
theorem Task.Ends.stop {failure : Failure} (first : task.Ends files (.error failure) left) :
    (task >>= rest).Ends files (.error failure) left := by
  intro remarks
  obtain ⟨later, failed⟩ := first remarks
  exact ⟨later, by rw [perform_bind, failed]⟩

/-! ## Single tasks -/

/-- A result is given and nothing done. -/
theorem ends_pure (value : α) : (pure value : Task α).Ends files (.ok value) files :=
  fun remarks => ⟨remarks, rfl⟩

/-- A failure is that of the task, and nothing is done. -/
theorem ends_throw (failure : Failure) : (throw failure : Task α).Ends files (.error failure) files :=
  fun remarks => ⟨remarks, rfl⟩

/-- A remark leaves the files as they are. -/
theorem ends_remark (made : Remark) : (remark made).Ends files (.ok ()) files :=
  fun remarks => ⟨remarks ++ [made], rfl⟩

/-- What is settled is the result, or the failure that it says. -/
theorem ends_settle (failure : ε → Failure) (result : Except ε α) :
    (settle failure result).Ends files (result.mapError failure) files :=
  fun remarks => ⟨remarks, rfl⟩

/-- What was settled with a value is this value, and nothing was done. -/
theorem settle_eq_ok {failure : ε → Failure} {result : Except ε α} {value : α}
    {workplace after : Workplace}
    (settled : (settle failure result).perform workplace = (.ok value, after)) :
    result = .ok value ∧ after = workplace := by
  cases result with
  | error fault => cases settled
  | ok given =>
    cases settled
    exact ⟨rfl, rfl⟩

/-- A task that looks at the workplace goes on with it. -/
theorem ends_get {rest : Workplace → Task α} {result : Except Failure α}
    (goesOn : ∀ remarks, (rest ⟨files, remarks⟩).Ends files result left) :
    (get >>= rest).Ends files result left := by
  intro remarks
  rw [Task.perform_bind]
  exact goesOn remarks remarks

/-- A workplace that is put in place of the other is left behind. -/
theorem ends_set (workplace : Workplace) :
    (set workplace : Task PUnit).Ends files (.ok ⟨⟩) workplace.files :=
  fun _ => ⟨workplace.remarks, rfl⟩

/-- A remark is added to those made before. -/
theorem perform_remark (made : Remark) (remarks : List Remark) :
    (remark made).perform ⟨files, remarks⟩ = (.ok (), ⟨files, remarks ++ [made]⟩) :=
  rfl

/-- Settling does nothing but give the result. -/
theorem perform_settle (failure : ε → Failure) (result : Except ε α) (workplace : Workplace) :
    (settle failure result).perform workplace = (result.mapError failure, workplace) :=
  rfl

/-- Settling a value gives it. -/
theorem perform_settle_ok (failure : ε → Failure) (value : α) (workplace : Workplace) :
    (settle failure (.ok value)).perform workplace = (.ok value, workplace) :=
  rfl

/-! ## Input and output -/

/-- Reading gives the text that the file at a path holds. -/
theorem ends_readInput {path text : String} (holds : Holds files path text) :
    (readInput path).Ends files (.ok text) files := by
  refine ends_get fun remarks => ?_
  simp only [holds.readText]
  exact ends_settle _ (.ok text)

/-- Reading fails if there is a reason why a path cannot be read. -/
theorem ends_readInput_unread {path : String} {fault : FileFault} (unread : Unread files path fault) :
    (readInput path).Ends files (.error (.unreadable path fault)) files := by
  refine ends_get fun remarks => ?_
  simp only [unread.readText]
  exact ends_settle _ (.error fault)

/-- Reading the text that the file at a path holds does nothing else. -/
theorem Holds.perform_readInput {path text : String} (holds : Holds files path text)
    (remarks : List Remark) :
    (readInput path).perform ⟨files, remarks⟩ = (.ok text, ⟨files, remarks⟩) := by
  rw [readInput, Task.perform_bind, Task.perform_get]
  simp only [holds.readText]
  rfl

/-- Failing to read does nothing. -/
theorem Unread.perform_readInput {path : String} {fault : FileFault}
    (unread : Unread files path fault) (remarks : List Remark) :
    (readInput path).perform ⟨files, remarks⟩ =
      (.error (.unreadable path fault), ⟨files, remarks⟩) := by
  rw [readInput, Task.perform_bind, Task.perform_get]
  simp only [unread.readText]
  rfl

/-- What was read is the text that the file at a path holds. -/
theorem readInput_eq_ok {path text : String} {remarks : List Remark} {workplace : Workplace}
    (read : (readInput path).perform ⟨files, remarks⟩ = (.ok text, workplace)) :
    Holds files path text ∧ ∃ later, workplace = ⟨files, later⟩ := by
  rcases holds_or_unread files path with ⟨held, holds⟩ | ⟨fault, unread⟩
  · obtain ⟨same, unchanged⟩ := (ends_readInput holds).of_perform read
    cases same
    exact ⟨holds, unchanged⟩
  · obtain ⟨failed, -⟩ := (ends_readInput_unread unread).of_perform read
    cases failed

/-- Writing fails if the directories above a path cannot be made. Those that were made stay. -/
theorem ends_writeOutput_unmade {path text : String} {fault : FileFault}
    (unmade : files.makeParents path = (between, .error fault)) :
    (writeOutput path text).Ends files (.error (.unwritable path fault)) between := by
  rw [writeOutput]
  refine ends_get fun remarks => ?_
  simp only [unmade]
  exact (ends_set _).next (ends_settle _ _).stop

/-- Writing fails if there is a reason why a path cannot be written once the directories above it are
made. These stay. -/
theorem ends_writeOutput_unwritten {path text : String} {fault : FileFault}
    (made : files.makeParents path = (between, .ok ())) (unwritten : Unwritten between path fault) :
    (writeOutput path text).Ends files (.error (.unwritable path fault)) between := by
  rw [writeOutput]
  refine ends_get fun remarks => ?_
  simp only [made, unwritten.write text]
  exact (ends_set _).next ((ends_settle _ _).next (ends_settle _ _).stop)

/-- Writing a text where a path leads, once the directories above it are made, does nothing else. -/
theorem perform_writeOutput {path text : String} (made : files.makeParents path = (between, .ok ()))
    (written : between.write path text = .ok left) (remarks : List Remark) :
    (writeOutput path text).perform ⟨files, remarks⟩ = (.ok (), ⟨left, remarks⟩) := by
  rw [writeOutput, Task.perform_bind, Task.perform_get]
  simp only [made]
  rw [Task.perform_bind, Task.perform_set]
  simp only [Task.perform_bind, perform_settle_ok, written]
  rfl

/-- Writing puts a text where a path leads once the directories above it are made. -/
theorem ends_writeOutput {path text : String} (made : files.makeParents path = (between, .ok ()))
    (written : between.write path text = .ok left) :
    (writeOutput path text).Ends files (.ok ()) left :=
  fun remarks => ⟨remarks, perform_writeOutput made written remarks⟩

end Codebook
