import Codebook.Proofs.Files.Access
import Codebook.Proofs.Files.Directories

/-!
# What a written path leaves

A text is written in two steps. First the directories above the path are made, which only adds
directories. Then the text is put where the path leads, where no directory stands. The second step
keeps all directories, and so the path still leads to the same place afterwards, and the file there
holds the text. Every other place is as it was before, or holds a directory that the first step had to
make.

It does not matter what the file held before, or whether there was one.
-/

namespace Codebook

/-- What is there after a text was written to a path, and nothing else has changed. -/
structure Written (path text : String) (before after : Files) : Prop where
  /-- The working directory is the same. -/
  here : after.here = before.here
  /-- The file at the path holds the text. -/
  holds : Holds after path text
  /-- Every directory that the path goes through is there. -/
  ancestors : ∀ way, way <+: (Path.ofText path).names.dropLast →
    after.isDirectory (after.startOf (Path.ofText path)) way = true
  /-- Another place is as it was before. If it was not there before, it may be a directory now that a
  first part of the path leads to. -/
  others : ∀ place, after.destination path ≠ .ok (.name place) →
    after.tree.at? place = before.tree.at? place ∨
      before.tree.at? place = none ∧ after.tree.at? place = some .directory ∧
        ∃ way, way ≠ [] ∧ way <+: (Path.ofText path).plainNames.dropLast ∧
          after.tree.follow (after.startOf (Path.ofText path)) way = .ok place

/-- A path leads somewhere exactly if it is a path and its names do. -/
theorem Files.destination_eq_ok_iff {files : Files} {path : String} {destination : Destination} :
    files.destination path = .ok destination ↔ checkPath path = .ok () ∧
      files.tree.destination (files.startOf (Path.ofText path)) (Path.ofText path).names =
        .ok destination := by
  rw [Files.destination]
  cases checkPath path with
  | error fault => simp [bind, Except.bind]
  | ok => simp [bind, Except.bind]

section Writable

variable {files : Files} {path : String} {place : List String}

/-- A path that can be written does not lead to the root. -/
theorem Writable.notRoot (writable : Writable files path place) : place ≠ [] := by
  rintro rfl
  exact writable.notDirectory rfl

/-- Where a text is put at a path that can be written, the directories stay. -/
theorem Writable.keepsDirectories (writable : Writable files path place) (node : Node) :
    files.tree.KeepsDirectories (files.put place node).tree :=
  files.tree.keepsDirectories_put writable.notRoot writable.notDirectory node

/-- What stands in the files when something is put at a path that can be written. -/
theorem Writable.at?_put (writable : Writable files path place) (node : Node)
    (other : List String) :
    (files.put place node).tree.at? other =
      if other = place then some node else files.tree.at? other :=
  files.tree.at?_put writable.notRoot node other

/-- A path that was written leads where it led. -/
theorem Writable.led_put (writable : Writable files path place) (node : Node) :
    (files.put place node).destination path = .ok (.name place) := by
  obtain ⟨fine, led⟩ := Files.destination_eq_ok_iff.mp writable.led
  exact Files.destination_eq_ok_iff.mpr
    ⟨fine, (writable.keepsDirectories node).destination led⟩

/-- A path that was written holds what was written. -/
theorem Writable.holds (writable : Writable files path place) (text : String) :
    Holds (files.put place (.file text.toUTF8)) path text where
  stands := ⟨place, writable.led_put _, by rw [writable.at?_put, if_pos rfl]⟩
  noSlash := writable.noSlash

/-- The way to a path that can be written goes through directories. -/
theorem Writable.ancestors (writable : Writable files path place) {way : List String}
    (within : way <+: (Path.ofText path).names.dropLast) :
    ∃ there, files.tree.follow (files.startOf (Path.ofText path)) way = .ok there := by
  obtain ⟨-, led⟩ := Files.destination_eq_ok_iff.mp writable.led
  obtain ⟨above, last, there, same, reached, -⟩ := Tree.destination_eq_name led
  rw [same, List.dropLast_concat] at within
  exact Tree.follow_of_prefix reached within

end Writable

/-- A text that is put at a path behind the directories above it is written there. The directories
that were made for it are kept, and so every way that led to one of them still does. -/
theorem Grown.written {path text : String} {place : List String} {before between : Files}
    (grown : Grown (before.startOf (Path.ofText path)) (Path.ofText path).plainNames.dropLast
      before between)
    (writable : Writable between path place) :
    Written path text before (between.put place (.file text.toUTF8)) := by
  have keeps := writable.keepsDirectories (.file text.toUTF8)
  have sameStart : (between.put place (.file text.toUTF8)).startOf (Path.ofText path) =
      before.startOf (Path.ofText path) := by
    simp only [Files.startOf, Files.put, grown.here]
  refine ⟨grown.here, writable.holds text, fun way within => ?_, fun other elsewhere => ?_⟩
  · obtain ⟨there, reached⟩ := writable.ancestors within
    have still := keeps.follow reached
    rw [Files.isDirectory]
    exact congrArg Except.toBool still
  · have notHere : other ≠ place := by
      rintro rfl
      exact elsewhere (writable.led_put _)
    rw [sameStart, writable.at?_put, if_neg notHere]
    cases stood : before.tree.at? other with
    | some node => exact .inl (grown.keeps other node stood)
    | none =>
      cases stands : between.tree.at? other with
      | none => exact .inl rfl
      | some node =>
        obtain ⟨rfl, way, notEmpty, within, reached⟩ := grown.made other node stood stands
        exact .inr ⟨rfl, rfl, way, notEmpty, within, keeps.follow reached⟩

end Codebook
