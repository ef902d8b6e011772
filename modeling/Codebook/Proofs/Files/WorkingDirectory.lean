import Codebook.Proofs.Files.Rewriting

/-!
# Names in the working directory

The text of the working directory starts at the root. A name that is put behind it with a slash is the
name of something in this directory, so where it leads is known as soon as the directory is there: no
directory that is made later can lead it somewhere else.

A tree need not have its working directory in it, but every run does: what it works on is laid out along
the text of this directory.
-/

namespace Codebook

/-! ## Texts of paths -/

/-- A text has at least one part. -/
theorem slashParts_ne_nil (text : List Char) : slashParts text ≠ [] := by
  cases text with
  | nil => simp [slashParts]
  | cons c rest =>
    rw [slashParts]
    split
    · simp
    · split
      · simp
      · simp

/-- The parts around a slash are those in front of it and those behind it. -/
theorem slashParts_append (text rest : List Char) :
    slashParts (text ++ '/' :: rest) = slashParts text ++ slashParts rest := by
  induction text with
  | nil => rfl
  | cons c text ih =>
    rw [List.cons_append, slashParts, slashParts, ih]
    by_cases slash : c = '/'
    · rw [if_pos slash, if_pos slash]
      rfl
    · rw [if_neg slash, if_neg slash]
      cases parts : slashParts text with
      | nil => exact absurd parts (slashParts_ne_nil text)
      | cons part parts => rfl

/-- The names of a text around a slash are those in front of it and those behind it. -/
theorem names_ofList_append (text rest : List Char) :
    (Path.ofText (String.ofList (text ++ '/' :: rest))).names =
      (Path.ofText (String.ofList text)).names ++ (Path.ofText (String.ofList rest)).names := by
  simp only [Path.ofText, String.toList_ofList, slashParts_append, List.filter_append,
    List.map_append]

/-- The names of a path put behind a directory are those of the directory and its own. -/
theorem names_joinPath {directory name : String} (relative : name.toList.head? ≠ some '/') :
    (Path.ofText (joinPath directory name)).names =
      (Path.ofText directory).names ++ (Path.ofText name).names := by
  rw [joinPath]
  split
  · next alone =>
    have empty : directory = "" := String.isEmpty_iff.mp (alone.resolve_left relative)
    rw [empty]
    rfl
  · split
    · next slash =>
      obtain ⟨init, ends⟩ := List.getLast?_eq_some_iff.mp slash
      have whole : directory = String.ofList (init ++ ['/']) := by
        rw [← ends, String.ofList_toList]
      have joined : directory ++ name = String.ofList (init ++ '/' :: name.toList) := by
        apply String.toList_inj.mp
        simp [ends]
      rw [joined, whole, names_ofList_append, names_ofList_append, String.ofList_toList,
        List.append_assoc]
      rfl
    · have joined : directory ++ "/" ++ name =
          String.ofList (directory.toList ++ '/' :: name.toList) := by
        apply String.toList_inj.mp
        simp
      rw [joined, names_ofList_append, String.ofList_toList, String.ofList_toList]

/-- A path put behind a directory that is given from the root is given from the root. -/
theorem absolute_joinPath {directory name : String} (absolute : directory.toList.head? = some '/') :
    (Path.ofText (joinPath directory name)).absolute = true := by
  have starts : (joinPath directory name).toList.head? = some '/' := by
    rw [joinPath]
    split
    · next alone =>
      rcases alone with slash | empty
      · exact slash
      · rw [String.isEmpty_iff.mp empty] at absolute
        cases absolute
    · split
      · rw [String.toList_append, List.head?_append, absolute]
        rfl
      · rw [String.toList_append, String.toList_append, List.append_assoc, List.head?_append,
          absolute]
        rfl
  rw [Path.ofText, starts]
  rfl

/-! ## The working directory -/

/-- The working directory is there: its text leads to a directory. -/
def Files.HereStands (files : Files) : Prop :=
  files.isDirectory [] (Path.ofText files.hereText).names = true

/-- The text of the working directory is given from the root. -/
theorem hereText_starts (files : Files) : files.hereText.toList.head? = some '/' := by
  rw [Files.hereText, String.toList_append, List.head?_append]
  rfl

/-- A name that stands for something in a directory, whatever the directory. -/
structure PlainName (name : String) : Prop where
  single : (Path.ofText name).names = [name]
  relative : name.toList.head? ≠ some '/'
  noPoints : name ≠ "." ∧ name ≠ ".."
  short : name.utf8ByteSize ≤ nameLimit

/-- Where a name in the working directory leads is the same as before. -/
theorem Replaced.destination_joinPath {place : List String} {before after : Files} {name : String}
    (replaced : Replaced place before after) (stands : before.HereStands) (plain : PlainName name) :
    after.destination (joinPath before.hereText name) =
      before.destination (joinPath before.hereText name) := by
  obtain ⟨there, reached⟩ := isDirectory_iff.mp stands
  have absolute : (Path.ofText (joinPath before.hereText name)).absolute = true :=
    absolute_joinPath (hereText_starts before)
  have names : (Path.ofText (joinPath before.hereText name)).names =
      (Path.ofText before.hereText).names ++ [name] := by
    rw [names_joinPath plain.relative, plain.single]
  have led := Tree.destination_concat reached plain.noPoints plain.short
  have still := replaced.keeps.destination led
  simp only [Files.destination, Files.startOf, absolute, if_true, names, led, still]

end Codebook
