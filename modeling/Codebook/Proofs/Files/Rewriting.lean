import Codebook.Proofs.Files.Writing

/-!
# Writing a text that is there already

A path that was written can be written again. The directories above it are there now, so none has to
be made, and putting the same text at the same place leaves the tree as it is, node by node.

A path that leads to another place than the written one leads to the same file as before. It has to be
told after the writing where it leads: as long as `new` is not there, `new/../page` leads nowhere, and
with the directory it leads to `page`.
-/

namespace Codebook

/-! ## The tree -/

/-- Nodes do not change if what is put at a place is what is looked up there. -/
theorem putNode_of_lookup {place : List String} {node : Node} {nodes : List (List String × Node)}
    (found : nodes.lookup place = some node) : putNode place node nodes = nodes := by
  induction nodes with
  | nil => cases found
  | cons entry nodes ih =>
    obtain ⟨key, held⟩ := entry
    by_cases here : place = key
    · subst here
      rw [List.lookup_cons_self] at found
      rw [putNode, if_pos rfl, Option.some.inj found]
    · rw [List.lookup_cons, beq_false_of_ne here] at found
      rw [putNode, if_neg here, ih found]

/-- Putting what stands at a place there again changes nothing. -/
theorem Files.put_of_at? {files : Files} {place : List String} {node : Node} (notRoot : place ≠ [])
    (stands : files.tree.at? place = some node) : files.put place node = files := by
  have found : files.tree.nodes.lookup place = some node := by
    rwa [Tree.at?, if_neg (by rwa [List.isEmpty_iff])] at stands
  rw [Files.put, Tree.put, putNode_of_lookup found]

/-! ## Directories that are there -/

/-- Names lead to a directory if they can be followed. -/
theorem isDirectory_iff {files : Files} {start names : List String} :
    files.isDirectory start names = true ↔ ∃ place, files.tree.follow start names = .ok place := by
  rw [Files.isDirectory]
  cases files.tree.follow start names with
  | error fault => simp [Except.toBool]
  | ok place => simp [Except.toBool]

/-- A directory that was made is there. -/
theorem isDirectory_of_makeDirectory {files made : Files} {start names : List String}
    (done : files.makeDirectory start names = .ok made) : made.isDirectory start names = true := by
  have keeps := (grown_makeDirectory done).keeps.directories
  obtain ⟨place, led, absent, rfl⟩ := makeDirectory_eq_ok done
  obtain ⟨above, last, there, rfl, reached, plain, short, rfl⟩ := Tree.destination_eq_name led
  have stands : (files.put (there ++ [last]) .directory).tree.at? (there ++ [last]) =
      some .directory := by
    rw [Files.put, Tree.at?_put _ (by simp), if_pos rfl]
  exact isDirectory_iff.mpr ⟨_, Tree.follow_concat (keeps.follow reached) plain short stands⟩

/-- Directories that were made are there. -/
theorem isDirectory_of_makeDirectories {start backwards : List String} {files made : Files}
    (done : files.makeDirectories start backwards = (made, .ok ())) :
    made.isDirectory start backwards.reverse = true := by
  cases backwards with
  | nil => exact isDirectory_iff.mpr ⟨start, rfl⟩
  | cons last above =>
    rw [Files.makeDirectories] at done
    split at done
    · next single =>
      cases done
      exact isDirectory_of_makeDirectory single
    · split at done
      · cases done
      · split at done
        · next single =>
          cases done
          exact isDirectory_of_makeDirectory single
        · -- Something stood there, and it was asked whether it is a directory.
          split at done
          · next isDirectory =>
            cases done
            exact isDirectory
          · cases done
    · split at done
      · next isDirectory =>
        cases done
        exact isDirectory
      · cases done

/-- Names that can be followed end with a point or two, or with the name of a directory. -/
theorem Tree.follow_concat_eq_ok {tree : Tree} {start above place : List String} {last : String}
    (reached : tree.follow start (above ++ [last]) = .ok place) :
    ∃ there, tree.follow start above = .ok there ∧ ((last = "." ∨ last = "..") ∨
      (last ≠ "." ∧ last ≠ "..") ∧ last.utf8ByteSize ≤ nameLimit ∧
        tree.at? (there ++ [last]) = some .directory) := by
  obtain ⟨there, first⟩ := Tree.follow_of_prefix reached (List.prefix_append above [last])
  refine ⟨there, first, ?_⟩
  by_cases points : last = "." ∨ last = ".."
  · exact .inl points
  · have plain := not_or.mp points
    rw [Tree.follow_append, first] at reached
    simp only [Except.bind, Tree.follow, plain.1, plain.2, if_false] at reached
    split at reached
    · cases reached
    · next short =>
      split at reached
      · cases reached
      · cases reached
      · next stands => exact .inr ⟨plain, Nat.le_of_not_lt short, stands⟩

/-- A directory that is there is not made. -/
theorem makeDirectory_of_isDirectory {files : Files} {start above : List String} {last : String}
    (isDirectory : files.isDirectory start (above ++ [last]) = true) :
    files.makeDirectory start (above ++ [last]) = .error .alreadyExists := by
  obtain ⟨place, reached⟩ := isDirectory_iff.mp isDirectory
  rcases Tree.follow_concat_eq_ok reached with ⟨there, first, points | ⟨plain, short, stands⟩⟩
  · -- One point or two lead to a directory whatever stands in it.
    have led : files.tree.destination start (above ++ [last]) = .ok .directory := by
      simp only [Tree.destination, List.getLast?_concat, List.dropLast_concat, first, bind,
        Except.bind, if_pos points]
      rfl
    rw [Files.makeDirectory, led]
    rfl
  · have led := Tree.destination_concat first plain short
    simp only [Files.makeDirectory, led, bind, Except.bind, stands]
    rfl

/-- Directories that are there are not made. -/
theorem makeDirectories_of_isDirectory {files : Files} {start backwards : List String}
    (isDirectory : files.isDirectory start backwards.reverse = true) :
    files.makeDirectories start backwards = (files, .ok ()) := by
  cases backwards with
  | nil => rfl
  | cons last above =>
    have refused : files.makeDirectory start (last :: above).reverse = .error .alreadyExists := by
      rw [List.reverse_cons] at isDirectory ⊢
      exact makeDirectory_of_isDirectory isDirectory
    simp only [Files.makeDirectories, refused, isDirectory, if_true]

/-- Where the directories above a path were made and are kept, they are not made again. -/
theorem makeParents_again {path : String} {before between after : Files}
    (made : before.makeParents path = (between, .ok ())) (here : after.here = before.here)
    (keeps : between.tree.KeepsDirectories after.tree) :
    after.makeParents path = (after, .ok ()) := by
  have sameStart : after.startOf (Path.ofText path) = before.startOf (Path.ofText path) := by
    rw [Files.startOf, Files.startOf, here]
  rw [Files.makeParents] at made ⊢
  split at made
  · cases made
  · next noZero =>
    split at made
    · cases made
    · next short =>
      obtain ⟨place, reached⟩ := isDirectory_iff.mp (isDirectory_of_makeDirectories made)
      rw [if_neg noZero, if_neg short, sameStart]
      exact makeDirectories_of_isDirectory (isDirectory_iff.mpr ⟨place, keeps.follow reached⟩)

/-- A path that holds a text is left as it is when this text is written to it. -/
theorem Holds.write {files : Files} {path text : String} (holds : Holds files path text) :
    files.write path text = .ok files := by
  obtain ⟨⟨place, led, stands⟩, noSlash⟩ := holds
  have notDirectory : files.tree.at? place ≠ some .directory := by
    rw [stands]
    simp
  have writable : Writable files path place := ⟨led, noSlash, notDirectory⟩
  rw [writable.write, Files.put_of_at? writable.notRoot stands]

/-! ## Other paths -/

/-- The place of the name that a path leads to. -/
def Files.place? (files : Files) (path : String) : Option (List String) :=
  match files.destination path with
  | .ok (.name place) => some place
  | _ => none

/-- A path has the place of the name that it leads to. -/
theorem place?_of_led {files : Files} {path : String} {place : List String}
    (led : files.destination path = .ok (.name place)) : files.place? path = some place := by
  rw [Files.place?, led]

/-- The file at one place may be another one, and some directories may be new. The other files are
those that were there, and every directory is kept. -/
structure Replaced (place : List String) (before after : Files) : Prop where
  here : after.here = before.here
  keeps : before.tree.KeepsDirectories after.tree
  others : ∀ other content, other ≠ place → (after.tree.at? other = some (.file content) ↔
    before.tree.at? other = some (.file content))

/-- Making the directories above a path and putting something at its place replaces the file there. -/
theorem Grown.replaced {start names place : List String} {path : String} {before between : Files}
    (grown : Grown start names before between) (writable : Writable between path place)
    (content : ByteArray) : Replaced place before (between.put place (.file content)) where
  here := grown.here
  keeps := fun other stands =>
    writable.keepsDirectories (.file content) other (grown.keeps other .directory stands)
  others := by
    intro other held elsewhere
    rw [writable.at?_put, if_neg elsewhere]
    exact grown.file_iff other held

section Replaced

variable {place : List String} {before after : Files} {path : String}

/-- A path that led to a name leads to it as before. -/
theorem Replaced.led (replaced : Replaced place before after) {there : List String}
    (led : before.destination path = .ok (.name there)) :
    after.destination path = .ok (.name there) := by
  obtain ⟨fine, reached⟩ := Files.destination_eq_ok_iff.mp led
  have sameStart : after.startOf (Path.ofText path) = before.startOf (Path.ofText path) := by
    rw [Files.startOf, Files.startOf, replaced.here]
  exact Files.destination_eq_ok_iff.mpr
    ⟨fine, by rw [sameStart]; exact replaced.keeps.destination reached⟩

/-- A path that leads to another place holds the text that it held. -/
theorem Replaced.holds (replaced : Replaced place before after) {text : String}
    (holds : Holds before path text) (apart : after.place? path ≠ some place) :
    Holds after path text := by
  obtain ⟨⟨there, led, stands⟩, noSlash⟩ := holds
  have still := replaced.led led
  have elsewhere : there ≠ place := by
    rintro rfl
    exact apart (place?_of_led still)
  exact ⟨⟨there, still, (replaced.others there _ elsewhere).mpr stands⟩, noSlash⟩

/-- A path that leads to another place, and to where it led before, leads to a file exactly if it did. -/
theorem Replaced.regularFile_iff (replaced : Replaced place before after)
    (same : after.destination path = before.destination path)
    (apart : after.place? path ≠ some place) :
    RegularFile after path ↔ RegularFile before path := by
  have elsewhere {there : List String} (led : after.destination path = .ok (.name there)) :
      there ≠ place := by
    rintro rfl
    exact apart (place?_of_led led)
  constructor
  · rintro ⟨⟨there, content, led, stands⟩, noSlash⟩
    have stood := (replaced.others there content (elsewhere led)).mp stands
    exact ⟨⟨there, content, same.symm.trans led, stood⟩, noSlash⟩
  · rintro ⟨⟨there, content, led, stood⟩, noSlash⟩
    have still := same.trans led
    have stands := (replaced.others there content (elsewhere still)).mpr stood
    exact ⟨⟨there, content, still, stands⟩, noSlash⟩

end Replaced

end Codebook
