import Codebook.Files
import Mathlib.Data.List.Basic

/-!
# Making directories adds directories and nothing else

Putting something into a tree changes one place. A way that leads to a directory still does in a tree
that has kept what the first one held. From these two facts it follows what is left behind by making
the directories of a path, whether it comes to its end or stops at a fault: nothing that was there is
gone or different, and what is new are directories that a first part of the path leads to.

The trees here are any trees. It is not asked of them that a file has its directories above it.
-/

namespace Codebook

/-! ## Places -/

/-- The node that is looked up where one was put is that one; elsewhere nothing has changed. -/
theorem lookup_putNode (place other : List String) (node : Node)
    (nodes : List (List String × Node)) :
    (putNode place node nodes).lookup other =
      if other = place then some node else nodes.lookup other := by
  induction nodes with
  | nil =>
    by_cases same : other = place
    · simp [putNode, same]
    · simp [putNode, same, List.lookup_cons, beq_false_of_ne same]
  | cons held nodes ih =>
    obtain ⟨key, value⟩ := held
    by_cases here : place = key
    · subst here
      by_cases same : other = place
      · simp [putNode, same]
      · simp [putNode, same, List.lookup_cons, beq_false_of_ne same]
    · by_cases found : other = key
      · subst found
        simp [putNode, here, Ne.symm here]
      · simp [putNode, here, List.lookup_cons, beq_false_of_ne found, ih]

/-- What stands in a tree with something put into it. -/
theorem Tree.at?_put (tree : Tree) {place : List String} (notRoot : place ≠ [])
    (node : Node) (other : List String) :
    (tree.put place node).at? other = if other = place then some node else tree.at? other := by
  cases other with
  | nil => simp [Tree.at?, notRoot.symm]
  | cons name names =>
    simp only [Tree.at?, Tree.put, List.isEmpty_cons, Bool.false_eq_true, if_false]
    exact lookup_putNode place (name :: names) node tree.nodes

/-- A tree keeps all that another one holds. -/
def Tree.Keeps (before after : Tree) : Prop :=
  ∀ place node, before.at? place = some node → after.at? place = some node

/-- A way is followed name by name. -/
theorem Tree.follow_append (tree : Tree) (first second : List String) :
    ∀ here : List String, tree.follow here (first ++ second) =
      (tree.follow here first).bind fun there => tree.follow there second := by
  induction first with
  | nil => exact fun here => rfl
  | cons name first ih =>
    intro here
    simp only [List.cons_append, Tree.follow]
    split
    · exact ih here
    · split
      · exact ih here.dropLast
      · split
        · rfl
        · split
          · rfl
          · rfl
          · exact ih _

/-- A tree keeps the directories that another one holds. Its files may be others. -/
def Tree.KeepsDirectories (before after : Tree) : Prop :=
  ∀ place, before.at? place = some .directory → after.at? place = some .directory

/-- A tree that keeps everything keeps the directories. -/
theorem Tree.Keeps.directories {before after : Tree} (keeps : before.Keeps after) :
    before.KeepsDirectories after :=
  fun place => keeps place .directory

/-- Putting something where no directory stands keeps the directories. -/
theorem Tree.keepsDirectories_put (tree : Tree) {place : List String} (notRoot : place ≠ [])
    (notDirectory : tree.at? place ≠ some .directory) (node : Node) :
    tree.KeepsDirectories (tree.put place node) := by
  intro other stands
  have elsewhere : other ≠ place := fun same => notDirectory (same ▸ stands)
  rw [tree.at?_put notRoot, if_neg elsewhere]
  exact stands

/-- One name that leads to a directory leads there too in a tree that keeps the directories. -/
theorem Tree.KeepsDirectories.enter {before after : Tree} (keeps : before.KeepsDirectories after)
    {here place : List String} {name : String} (reached : before.follow here [name] = .ok place) :
    after.follow here [name] = .ok place := by
  by_cases stay : name = "."
  · simpa only [Tree.follow, stay, if_true] using reached
  · by_cases up : name = ".."
    · simpa only [Tree.follow, up, if_true] using reached
    · simp only [Tree.follow, stay, up, if_false] at reached ⊢
      split at reached
      · cases reached
      · next short =>
        split at reached
        · cases reached
        · cases reached
        · next stands => simpa only [short, if_false, keeps _ stands] using reached

/-- A way that leads to a directory leads there too in a tree that keeps the directories. -/
theorem Tree.KeepsDirectories.follow {before after : Tree} (keeps : before.KeepsDirectories after)
    {here names place : List String} (reached : before.follow here names = .ok place) :
    after.follow here names = .ok place := by
  induction names generalizing here with
  | nil => exact reached
  | cons name names ih =>
    rw [← List.singleton_append, Tree.follow_append] at reached ⊢
    cases first : before.follow here [name] with
    | error fault =>
      rw [first] at reached
      cases reached
    | ok there =>
      rw [first] at reached
      rw [keeps.enter first]
      exact ih reached

/-- The first part of a way that leads to a directory leads to one. -/
theorem Tree.follow_of_prefix {tree : Tree} {here way names place : List String}
    (reached : tree.follow here names = .ok place) (isPrefix : way <+: names) :
    ∃ there, tree.follow here way = .ok there := by
  obtain ⟨behind, rfl⟩ := isPrefix
  rw [Tree.follow_append] at reached
  cases first : tree.follow here way with
  | error fault =>
    rw [first] at reached
    cases reached
  | ok there => exact ⟨there, rfl⟩

/-! ## New directories -/

/-- The files after making directories along some names: the working directory is the same, all that
was there is there, and what is new is a directory that a first part of the names leads to. -/
structure Grown (start names : List String) (before after : Files) : Prop where
  here : after.here = before.here
  keeps : before.tree.Keeps after.tree
  made : ∀ place node, before.tree.at? place = none → after.tree.at? place = some node →
    node = .directory ∧
      ∃ way, way ≠ [] ∧ way <+: names ∧ after.tree.follow start way = .ok place

/-- Files that are left as they are have not grown. -/
theorem Grown.refl (start names : List String) (files : Files) : Grown start names files files where
  here := rfl
  keeps := fun place node stands => stands
  made := fun place node absent stands => by
    rw [absent] at stands
    cases stands

/-- Growing along a first part of some names and then along all of them is growing along them. -/
theorem Grown.trans {start first names : List String} {before middle after : Files}
    (early : Grown start first before middle) (isPrefix : first <+: names)
    (late : Grown start names middle after) : Grown start names before after where
  here := late.here.trans early.here
  keeps := fun place node stands => late.keeps place node (early.keeps place node stands)
  made := by
    intro place node absent stands
    cases between : middle.tree.at? place with
    | none => exact late.made place node between stands
    | some held =>
      obtain ⟨isDirectory, way, notEmpty, within, reached⟩ := early.made place held absent between
      have same : held = node := Option.some.inj ((late.keeps place held between).symm.trans stands)
      exact ⟨same ▸ isDirectory, way, notEmpty, within.trans isPrefix, late.keeps.directories.follow reached⟩

/-- Files that have grown have the same files in them, with the same content. -/
theorem Grown.file_iff {start names : List String} {before after : Files}
    (grown : Grown start names before after) (place : List String) (content : ByteArray) :
    after.tree.at? place = some (.file content) ↔ before.tree.at? place = some (.file content) := by
  constructor
  · intro stands
    cases stood : before.tree.at? place with
    | none =>
      obtain ⟨isDirectory, -⟩ := grown.made place _ stood stands
      cases isDirectory
    | some node => exact (grown.keeps place node stood).symm.trans stands
  · exact grown.keeps place _

/-- Names that lead to a name lead to the last of them, in the directory that the others lead to. -/
theorem Tree.destination_eq_name {tree : Tree} {start names place : List String}
    (led : tree.destination start names = .ok (.name place)) :
    ∃ above last there, names = above ++ [last] ∧ tree.follow start above = .ok there ∧
      (last ≠ "." ∧ last ≠ "..") ∧ last.utf8ByteSize ≤ nameLimit ∧ place = there ++ [last] := by
  rcases List.eq_nil_or_concat' names with rfl | ⟨above, last, rfl⟩
  · cases led
  · simp only [Tree.destination, List.getLast?_concat, List.dropLast_concat] at led
    cases reached : tree.follow start above with
    | error fault =>
      rw [reached] at led
      cases led
    | ok there =>
      simp only [reached, bind, Except.bind] at led
      split at led
      · cases led
      · next plain =>
        split at led
        · cases led
        · next short =>
          cases led
          exact ⟨above, last, there, rfl, reached, not_or.mp plain, Nat.le_of_not_lt short, rfl⟩

/-- Names lead to the last of them, in the directory that the others lead to. -/
theorem Tree.destination_concat {tree : Tree} {start above there : List String} {last : String}
    (reached : tree.follow start above = .ok there) (plain : last ≠ "." ∧ last ≠ "..")
    (short : last.utf8ByteSize ≤ nameLimit) :
    tree.destination start (above ++ [last]) = .ok (.name (there ++ [last])) := by
  simp only [Tree.destination, List.getLast?_concat, List.dropLast_concat, reached, bind,
    Except.bind, plain.1, plain.2, or_self, if_false, Nat.not_lt.mpr short]
  rfl

/-- Names that lead to a name lead to the same name in a tree that keeps the directories. -/
theorem Tree.KeepsDirectories.destination {before after : Tree}
    (keeps : before.KeepsDirectories after) {start names place : List String}
    (led : before.destination start names = .ok (.name place)) :
    after.destination start names = .ok (.name place) := by
  obtain ⟨above, last, there, rfl, reached, plain, short, rfl⟩ := Tree.destination_eq_name led
  exact Tree.destination_concat (keeps.follow reached) plain short

/-- Following one more name that is a directory's. -/
theorem Tree.follow_concat {tree : Tree} {start above there : List String} {last : String}
    (reached : tree.follow start above = .ok there) (plain : last ≠ "." ∧ last ≠ "..")
    (short : last.utf8ByteSize ≤ nameLimit)
    (stands : tree.at? (there ++ [last]) = some .directory) :
    tree.follow start (above ++ [last]) = .ok (there ++ [last]) := by
  rw [Tree.follow_append, reached]
  simp only [Except.bind, Tree.follow, plain.1, plain.2, Nat.not_lt.mpr short, if_false, stands]
  rfl

/-- A directory is made where names lead to and nothing stands yet. -/
theorem makeDirectory_eq_ok {files made : Files} {start names : List String}
    (done : files.makeDirectory start names = .ok made) :
    ∃ place, files.tree.destination start names = .ok (.name place) ∧
      files.tree.at? place = none ∧ made = files.put place .directory := by
  rw [Files.makeDirectory] at done
  cases led : files.tree.destination start names with
  | error fault =>
    rw [led] at done
    cases done
  | ok destination =>
    simp only [led, bind, Except.bind] at done
    split at done
    · cases done
    · next place =>
      split at done
      · cases done
      · next absent =>
        cases done
        exact ⟨place, rfl, absent, rfl⟩

/-- A directory that is made is new, and the names lead to it. -/
theorem grown_makeDirectory {files made : Files} {start names : List String}
    (done : files.makeDirectory start names = .ok made) : Grown start names files made := by
  obtain ⟨place, led, absent, rfl⟩ := makeDirectory_eq_ok done
  obtain ⟨above, last, there, rfl, reached, plain, short, rfl⟩ := Tree.destination_eq_name led
  have changed := files.tree.at?_put (List.append_ne_nil_of_right_ne_nil there
    (List.cons_ne_nil last [])) .directory
  have keeps : files.tree.Keeps (files.put (there ++ [last]) .directory).tree := by
    intro place node stands
    rw [Files.put, changed, if_neg]
    · exact stands
    · rintro rfl
      rw [absent] at stands
      cases stands
  refine ⟨rfl, keeps, fun place node missing stands => ?_⟩
  rw [Files.put, changed] at stands
  split at stands
  · next same =>
    cases stands
    refine ⟨rfl, above ++ [last], by simp, List.prefix_refl _, ?_⟩
    rw [same]
    exact Tree.follow_concat (keeps.directories.follow reached) plain short
      (by rw [Files.put, changed, if_pos rfl])
  · rw [missing] at stands
    cases stands

/-- Making the directories that names lead to, given from the last to the first, grows the files along
these names, also when it stops at a fault. -/
theorem grown_makeDirectories (start backwards : List String) (files : Files) :
    Grown start backwards.reverse files (files.makeDirectories start backwards).1 := by
  induction backwards generalizing files with
  | nil => exact Grown.refl _ _ _
  | cons last above ih =>
    have within : above.reverse <+: (last :: above).reverse := by
      rw [List.reverse_cons]
      exact List.prefix_append _ _
    rw [Files.makeDirectories]
    split
    · next made done => exact grown_makeDirectory done
    · -- The directories above are made first. They stay, whatever becomes of the last one.
      have early := ih files
      split
      · next grown fault stopped =>
        rw [stopped] at early
        exact early.trans within (Grown.refl _ _ _)
      · next grown finished =>
        rw [finished] at early
        split
        · next made done => exact early.trans within (grown_makeDirectory done)
        · exact early.trans within (Grown.refl _ _ _)
    · exact Grown.refl _ _ _

/-- Making the directories that a path is in grows the files along the names of the path but its last,
also when it stops at a fault. -/
theorem grown_makeParents (files : Files) (text : String) :
    Grown (files.startOf (Path.ofText text)) (Path.ofText text).plainNames.dropLast files
      (files.makeParents text).1 := by
  rw [Files.makeParents]
  split
  · exact Grown.refl _ _ _
  · split
    · exact Grown.refl _ _ _
    · have grown := grown_makeDirectories (files.startOf (Path.ofText text))
        (Path.ofText text).plainNames.dropLast.reverse files
      rwa [List.reverse_reverse] at grown

/-- Files that are left by making the directories that a path is in have grown along its names. -/
theorem grown_of_makeParents {files left : Files} {text : String} {result : Except FileFault Unit}
    (made : files.makeParents text = (left, result)) :
    Grown (files.startOf (Path.ofText text)) (Path.ofText text).plainNames.dropLast files left := by
  have grown := grown_makeParents files text
  rwa [made] at grown

end Codebook
