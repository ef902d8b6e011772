import Codebook.Proofs.Definition.Boundary
import Codebook.Proofs.Definition.Malformed
import Codebook.Proofs.Text.Position

/-!
# Where a text is rejected

The scan fails at the first place where no piece stands. That place does not depend on anything but
the text: it is where the one complete text ends that has a stuck text behind it. What is reported is
the character there, with the line and the column of the place.

Nothing that an entry has in front of its fault is reported, and nothing behind it: a malformed entry
is reported at its first digit, a block comment without an end at its slash.
-/

namespace Codebook.Grammar

open Text

/-- A cut of a text into a text that is accepted and does not end inside a line comment, and a text
that is stuck. -/
structure StrayAt (text before rest : List Char) : Prop where
  split : text = before ++ rest
  accepted : ∃ definitions, scan (String.ofList before) = .ok definitions
  notInComment : ¬ EndsInComment before
  stuck : Stuck rest

/-- A stray character is the first of `rest`, and it has the place of a character behind `before`:
the line is one more than the line feeds in `before`, the column one more than the characters on its
last line. -/
structure Localises (stray : Stray) (before rest : List Char) : Prop where
  character : rest.head? = some stray.character
  codePoint : stray.codePoint = stray.character.toNat
  line : stray.position.line = 1 + before.count '\n'
  column : stray.position.column = 1 + (lastLine before).length

/-- The place of what a text is left with is behind what stands before it. -/
theorem atStartOf_append (before rest : List Char) :
    Stray.atStartOf (before ++ rest) rest = ⟨rest.headD '\x00', Position.after before⟩ := by
  have passed : (before ++ rest).take ((before ++ rest).length - rest.length) = before := by simp
  rw [Stray.atStartOf, passed]

/-- The stray character that is reported where a text is left with `rest`. -/
theorem localises_atStartOf {before rest : List Char} (notEmpty : rest ≠ []) :
    Localises (Stray.atStartOf (before ++ rest) rest) before rest := by
  obtain ⟨c, tail, rfl⟩ := List.exists_cons_of_ne_nil notEmpty
  rw [atStartOf_append, Position.after_eq]
  exact ⟨rfl, rfl, rfl, rfl⟩

/-- A stray character is determined by the cut that it is reported at. -/
theorem Localises.unique {stray other : Stray} {before rest : List Char}
    (here : Localises stray before rest) (there : Localises other before rest) :
    stray = other := by
  obtain ⟨c, ⟨line, column⟩⟩ := stray
  obtain ⟨d, ⟨otherLine, otherColumn⟩⟩ := other
  obtain rfl : c = d := Option.some.inj (here.character.symm.trans there.character)
  obtain rfl : line = otherLine := here.line.trans there.line.symm
  obtain rfl : column = otherColumn := here.column.trans there.column.symm
  rfl

/-- A text whose scan is left with `rest` is rejected at the start of `rest`. -/
theorem scan_error_of_rest {text : String} {before rest : List Char}
    (split : text.toList = before ++ rest) (left : scanFrom text.toList = .error rest) :
    scan text = .error (Stray.atStartOf (before ++ rest) rest) := by
  rw [scan, left, split]
  rfl

/-- The scan of a text with such a cut is left with the stuck text. -/
theorem StrayAt.scanFrom {text before rest : List Char} (cut : StrayAt text before rest) :
    Codebook.scanFrom text = .error rest := by
  obtain ⟨definitions, accepted⟩ := cut.accepted
  rw [scan_eq_ok_iff, String.toList_ofList] at accepted
  obtain ⟨pieces, rfl, complete⟩ := accepted_complete_iff.mp ⟨⟨_, accepted⟩, cut.notInComment⟩
  rw [cut.split, complete.scanFrom, scanFrom_stuck cut.stuck]
  rfl

/-- Two such cuts of a text are the same. -/
theorem StrayAt.unique {text before rest other otherRest : List Char}
    (cut : StrayAt text before rest) (again : StrayAt text other otherRest) :
    other = before ∧ otherRest = rest := by
  have sameRest : otherRest = rest := by
    have same := again.scanFrom.symm.trans cut.scanFrom
    exact Except.error.inj same
  subst sameRest
  exact ⟨List.append_cancel_right (again.split.symm.trans cut.split), rfl⟩

/-- A text that is not accepted has such a cut. -/
theorem exists_strayAt {text : String} (rejected : ∀ definitions, scan text ≠ .ok definitions) :
    ∃ before rest, StrayAt text.toList before rest := by
  obtain ⟨pieces, rest, split, laid, rfl | stuck⟩ := exists_pieces text.toList
  · rw [List.append_nil] at split
    have accepted := scanFrom_accepts laid
    rw [← split] at accepted
    exact absurd (scan_eq_ok_iff.mpr accepted) (rejected _)
  · obtain ⟨⟨definitions, accepted⟩, notInComment⟩ :=
      accepted_complete_iff.mpr ⟨pieces, rfl, laid.complete stuck⟩
    refine ⟨textOf pieces, rest, split, ⟨definitions, ?_⟩, notInComment, stuck⟩
    rw [scan_eq_ok_iff, String.toList_ofList]
    exact accepted

/-- A text with such a cut is rejected with the first character of the stuck text, at its place. -/
theorem StrayAt.reported {text : String} {before rest : List Char}
    (cut : StrayAt text.toList before rest) :
    ∃ stray, scan text = .error stray ∧ Localises stray before rest :=
  ⟨_, scan_error_of_rest cut.split cut.scanFrom, localises_atStartOf cut.stuck.notEmpty⟩

/-- A stuck text alone is rejected with its first character, at the start. -/
theorem Stuck.reported {rest : List Char} (stuck : Stuck rest) {c : Char}
    (first : rest.head? = some c) : scan (String.ofList rest) = .error ⟨c, ⟨1, 1⟩⟩ := by
  have left : scanFrom (String.ofList rest).toList = .error rest := by
    rw [String.toList_ofList, scanFrom_stuck stuck]
  have split : (String.ofList rest).toList = [] ++ rest := String.toList_ofList
  have here : Localises (Stray.atStartOf ([] ++ rest) rest) [] rest :=
    localises_atStartOf stuck.notEmpty
  have there : Localises ⟨c, ⟨1, 1⟩⟩ [] rest := ⟨first, rfl, rfl, rfl⟩
  rw [scan_error_of_rest split left, here.unique there]

/-- A text that is not accepted has exactly one cut into an accepted text, which does not end inside
a line comment, and a stuck text. It is rejected with the first character of the stuck text at the
place behind the accepted one, and the stuck text alone is rejected with the same character at its
start. Where the stuck text is a malformed entry that character is the first digit of its code, and
where it is a block comment without an end it is the slash. -/
theorem rejection_is_localised (text : String) :
    ((∀ definitions, scan text ≠ .ok definitions) →
      ∃ before rest stray, StrayAt text.toList before rest ∧
        (∀ other otherRest, StrayAt text.toList other otherRest →
          other = before ∧ otherRest = rest) ∧
        scan text = .error stray ∧ Localises stray before rest ∧
        scan (String.ofList rest) = .error ⟨stray.character, ⟨1, 1⟩⟩) ∧
    (∀ before rest, text.toList = before ++ rest →
      (∃ definitions, scan (String.ofList before) = .ok definitions) → ¬ EndsInComment before →
      (Malformed rest →
        ∃ stray, scan text = .error stray ∧ Localises stray before rest ∧
          isDecimalDigit stray.character = true) ∧
      (∀ body, rest = '/' :: '*' :: body → ¬ ['*', '/'] <:+: body →
        ∃ stray, scan text = .error stray ∧ Localises stray before rest ∧
          stray.character = '/')) := by
  refine ⟨fun rejected => ?_, fun before rest split accepted notInComment => ⟨?_, ?_⟩⟩
  · obtain ⟨before, rest, cut⟩ := exists_strayAt rejected
    obtain ⟨stray, reported, localised⟩ := cut.reported
    exact ⟨before, rest, stray, cut, fun other otherRest again => cut.unique again, reported,
      localised, cut.stuck.reported localised.character⟩
  · intro malformed
    obtain ⟨stuck, d, first, isDigit⟩ := malformed.stuck
    have cut : StrayAt text.toList before rest := ⟨split, accepted, notInComment, stuck⟩
    obtain ⟨stray, reported, localised⟩ := cut.reported
    have same : d = stray.character := Option.some.inj (first.symm.trans localised.character)
    exact ⟨stray, reported, localised, same ▸ isDigit⟩
  · rintro body rfl notClosed
    have cut : StrayAt text.toList before ('/' :: '*' :: body) :=
      ⟨split, accepted, notInComment, stuck_of_open_comment notClosed⟩
    obtain ⟨stray, reported, localised⟩ := cut.reported
    exact ⟨stray, reported, localised, (Option.some.inj localised.character).symm⟩

/-- Behind an entry and a comment, two underscores in a code are reported at its first digit, on the
second line of the text and behind the blank there. -/
theorem doubled_underscore_is_localised :
    (∀ definitions, scan "1 A = \"a\"; // x\n 2__0 B = \"b\";" ≠ .ok definitions) ∧
    (∃ before rest stray, StrayAt "1 A = \"a\"; // x\n 2__0 B = \"b\";".toList before rest ∧
      scan "1 A = \"a\"; // x\n 2__0 B = \"b\";" = .error stray ∧ Localises stray before rest) ∧
    ∃ stray, scan "1 A = \"a\"; // x\n 2__0 B = \"b\";" = .error stray ∧
      Localises stray "1 A = \"a\"; // x\n ".toList "2__0 B = \"b\";".toList ∧
      isDecimalDigit stray.character = true := by
  have left : scan "1 A = \"a\"; // x\n 2__0 B = \"b\";" = .error ⟨'2', ⟨2, 2⟩⟩ := by decide +kernel
  have rejected : ∀ definitions, scan "1 A = \"a\"; // x\n 2__0 B = \"b\";" ≠ .ok definitions := by
    intro definitions accepted
    rw [left] at accepted
    cases accepted
  have accepted : scan (String.ofList "1 A = \"a\"; // x\n ".toList) = .ok [⟨"1", "A"⟩] := by decide +kernel
  have notInComment : ¬ EndsInComment "1 A = \"a\"; // x\n ".toList := by
    intro ends
    obtain ⟨definitions, more⟩ := ends.accepts_more (show '#' ≠ '\n' by decide)
    have stuck : scanFrom ("1 A = \"a\"; // x\n ".toList ++ ['#']) = .error ['#'] := by decide +kernel
    rw [stuck] at more
    cases more
  have digit : isDecimalDigit '2' = true := by decide
  have malformed : Malformed "2__0 B = \"b\";".toList :=
    .doubledUnderscore ['2'] "0 B = \"b\";".toList
      ⟨[['2']], by decide, by simp [digit], by decide⟩
  obtain ⟨atCut, atFault⟩ := rejection_is_localised "1 A = \"a\"; // x\n 2__0 B = \"b\";"
  obtain ⟨before, rest, stray, cut, -, reported, localised, -⟩ := atCut rejected
  exact ⟨rejected, ⟨before, rest, stray, cut, reported, localised⟩,
    (atFault _ _ (by decide) ⟨_, accepted⟩ notInComment).1 malformed⟩

end Codebook.Grammar
