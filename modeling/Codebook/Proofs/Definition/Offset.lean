import Codebook.Proofs.Definition.Rejection
import Codebook.Proofs.Text.Lines

/-!
# What a stray character says about its offset

A text is cut at an offset, which counts bytes; what is reported is a character, a line and a column.
The line and the column lead to the character through the lines of the text, with the whole text before
the offset in front of it. A later offset has a later position, so no two offsets share one.
-/

namespace Codebook

open Text Grammar

/-- The stray character at an offset of a text. -/
def Stray.atOffset (text : String) (offset : text.Pos) : Stray :=
  Stray.atStartOf text.toList (text.sliceFrom offset).copy.toList

section

variable {text : String} {offset : text.Pos} {before rest : String}

/-- What is reported at an offset depends on the text before it and on the character there. -/
theorem Stray.atOffset_of_splits (splits : offset.Splits before rest) :
    Stray.atOffset text offset = ⟨rest.toList.headD '\x00', Position.after before.toList⟩ := by
  have cut : text.toList = before.toList ++ rest.toList := by
    rw [splits.eq_append, String.toList_append]
  rw [Stray.atOffset, splits.copy_sliceFrom_eq, cut, atStartOf_append]

/-- What a scan reports is the stray character at an offset where a character stands. -/
theorem Stray.of_scan {stray : Stray} (rejected : scan text = .error stray) :
    ∃ offset : text.Pos, offset ≠ text.endPos ∧ stray = Stray.atOffset text offset := by
  cases left : scanFrom text.toList with
  | ok definitions => simp [scan, left, Except.mapError] at rejected
  | error rest =>
    obtain ⟨pieces, cut, -, stuck⟩ := stuck_of_scanFrom left
    obtain ⟨c, tail, rfl⟩ := List.exists_cons_of_ne_nil stuck.notEmpty
    have joined : text = String.ofList (textOf pieces) ++ String.ofList (c :: tail) := by
      rw [← String.ofList_append, ← cut, String.ofList_toList]
    have valid : (String.ofList (textOf pieces)).rawEndPos.IsValid text :=
      String.Pos.Raw.isValid_iff_exists_append.mpr ⟨_, _, joined, rfl⟩
    have splits : (⟨_, valid⟩ : text.Pos).Splits (String.ofList (textOf pieces)) (String.ofList (c :: tail)) :=
      ⟨joined, rfl⟩
    refine ⟨⟨_, valid⟩, fun atEnd => ?_, ?_⟩
    · have none := splits.eq_endPos_iff.mp atEnd
      simp at none
    · rw [scan_error_of_rest cut left, atStartOf_append, Except.error.injEq] at rejected
      rw [← rejected, Stray.atOffset_of_splits splits, String.toList_ofList, String.toList_ofList]

/-- A later offset has a later position. -/
theorem Stray.before_atOffset {offset later : text.Pos} (less : offset < later) :
    (Stray.atOffset text offset).position.Before (Stray.atOffset text later).position := by
  obtain ⟨more, notEmpty, longer, -⟩ :=
    (offset.splits.lt_iff_exists_eq_append later.splits).mp less
  rw [Stray.atOffset_of_splits offset.splits, Stray.atOffset_of_splits later.splits, longer,
    String.toList_append]
  dsimp only
  exact Position.before_after_append _ (mt String.toList_eq_nil_iff.mp notEmpty)

end

/-- What is reported at an offset of a text is the character there, with its code point. When the text
is cut into lines, the line and the column lead to this very character: what stands before it in the
lines is the text before the offset. Later offsets have later positions, so the position determines the
offset. -/
theorem position_identifies_offset (text : String) (offset : text.Pos)
    (inside : offset ≠ text.endPos) :
    (Stray.atOffset text offset).character = offset.get inside ∧
    (Stray.atOffset text offset).codePoint = (offset.get inside).toNat ∧
    (∃ before rest, offset.Splits before rest ∧
      HeldAt (linesOf text.toList) (Stray.atOffset text offset).position before.toList
        (offset.get inside)) ∧
    (∀ later : text.Pos, offset < later →
      (Stray.atOffset text offset).position.Before (Stray.atOffset text later).position) ∧
    ∀ other : text.Pos,
      (Stray.atOffset text other).position = (Stray.atOffset text offset).position →
      other = offset := by
  obtain ⟨behind, starts⟩ := offset.splits.exists_eq_singleton_append inside
  have splits := offset.splits
  rw [starts] at splits
  have reported := Stray.atOffset_of_splits splits
  have cut : text.toList =
      (text.sliceTo offset).copy.toList ++ offset.get inside :: behind.toList :=
    (congrArg String.toList splits.eq_append).trans (by simp)
  refine ⟨by simp [reported], by simp [reported, Stray.codePoint], ⟨_, _, splits, ?_⟩,
    fun later less => Stray.before_atOffset less, fun other same => ?_⟩
  · rw [reported, cut]
    dsimp only
    exact heldAt_after _ _ _
  · have notBefore : ¬ other < offset := fun less => (Stray.before_atOffset less).ne same
    have notBehind : ¬ offset < other := fun less => (Stray.before_atOffset less).ne same.symm
    exact Std.le_antisymm (Std.not_lt.mp notBehind) (Std.not_lt.mp notBefore)

/-- Behind a line with a carriage return and an empty line, a character of three bytes stands before the
one at offset eight, which is the second of the third line. -/
theorem offset_of_mixed_widths_is_found :
    ∃ offset : ("é\r\n\n€x" : String).Pos, offset.offset = ⟨8⟩ ∧
      ∃ inside : offset ≠ String.endPos _, offset.get inside = 'x' ∧
        (Stray.atOffset _ offset).position = ⟨3, 2⟩ ∧
        (∃ before rest, offset.Splits before rest ∧
          HeldAt (linesOf "é\r\n\n€x".toList) ⟨3, 2⟩ before.toList 'x') ∧
        ∀ other : ("é\r\n\n€x" : String).Pos,
          (Stray.atOffset _ other).position = ⟨3, 2⟩ → other = offset := by
  have inside : (⟨⟨8⟩, by decide⟩ : ("é\r\n\n€x" : String).Pos) ≠ String.endPos _ := by decide
  obtain ⟨-, -, held, -, determined⟩ := position_identifies_offset _ _ inside
  exact ⟨_, rfl, inside, rfl, rfl, held, determined⟩

end Codebook
