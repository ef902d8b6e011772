import Codebook.Text.Position
import Mathlib.Data.List.DropRight

/-!
# What a position counts

A position is built up character by character. What it comes to is one more than the line feeds
that stand before it, and one more than the characters between it and the last of those line feeds,
or the start of the text if there is none.
-/

namespace Codebook.Text

/-- The characters behind the last line feed of a text, or all of them if there is none. -/
def lastLine (text : List Char) : List Char :=
  text.rtakeWhile (· ≠ '\n')

/-- A line and a column count the line feeds before a place, and the characters on its line. The
induction is on the end of the text before the place, where the next character is put. -/
theorem Position.after_eq (before : List Char) :
    Position.after before = ⟨1 + before.count '\n', 1 + (lastLine before).length⟩ := by
  induction before using List.reverseRecOn with
  | nil => rfl
  | append_singleton before c ih =>
    have step : Position.after (before ++ [c]) = (Position.after before).next c := by
      simp [Position.after]
    rw [step, ih, lastLine, lastLine, List.rtakeWhile_concat, List.count_append]
    by_cases feed : c = '\n'
    · subst feed
      simp [Position.next, Nat.add_assoc]
    · simp [Position.next, feed, Nat.add_assoc]

/-- What stands before a line feed is on no later line. The induction is on the end of the text
again. -/
theorem lastLine_append_feed (front behind : List Char) :
    lastLine (front ++ '\n' :: behind) = lastLine behind := by
  induction behind using List.reverseRecOn with
  | nil => simp [lastLine]
  | append_singleton behind c ih =>
    have moved : front ++ '\n' :: (behind ++ [c]) = (front ++ '\n' :: behind) ++ [c] := by simp
    rw [lastLine] at ih ⊢
    rw [moved, lastLine, List.rtakeWhile_concat, List.rtakeWhile_concat, ih]
    rfl

/-- The position that is some lines further down, in the same column. -/
def Position.below (position : Position) (lines : Nat) : Position :=
  ⟨position.line + lines, position.column⟩

@[simp]
theorem Position.below_below (position : Position) (lines more : Nat) :
    (position.below lines).below more = position.below (lines + more) := by
  simp [Position.below, Nat.add_assoc]

/-- Lines that are put before a text move every position in it down by as many, and leave the
columns. -/
theorem Position.after_append_feed (front behind : List Char) :
    Position.after (front ++ '\n' :: behind) =
      (Position.after behind).below (front.count '\n' + 1) := by
  have counted : (front ++ '\n' :: behind).count '\n' = front.count '\n' + (behind.count '\n' + 1) := by
    simp [List.count_append]
  rw [Position.after_eq, Position.after_eq, lastLine_append_feed, counted]
  simp only [Position.below, Position.mk.injEq, and_true]
  omega

end Codebook.Text
