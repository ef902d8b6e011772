import Codebook.Proofs.Text.Position
import Mathlib.Data.List.SplitBy

/-!
# Positions in the lines of a text

A text is cut into lines behind each of its line feeds. A position is built up without looking at the
lines: from the line feeds before a place and the characters behind the last of them. Still it says
where in the lines a character is found, and what stands before it.

Offsets count bytes, and positions count characters. Both grow with the text before a place, so each of
them determines the other one.
-/

namespace Codebook.Text

/-! ## Lines -/

/-- The lines of a text, each with the line feed that ends it. There is no line behind the last line
feed if the text ends there. -/
def linesOf (text : List Char) : List (List Char) :=
  text.splitBy fun c _ => c ≠ '\n'

/-- A line feed at the start of a text is a line of its own. -/
theorem linesOf_feed (rest : List Char) : linesOf ('\n' :: rest) = ['\n'] :: linesOf rest :=
  List.splitBy_append (l := ['\n']) (m := rest) (by simp)

/-- Any other character belongs to the line that starts behind it. -/
theorem linesOf_cons {d : Char} (notFeed : d ≠ '\n') {rest first : List Char}
    {lines : List (List Char)} (cut : linesOf rest = first :: lines) :
    linesOf (d :: rest) = (d :: first) :: lines := by
  obtain ⟨joined, noneEmpty, chained, apart⟩ := List.splitBy_eq_iff.mp cut
  have firstNotEmpty : first ≠ [] := fun empty => noneEmpty (empty ▸ List.mem_cons_self)
  refine List.splitBy_eq_iff.mpr ⟨by simp [joined], ?_, ?_, ?_⟩
  · rw [List.mem_cons, not_or]
    exact ⟨(List.cons_ne_nil _ _).symm, fun member => noneEmpty (List.mem_cons_of_mem _ member)⟩
  · refine List.forall_mem_cons.mpr ⟨?_, fun line member => chained line (List.mem_cons_of_mem _ member)⟩
    exact List.isChain_cons.mpr ⟨by simp [notFeed], chained first List.mem_cons_self⟩
  · rw [List.isChain_cons] at apart ⊢
    refine ⟨fun next member => ?_, apart.2⟩
    obtain ⟨_, nextNotEmpty, ends⟩ := apart.1 next member
    exact ⟨List.cons_ne_nil _ _, nextNotEmpty, by rwa [List.getLast_cons firstNotEmpty]⟩

/-! ## The place of a character in the lines -/

/-- At this position some lines hold this character, behind this text. Lines and columns are counted
from one. -/
def HeldAt (lines : List (List Char)) (position : Position) (before : List Char) (c : Char) : Prop :=
  ∃ (line column : Nat) (held : List Char), position = ⟨line + 1, column + 1⟩ ∧
    lines[line]? = some held ∧ held[column]? = some c ∧
    (lines.take line).flatten ++ held.take column = before

variable {lines : List (List Char)} {first before : List Char} {line column : Nat} {c : Char}

/-- A line that is put before others moves their characters down. -/
theorem HeldAt.below {position : Position} (heldAt : HeldAt lines position before c)
    (first : List Char) : HeldAt (first :: lines) (position.below 1) (first ++ before) c := by
  obtain ⟨line, column, held, rfl, found, character, rfl⟩ := heldAt
  exact ⟨line + 1, column, held, rfl, by simpa using found, character, by simp⟩

/-- A character that is put before the first line moves the characters of this line. -/
theorem HeldAt.beside (heldAt : HeldAt (first :: lines) ⟨1, column⟩ before c) (d : Char) :
    HeldAt ((d :: first) :: lines) ⟨1, column + 1⟩ (d :: before) c := by
  obtain ⟨line, column, held, same, found, character, rfl⟩ := heldAt
  obtain ⟨rfl, rfl⟩ : line = 0 ∧ _ = column + 1 := by simpa [eq_comm] using same
  obtain rfl : first = held := by simpa using found
  exact ⟨0, column + 1, d :: first, rfl, by simp, by simpa using character, by simp⟩

/-- A character that is put before the first line does not move the characters of other lines. -/
theorem HeldAt.behind (heldAt : HeldAt (first :: lines) ⟨line + 2, column⟩ before c) (d : Char) :
    HeldAt ((d :: first) :: lines) ⟨line + 2, column⟩ (d :: before) c := by
  obtain ⟨_, column, held, same, found, character, rfl⟩ := heldAt
  obtain ⟨rfl, rfl⟩ : _ = line + 1 ∧ _ = column + 1 := by simpa [eq_comm] using same
  exact ⟨line + 1, column, held, rfl, by simpa using found, character, by simp⟩

/-- On the first line a character before a place moves the place. -/
theorem Position.after_cons_of_notMem {d : Char} (notFeed : d ≠ '\n') (oneLine : '\n' ∉ before) :
    Position.after (d :: before) = ⟨1, before.length + 2⟩ ∧
      Position.after before = ⟨1, before.length + 1⟩ := by
  have whole {text : List Char} (oneLine : '\n' ∉ text) :
      Position.after text = ⟨1, text.length + 1⟩ := by
    have all : lastLine text = text :=
      List.rtakeWhile_eq_self_iff.mpr fun e member => by
        simpa using fun same : e = '\n' => oneLine (same ▸ member)
    rw [Position.after_eq, all, List.count_eq_zero.mpr oneLine, Nat.add_comm text.length]
  have longer : '\n' ∉ d :: before := by
    rw [List.mem_cons, not_or]
    exact ⟨notFeed.symm, oneLine⟩
  exact ⟨whole longer, whole oneLine⟩

/-- On later lines it does not. -/
theorem Position.after_cons_of_mem {d : Char} (notFeed : d ≠ '\n') (feed : '\n' ∈ before) :
    ∃ line column, Position.after before = ⟨line + 2, column⟩ ∧
      Position.after (d :: before) = ⟨line + 2, column⟩ := by
  obtain ⟨front, behind, rfl⟩ := List.append_of_mem feed
  have same : (d :: front).count '\n' = front.count '\n' := List.count_cons_of_ne notFeed
  have place (front : List Char) : Position.after (front ++ '\n' :: behind) =
      ⟨behind.count '\n' + front.count '\n' + 2, 1 + (lastLine behind).length⟩ := by
    rw [Position.after_append_feed, Position.after_eq, Position.below, Position.mk.injEq]
    dsimp only
    exact ⟨by omega, rfl⟩
  exact ⟨_, _, place front, by rw [← List.cons_append, place, same]⟩

/-- Every character of a text is held by the lines of the text at the position that what stands before
it comes to. The induction takes the text before it apart from the left: a line feed is a line of its
own, and any other character lengthens the first line. -/
theorem heldAt_after (before : List Char) (c : Char) (behind : List Char) :
    HeldAt (linesOf (before ++ c :: behind)) (Position.after before) before c := by
  induction before with
  | nil =>
    have starts : ∃ first lines, linesOf (c :: behind) = (c :: first) :: lines := by
      by_cases feed : c = '\n'
      · exact ⟨[], _, feed ▸ linesOf_feed behind⟩
      · cases cut : linesOf behind with
        | nil =>
          obtain rfl := List.splitBy_eq_nil.mp cut
          exact ⟨[], [], rfl⟩
        | cons first lines => exact ⟨first, lines, linesOf_cons feed cut⟩
    obtain ⟨first, lines, cut⟩ := starts
    exact ⟨0, 0, c :: first, rfl, by simp [cut], rfl, by simp⟩
  | cons d before ih =>
    by_cases feed : d = '\n'
    · subst feed
      rw [List.cons_append, linesOf_feed]
      have below : Position.after ('\n' :: before) = (Position.after before).below 1 :=
        Position.after_append_feed [] before
      rw [below]
      exact ih.below ['\n']
    · cases cut : linesOf (before ++ c :: behind) with
      | nil => simp [linesOf] at cut
      | cons first lines =>
        rw [cut] at ih
        rw [List.cons_append, linesOf_cons feed cut]
        by_cases oneLine : '\n' ∈ before
        · obtain ⟨line, column, place, moved⟩ := Position.after_cons_of_mem feed oneLine
          rw [place] at ih
          rw [moved]
          exact ih.behind d
        · obtain ⟨moved, place⟩ := Position.after_cons_of_notMem feed oneLine
          rw [place] at ih
          rw [moved]
          exact ih.beside d

/-! ## The order of positions -/

/-- A position comes before another one if it is on an earlier line, or on the same line in an earlier
column. -/
def Position.Before (position other : Position) : Prop :=
  Prod.Lex (· < ·) (· < ·) (position.line, position.column) (other.line, other.column)

theorem Position.before_next (position : Position) (c : Char) : position.Before (position.next c) := by
  unfold Position.Before Position.next
  split
  · exact .left _ _ (Nat.lt_succ_self _)
  · exact .right _ (Nat.lt_succ_self _)

theorem Position.Before.trans {position other last : Position} (earlier : position.Before other)
    (later : other.Before last) : position.Before last := by
  rw [Position.Before, Prod.lex_def] at *
  dsimp only at *
  omega

theorem Position.Before.ne {position other : Position} (before : position.Before other) :
    position ≠ other := by
  rintro rfl
  rw [Position.Before, Prod.lex_def] at before
  dsimp only at before
  omega

/-- A position comes before every position that more characters lead to. -/
theorem Position.before_after_append (before : List Char) {more : List Char} (notEmpty : more ≠ []) :
    (Position.after before).Before (Position.after (before ++ more)) := by
  induction more using List.reverseRecOn with
  | nil => exact absurd rfl notEmpty
  | append_singleton more c ih =>
    have step : Position.after (before ++ (more ++ [c])) =
        (Position.after (before ++ more)).next c := by
      simp [Position.after]
    rw [step]
    by_cases empty : more = []
    · rw [empty, List.append_nil]
      exact Position.before_next _ c
    · exact (ih empty).trans (Position.before_next _ c)

end Codebook.Text
