import Codebook.Text.Occurrence

/-!
# One cut for counting and for replacing

The occurrences that a search from left to right finds cut a text into parts. Every part but the
last one is followed by the pattern, and the pattern does not occur in it any earlier; the last part
does not hold the pattern. A text has exactly one such cut if the pattern is not empty, also where the
pattern overlaps with itself.

Counting and replacing search the text each on its own. Both are given by the cut: the count is that
of the parts before the last one, and the text with a replacement has it behind each of them.
-/

namespace Codebook.Text

/-- In the part and the pattern behind it, the pattern occurs at the end only. -/
def OnlyAtEnd (pattern part : List Char) : Prop :=
  ∀ left right, part ++ pattern = left ++ (pattern ++ right) → right = []

/-- A cut of a text at the occurrences of a pattern that are found from left to right. -/
structure Cut (pattern : List Char) (parts : List (List Char)) (last text : List Char) : Prop where
  joined : text = parts.flatMap (· ++ pattern) ++ last
  atEnds : ∀ part ∈ parts, OnlyAtEnd pattern part
  lastFree : ¬ pattern <:+: last

/-! ## The first occurrence -/

/-- A pattern is taken off the start of a text exactly if the text starts with it. -/
theorem stripPrefix?_eq_some_iff {pattern text rest : List Char} :
    stripPrefix? pattern text = some rest ↔ text = pattern ++ rest := by
  induction pattern generalizing text with
  | nil => simp [stripPrefix?]
  | cons p pattern ih =>
    cases text with
    | nil => simp [stripPrefix?]
    | cons c text =>
      by_cases same : p = c
      · simp [stripPrefix?, same, ih]
      · simp [stripPrefix?, same, Ne.symm same]

/-- A pattern is not taken off exactly if the text does not start with it. -/
theorem stripPrefix?_eq_none_iff {pattern text : List Char} :
    stripPrefix? pattern text = none ↔ ¬ pattern <+: text := by
  rw [Option.eq_none_iff_forall_ne_some]
  constructor
  · rintro none ⟨rest, same⟩
    exact none rest (stripPrefix?_eq_some_iff.mpr same.symm)
  · rintro notHere rest found
    exact notHere ⟨rest, (stripPrefix?_eq_some_iff.mp found).symm⟩

/-- The pattern alone holds the pattern at its end only. -/
theorem onlyAtEnd_nil (pattern : List Char) : OnlyAtEnd pattern [] := by
  intro left right same
  have lengths := congrArg List.length same
  simp only [List.nil_append, List.length_append] at lengths
  exact List.eq_nil_of_length_eq_zero (by omega)

/-- One character more before a part gives one more place for the pattern, which is the start. -/
theorem onlyAtEnd_cons_iff {pattern part : List Char} {c : Char} :
    OnlyAtEnd pattern (c :: part) ↔
      ¬ pattern <+: c :: (part ++ pattern) ∧ OnlyAtEnd pattern part := by
  constructor
  · intro only
    refine ⟨?_, fun left right same => only (c :: left) right (by simp [same])⟩
    rintro ⟨right, same⟩
    obtain rfl := only [] right same.symm
    have lengths := congrArg List.length same
    simp only [List.append_nil, List.length_cons, List.length_append] at lengths
    omega
  · rintro ⟨notHere, only⟩ left right same
    cases left with
    | nil => exact absurd ⟨right, same.symm⟩ notHere
    | cons d left => exact only left right (List.cons.inj same).2

/-- A part with the pattern behind it is empty if the pattern also stands at its start. It would lie
within the part and the pattern otherwise. -/
theorem OnlyAtEnd.eq_nil {pattern part rest : List Char} (only : OnlyAtEnd pattern part)
    (here : pattern <+: part ++ (pattern ++ rest)) : part = [] := by
  cases part with
  | nil => rfl
  | cons c part =>
    refine absurd ?_ (onlyAtEnd_cons_iff.mp only).1
    have within : pattern <+: c :: (part ++ pattern) ++ rest := by simpa using here
    exact List.prefix_of_prefix_length_le within (List.prefix_append _ _)
      (by simp only [List.length_cons, List.length_append]; omega)

/-- The first occurrence is found where the pattern stands and does not occur any earlier. -/
theorem firstOccurrence?_eq_some_iff {pattern text before rest : List Char} :
    firstOccurrence? pattern text = some (before, rest) ↔
      text = before ++ (pattern ++ rest) ∧ OnlyAtEnd pattern before := by
  induction text generalizing before with
  | nil =>
    simp only [firstOccurrence?, Option.map_eq_some_iff, stripPrefix?_eq_some_iff, Prod.mk.injEq]
    constructor
    · rintro ⟨_, stripped, rfl, rfl⟩
      exact ⟨stripped, onlyAtEnd_nil pattern⟩
    · rintro ⟨empty, -⟩
      obtain ⟨rfl, stripped⟩ := List.append_eq_nil_iff.mp empty.symm
      exact ⟨rest, stripped.symm, rfl, rfl⟩
  | cons c text ih =>
    cases stripped : stripPrefix? pattern (c :: text) with
    | some behind =>
      have here := stripPrefix?_eq_some_iff.mp stripped
      simp only [firstOccurrence?, stripped, Option.some.injEq, Prod.mk.injEq]
      constructor
      · rintro ⟨rfl, rfl⟩
        exact ⟨here, onlyAtEnd_nil pattern⟩
      · rintro ⟨same, only⟩
        have starts : pattern <+: before ++ (pattern ++ rest) :=
          ⟨behind, here.symm.trans same⟩
        obtain rfl := only.eq_nil starts
        exact ⟨rfl, List.append_cancel_left (here.symm.trans same)⟩
    | none =>
      have notHere := stripPrefix?_eq_none_iff.mp stripped
      simp only [firstOccurrence?, stripped, Option.map_eq_some_iff, Prod.mk.injEq, Prod.exists]
      constructor
      · rintro ⟨ahead, behind, found, rfl, rfl⟩
        obtain ⟨rfl, only⟩ := ih.mp found
        refine ⟨rfl, onlyAtEnd_cons_iff.mpr ⟨fun earlier => notHere ?_, only⟩⟩
        exact earlier.trans ⟨behind, by simp⟩
      · rintro ⟨same, only⟩
        cases before with
        | nil => exact absurd ⟨rest, same.symm⟩ notHere
        | cons d before =>
          obtain ⟨rfl, tails⟩ := List.cons.inj same
          exact ⟨before, rest, ih.mpr ⟨tails, (onlyAtEnd_cons_iff.mp only).2⟩, rfl, rfl⟩

/-- No occurrence is found exactly if the text does not hold the pattern. -/
theorem firstOccurrence?_eq_none_iff {pattern text : List Char} :
    firstOccurrence? pattern text = none ↔ ¬ pattern <:+: text := by
  induction text with
  | nil =>
    rw [firstOccurrence?, Option.map_eq_none_iff, stripPrefix?_eq_none_iff, List.infix_nil,
      List.prefix_nil]
  | cons c text ih =>
    rw [List.infix_cons_iff, not_or, ← stripPrefix?_eq_none_iff]
    cases stripped : stripPrefix? pattern (c :: text) <;> simp [firstOccurrence?, stripped, ih]

/-! ## The cut -/

/-- A text that is cut into its last part only does not hold the pattern. -/
theorem Cut.not_found {pattern last text : List Char} (cut : Cut pattern [] last text) :
    firstOccurrence? pattern text = none := by
  rw [firstOccurrence?_eq_none_iff, cut.joined]
  exact cut.lastFree

/-- The first part of a cut stands before the first occurrence, and the others cut what stands
behind it. -/
theorem Cut.found {pattern part last text : List Char} {parts : List (List Char)}
    (cut : Cut pattern (part :: parts) last text) :
    ∃ rest, firstOccurrence? pattern text = some (part, rest) ∧ Cut pattern parts last rest := by
  refine ⟨parts.flatMap (· ++ pattern) ++ last, firstOccurrence?_eq_some_iff.mpr ⟨?_, ?_⟩, ?_⟩
  · rw [cut.joined, List.flatMap_cons, List.append_assoc, List.append_assoc]
  · exact cut.atEnds part List.mem_cons_self
  · exact ⟨rfl, fun other member => cut.atEnds other (List.mem_cons_of_mem part member), cut.lastFree⟩

/-- A text has one cut at most. The induction follows the search: the first part is what stands
before the first occurrence. -/
theorem Cut.unique {pattern last other text : List Char} {parts others : List (List Char)}
    (cut : Cut pattern parts last text) (again : Cut pattern others other text) :
    others = parts ∧ other = last := by
  induction parts generalizing others text with
  | nil =>
    cases others with
    | nil => exact ⟨rfl, again.joined.symm.trans cut.joined⟩
    | cons part others =>
      obtain ⟨rest, found, -⟩ := again.found
      rw [cut.not_found] at found
      cases found
  | cons part parts ih =>
    obtain ⟨rest, found, cutRest⟩ := cut.found
    cases others with
    | nil =>
      rw [again.not_found] at found
      cases found
    | cons otherPart others =>
      obtain ⟨otherRest, otherFound, otherCut⟩ := again.found
      obtain ⟨rfl, rfl⟩ := Prod.mk.inj (Option.some.inj (found.symm.trans otherFound))
      obtain ⟨rfl, rfl⟩ := ih cutRest otherCut
      exact ⟨rfl, rfl⟩

/-- A text has a cut at a pattern that is not empty. Each step of the search gives one more part, and
what is left to search is shorter. -/
theorem exists_cut (p : Char) (ps text : List Char) :
    ∃ parts last, Cut (p :: ps) parts last text := by
  fun_induction countFrom p ps text with
  | case1 text before rest found ih =>
    obtain ⟨parts, last, cut⟩ := ih
    obtain ⟨same, only⟩ := firstOccurrence?_eq_some_iff.mp found
    refine ⟨before :: parts, last, ?_, List.forall_mem_cons.mpr ⟨only, cut.atEnds⟩, cut.lastFree⟩
    rw [same, List.flatMap_cons, List.append_assoc, List.append_assoc, ← cut.joined]
  | case2 text none =>
    exact ⟨[], text, rfl, by simp, firstOccurrence?_eq_none_iff.mp none⟩

/-- The count of the occurrences is that of the parts that end with one. -/
theorem Cut.countFrom_eq {p : Char} {ps last text : List Char} {parts : List (List Char)}
    (cut : Cut (p :: ps) parts last text) : countFrom p ps text = parts.length := by
  induction parts generalizing text with
  | nil =>
    rw [countFrom, cut.not_found]
    rfl
  | cons part parts ih =>
    obtain ⟨rest, found, cutRest⟩ := cut.found
    rw [countFrom, found]
    exact congrArg (· + 1) (ih cutRest)

/-- The replacement stands where the pattern stood at the end of a part. It is not searched itself. -/
theorem Cut.replaceFrom_eq {p : Char} {ps last text : List Char} {parts : List (List Char)}
    (cut : Cut (p :: ps) parts last text) (replacement : List Char) :
    replaceFrom p ps replacement text = parts.flatMap (· ++ replacement) ++ last := by
  induction parts generalizing text with
  | nil =>
    rw [replaceFrom, cut.not_found]
    exact cut.joined
  | cons part parts ih =>
    obtain ⟨rest, found, cutRest⟩ := cut.found
    rw [replaceFrom, found, List.flatMap_cons, List.append_assoc]
    exact congrArg (part ++ replacement ++ ·) (ih cutRest)

/-- Occurrences do not overlap: of three letters two are replaced and the third one stays. -/
example : replaceAll "aa".toList "b".toList "aaa".toList = "ba".toList := by decide +kernel

/-- The text has an occurrence of the pattern exactly if its cut has more than the last part. -/
theorem Cut.eq_nil_iff {pattern last text : List Char} {parts : List (List Char)}
    (cut : Cut pattern parts last text) : parts = [] ↔ ¬ pattern <:+: text := by
  rw [← firstOccurrence?_eq_none_iff]
  constructor
  · rintro rfl
    exact cut.not_found
  · intro none
    cases parts with
    | nil => rfl
    | cons part parts =>
      obtain ⟨rest, found, -⟩ := cut.found
      rw [none] at found
      cases found

/-- No occurrences are counted exactly if the text does not hold the pattern. An empty pattern is held
by every text. -/
theorem occurrences_eq_zero_iff {pattern text : List Char} :
    occurrences pattern text = 0 ↔ ¬ pattern <:+: text := by
  cases pattern with
  | nil => simp [occurrences]
  | cons p ps =>
    obtain ⟨parts, last, cut⟩ := exists_cut p ps text
    rw [occurrences, cut.countFrom_eq, List.length_eq_zero_iff, cut.eq_nil_iff]

end Codebook.Text
