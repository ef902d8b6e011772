import Codebook.Definition

/-!
# Classes of characters that have nothing in common

Where one part of an entry ends and the next one starts is decided by the class of a single
character. Blanks are neither digits nor parts of a name, which is all that is needed for it; the
marks of the grammar are settled one by one.
-/

namespace Codebook.Text

/-- A character of a class is not one that is outside it. -/
theorem ne_of_class {p : Char → Bool} {c other : Char} (inside : p c = true)
    (outside : p other = false) : c ≠ other := by
  rintro rfl
  exact Bool.eq_false_iff.mp outside inside

/-- A character with a property lies between the ends of one of the property's ranges. -/
theorem within_range {ranges : List CodeRange} {c : Char} (held : inRanges ranges c = true) :
    ∃ range ∈ ranges, range.first ≤ c.toNat ∧ c.toNat ≤ range.last := by
  obtain ⟨range, member, contained⟩ := List.any_eq_true.mp held
  simp only [CodeRange.contains, Bool.and_eq_true, decide_eq_true_eq] at contained
  exact ⟨range, member, contained.1⟩

/-- A blank is no digit: no range of the one table meets a range of the other. -/
theorem not_digit_of_blank {c : Char} (blank : isBlank c = true) : isDecimalDigit c = false := by
  have apart : ∀ blanks ∈ blankRanges, ∀ digits ∈ decimalDigitRanges,
      blanks.last < digits.first ∨ digits.last < blanks.first := by decide
  refine Bool.eq_false_iff.mpr fun digit => ?_
  obtain ⟨blanks, blankMember, blankBounds⟩ := within_range blank
  obtain ⟨digits, digitMember, digitBounds⟩ := within_range digit
  rcases apart blanks blankMember digits digitMember with below | above <;> omega

/-- Blanks stand at the start of the code points, or behind all of seven bits. -/
theorem blank_bounds {c : Char} (blank : isBlank c = true) : c.toNat ≤ 32 ∨ 133 ≤ c.toNat := by
  have outside : ∀ range ∈ blankRanges, range.last ≤ 32 ∨ 133 ≤ range.first := by decide
  obtain ⟨range, member, bounds⟩ := within_range blank
  rcases outside range member with low | high <;> omega

/-- The parts of names stand between the digits and the small letters of seven bits. -/
theorem name_part_bounds {c : Char} (part : isNamePart c = true) :
    48 ≤ c.toNat ∧ c.toNat ≤ 122 := by
  change (decide (65 ≤ c.val ∧ c.val ≤ 90) || (decide (97 ≤ c.val) && decide (c.val ≤ 122)) ||
    (decide (48 ≤ c.val) && decide (c.val ≤ 57)) || c == '_') = true at part
  simp only [Bool.or_eq_true, Bool.and_eq_true, decide_eq_true_eq, beq_iff_eq,
    UInt32.le_iff_toNat_le] at part
  change (((65 ≤ c.toNat ∧ c.toNat ≤ 90) ∨ (97 ≤ c.toNat ∧ c.toNat ≤ 122)) ∨
    (48 ≤ c.toNat ∧ c.toNat ≤ 57)) ∨ c = '_' at part
  rcases part with ((upper | lower) | digit) | rfl
  · omega
  · omega
  · omega
  · decide

/-- A blank is no part of a name. -/
theorem not_name_part_of_blank {c : Char} (blank : isBlank c = true) : isNamePart c = false := by
  refine Bool.eq_false_iff.mpr fun part => ?_
  have blankBounds := blank_bounds blank
  have partBounds := name_part_bounds part
  omega

/-- A name starts with a character that may be part of it. -/
theorem name_part_of_start {c : Char} (start : isNameStart c = true) : isNamePart c = true := by
  simp only [isNameStart, Bool.or_eq_true] at start
  simp only [isNamePart, Char.isAlphanum, Bool.or_eq_true]
  exact start.imp_left .inl

end Codebook.Text
