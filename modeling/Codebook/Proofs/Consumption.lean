import Codebook.Proofs.Dialect

/-!
# No placeholder is left in an expanded template

Putting a block into a template could form the placeholder again, half of it in the template and half
of it in the block, or at a place where occurrences overlap. It does not if the block starts and ends
with characters that the placeholder does not have. They are like fences: what is found in the expanded
text lies within one part of the template, or within the block. The parts of the template do not hold
the placeholder, because the search would have found it there.

The blocks of the dialects are fenced by blanks. So a placeholder without blanks that is not in the block
is gone after one expansion, and a second one finds nothing to do.
-/

namespace Codebook

open Text

/-! ## Fences -/

section Fences

variable {pattern left right : List Char} {fence : Char}

/-- A pattern at the start of a text stands before a character that is not in it. -/
theorem prefix_before_fence (apart : fence ∉ pattern) (starts : pattern <+: left ++ fence :: right) :
    pattern <+: left := by
  rcases List.prefix_or_prefix_of_prefix starts (List.prefix_append left (fence :: right)) with
    before | ⟨more, rfl⟩
  · exact before
  · have behind : more <+: fence :: right := (List.prefix_append_right_inj left).mp starts
    cases more with
    | nil => simp
    | cons c more =>
      obtain rfl := (List.cons_prefix_cons.mp behind).1
      exact absurd (by simp) apart

/-- A pattern in a text stands before or behind a character that is not in it. -/
theorem infix_beside_fence (apart : fence ∉ pattern) (held : pattern <:+: left ++ fence :: right) :
    pattern <:+: left ∨ pattern <:+: right := by
  induction left with
  | nil =>
    rcases List.infix_cons_iff.mp held with starts | behind
    · have before : pattern <+: [] := prefix_before_fence apart starts
      exact .inl before.isInfix
    · exact .inr behind
  | cons c left ih =>
    rcases List.infix_cons_iff.mp held with starts | later
    · have before : pattern <+: c :: left := prefix_before_fence apart starts
      exact .inl before.isInfix
    · rcases ih later with before | behind
      · exact .inl (List.infix_cons before)
      · exact .inr behind

/-- A block that starts with one character and ends with another one. -/
def Fenced (opening closing : Char) (block : List Char) : Prop :=
  ∃ inner, block = opening :: (inner ++ [closing])

variable {opening closing : Char} {block : List Char}

/-- Fenced blocks one after the other are fenced. -/
theorem Fenced.append {other : List Char} (fenced : Fenced opening closing block)
    (otherFenced : Fenced opening closing other) : Fenced opening closing (block ++ other) := by
  obtain ⟨inner, rfl⟩ := fenced
  obtain ⟨otherInner, rfl⟩ := otherFenced
  exact ⟨inner ++ closing :: opening :: otherInner, by simp⟩

/-- A pattern that has neither fence of a block in it is before the block, in it or behind it. -/
theorem Fenced.infix_cases (fenced : Fenced opening closing block) (noOpening : opening ∉ pattern)
    (noClosing : closing ∉ pattern) (held : pattern <:+: left ++ (block ++ right)) :
    pattern <:+: left ∨ pattern <:+: block ∨ pattern <:+: right := by
  obtain ⟨inner, rfl⟩ := fenced
  have opened : left ++ (opening :: (inner ++ [closing]) ++ right) =
      left ++ opening :: (inner ++ closing :: right) := by simp
  rw [opened] at held
  rcases infix_beside_fence noOpening held with before | later
  · exact .inl before
  · rcases infix_beside_fence noClosing later with within | behind
    · have inBlock : inner <:+: opening :: (inner ++ [closing]) := ⟨[opening], [closing], by simp⟩
      exact .inr (.inl (within.trans inBlock))
    · exact .inr (.inr behind)

end Fences

/-! ## Cuts -/

/-- A part of a cut does not hold the pattern, which would have been found there. -/
theorem Text.OnlyAtEnd.not_held {pattern part : List Char} (notEmpty : pattern ≠ [])
    (only : OnlyAtEnd pattern part) : ¬ pattern <:+: part := by
  rintro ⟨before, after, rfl⟩
  have behind : after ++ pattern = [] := by
    apply only before (after ++ pattern)
    simp only [List.append_assoc]
  exact notEmpty (List.append_eq_nil_iff.mp behind).2

/-- Where a fenced block without the pattern stands in its place, the pattern is gone. The induction
goes through the parts of the cut, with a block behind each of them. -/
theorem not_infix_filled {pattern last block : List Char} {parts : List (List Char)}
    {opening closing : Char} (fenced : Fenced opening closing block) (noOpening : opening ∉ pattern)
    (noClosing : closing ∉ pattern) (blockFree : ¬ pattern <:+: block)
    (partsFree : ∀ part ∈ parts, ¬ pattern <:+: part) (lastFree : ¬ pattern <:+: last) :
    ¬ pattern <:+: parts.flatMap (· ++ block) ++ last := by
  induction parts with
  | nil => exact lastFree
  | cons part parts ih =>
    obtain ⟨partFree, others⟩ := List.forall_mem_cons.mp partsFree
    intro held
    simp only [List.flatMap_cons, List.append_assoc] at held
    rcases fenced.infix_cases noOpening noClosing held with inPart | inBlock | inRest
    · exact partFree inPart
    · exact blockFree inBlock
    · exact ih others inRest

/-- A fenced block that does not hold the placeholder leaves none in the template that it is put into. -/
theorem putBlock_consumes {placeholder block : String} {opening closing : Char} (template : String)
    (notEmpty : placeholder ≠ "") (fenced : Fenced opening closing block.toList)
    (noOpening : opening ∉ placeholder.toList) (noClosing : closing ∉ placeholder.toList)
    (blockFree : ¬ placeholder.toList <:+: block.toList) :
    ¬ placeholder.toList <:+: (putBlock placeholder block template).text.toList := by
  obtain ⟨parts, last, cut, text, -⟩ := (filled_putBlock placeholder block template).cut notEmpty
  have someCharacter : placeholder.toList ≠ [] := by simpa using notEmpty
  rw [text]
  exact not_infix_filled fenced noOpening noClosing blockFree
    (fun part member => (cut.atEnds part member).not_held someCharacter) cut.lastFree

/-! ## The dialects -/

/-- The blank that the lines of a dialect start with. -/
def Dialect.indent : Dialect → Char
  | .csharp => '\t'
  | .rust => ' '

/-- A line of a dialect starts with a blank and ends with a line feed. -/
theorem Dialect.fenced_line (dialect : Dialect) (definition : Definition) :
    Fenced dialect.indent '\n' (dialect.line definition) := by
  have opening : ∃ rest, dialect.opening.toList = dialect.indent :: rest := by
    cases dialect <;> exact ⟨_, rfl⟩
  have closing : dialect.closing.toList = [';', '\n'] := by cases dialect <;> rfl
  obtain ⟨rest, opening⟩ := opening
  refine ⟨rest ++ (definition.name.toList ++ (dialect.between.toList ++
    (definition.code.toList ++ [';']))), ?_⟩
  simp [Dialect.line, opening, closing]

/-- The lines of some definitions, one at least, are fenced as one line is. -/
theorem Dialect.fenced_lines (dialect : Dialect) (definition : Definition)
    (definitions : List Definition) :
    Fenced dialect.indent '\n' ((definition :: definitions).flatMap dialect.line) := by
  induction definitions generalizing definition with
  | nil => simpa using dialect.fenced_line definition
  | cons next definitions ih =>
    rw [List.flatMap_cons]
    exact (dialect.fenced_line definition).append (ih next)

/-- In each dialect, a block of one line at least that does not hold the placeholder leaves none in any
template, if the placeholder has no blank in it. Expanding once more replaces nothing and keeps the
text, whatever the definitions and the line format are then, if their lines can be written. -/
theorem placeholder_is_consumed (dialect : Dialect) (placeholder template block : String)
    (definitions : List Definition) (present : definitions ≠ []) (notEmpty : placeholder ≠ "")
    (noBlank : ∀ c ∈ placeholder.toList, isBlank c = false)
    (given : declarationBlock declarationLine dialect.lineFormat definitions = .ok block)
    (blockFree : ¬ placeholder.toList <:+: block.toList) :
    ∃ expansion,
      expand declarationLine dialect.lineFormat placeholder template definitions = .ok expansion ∧
      ¬ placeholder.toList <:+: expansion.text.toList ∧
      ∀ {ε : Type} (writer : LineWriter ε) (lineFormat : String) (others : List Definition)
        (otherBlock : String), declarationBlock writer lineFormat others = .ok otherBlock →
        expand writer lineFormat placeholder expansion.text others = .ok ⟨expansion.text, 0⟩ := by
  obtain ⟨definition, others, rfl⟩ := List.exists_cons_of_ne_nil present
  have fenced : Fenced dialect.indent '\n' block.toList := by
    obtain ⟨_, again, lines⟩ := declarationBlock_dialect dialect (definition :: others)
    obtain rfl := Except.ok.inj (given.symm.trans again)
    rw [lines]
    exact dialect.fenced_lines definition others
  have absent {fence : Char} (blank : isBlank fence = true) : fence ∉ placeholder.toList := by
    intro member
    rw [noBlank fence member] at blank
    cases blank
  have noIndent := absent (show isBlank dialect.indent = true by cases dialect <;> decide)
  have noFeed := absent (show isBlank '\n' = true by decide)
  have gone := putBlock_consumes template notEmpty fenced noIndent noFeed blockFree
  refine ⟨putBlock placeholder block template, by rw [expand, given]; rfl, gone, ?_⟩
  intro ε writer lineFormat others otherBlock otherGiven
  rw [expand, otherGiven]
  exact congrArg Except.ok (putBlock_absent gone)

/-- A placeholder that overlaps with itself in the template, half of which is also the name of a
definition. -/
theorem overlapping_placeholder_is_consumed :
    [Definition.mk "1" "ab"] ≠ [] ∧ "abab" ≠ "" ∧ (∀ c ∈ "abab".toList, isBlank c = false) ∧
    ∃ block expansion,
      declarationBlock declarationLine Dialect.rust.lineFormat [⟨"1", "ab"⟩] = .ok block ∧
      ¬ "abab".toList <:+: block.toList ∧
      expand declarationLine Dialect.rust.lineFormat "abab" "ababab" [⟨"1", "ab"⟩] = .ok expansion ∧
      ¬ "abab".toList <:+: expansion.text.toList ∧
      expand declarationLine Dialect.csharp.lineFormat "abab" expansion.text [⟨"1", "ab"⟩] =
        .ok ⟨expansion.text, 0⟩ := by
  have present : [Definition.mk "1" "ab"] ≠ [] := List.cons_ne_nil _ _
  have notEmpty : "abab" ≠ "" := by decide
  have noBlank : ∀ c ∈ "abab".toList, isBlank c = false := by
    have all : "abab".toList.all (fun c => !isBlank c) = true := by decide
    simpa using all
  obtain ⟨block, given, lines⟩ := declarationBlock_dialect .rust [⟨"1", "ab"⟩]
  obtain ⟨otherBlock, otherGiven, -⟩ := declarationBlock_dialect .csharp [⟨"1", "ab"⟩]
  have blockFree : ¬ "abab".toList <:+: block.toList := by
    rw [lines]
    decide +kernel
  obtain ⟨expansion, expanded, gone, again⟩ :=
    placeholder_is_consumed .rust "abab" "ababab" block _ present notEmpty noBlank given blockFree
  exact ⟨present, notEmpty, noBlank, block, expansion, given, blockFree, expanded, gone,
    again _ _ _ otherBlock otherGiven⟩

end Codebook
