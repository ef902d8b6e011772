import Codebook.Proofs.Dialect

/-!
# Definitions can be read back from what was generated

Two blocks that are put in the same places of a template can be told apart by the texts that come out,
if there is one place at least: the texts are as long as each other only if the blocks are, and then
the blocks stand at the same place. Together with the lines of a dialect, which can be read back
themselves, it follows that two generated texts are the same only if the definitions are.
-/

namespace Codebook

open Text

/-- The length of parts with a block behind each of them. -/
theorem length_parts_with (block : List Char) (parts : List (List Char)) :
    (parts.flatMap (· ++ block)).length = parts.flatten.length + parts.length * block.length := by
  induction parts with
  | nil => simp
  | cons part parts ih =>
    simp only [List.flatMap_cons, List.length_append, ih, List.flatten_cons, List.length_cons,
      Nat.succ_mul]
    omega

/-- A block that was put behind some parts of a text, one at least, is determined by what comes out. -/
theorem block_of_parts {parts : List (List Char)} (present : parts ≠ [])
    {last block other : List Char}
    (same : parts.flatMap (· ++ block) ++ last = parts.flatMap (· ++ other) ++ last) :
    block = other := by
  have joined := List.append_cancel_right same
  have lengths := congrArg List.length joined
  rw [length_parts_with, length_parts_with, Nat.add_left_cancel_iff] at lengths
  have sameLength : block.length = other.length :=
    Nat.eq_of_mul_eq_mul_left (List.length_pos_iff.mpr present) lengths
  obtain ⟨part, parts, rfl⟩ := List.exists_cons_of_ne_nil present
  simp only [List.flatMap_cons, List.append_assoc] at joined
  exact (List.append_inj (List.append_cancel_left joined) sameLength).1

/-- Blocks that are put into a template that holds the placeholder are determined by what comes out. -/
theorem putBlock_text_inj {placeholder template block other : String} (notEmpty : placeholder ≠ "")
    (held : placeholder.toList <:+: template.toList) :
    (putBlock placeholder block template).text = (putBlock placeholder other template).text ↔
      block = other := by
  refine ⟨fun same => ?_, fun same => by rw [same]⟩
  obtain ⟨p, ps, pattern⟩ := List.exists_cons_of_ne_nil fun none =>
    notEmpty (String.toList_eq_nil_iff.mp none)
  obtain ⟨parts, last, cut⟩ := exists_cut p ps template.toList
  have present : parts ≠ [] := by
    rw [Ne, cut.eq_nil_iff, not_not, ← pattern]
    exact held
  obtain ⟨text, -⟩ := putBlock_of_cut block pattern cut
  obtain ⟨otherText, -⟩ := putBlock_of_cut other pattern cut
  rw [same, otherText] at text
  exact (String.toList_inj.mp (block_of_parts present text)).symm

/-- In each dialect, and for each template that holds the placeholder, two accepted definition texts
give the same expanded text exactly if they are scanned to the same definitions. So it is with their
blocks alone: no definition is lost in a block, no two of them are merged, and their order is kept. -/
theorem expansion_determines_definitions (dialect : Dialect) (placeholder template : String)
    (notEmpty : placeholder ≠ "") (held : placeholder.toList <:+: template.toList)
    (text other : String) (definitions others : List Definition)
    (accepted : scan text = .ok definitions) (otherAccepted : scan other = .ok others) :
    (∃ expansion otherExpansion,
      expand declarationLine dialect.lineFormat placeholder template definitions = .ok expansion ∧
      expand declarationLine dialect.lineFormat placeholder template others = .ok otherExpansion ∧
      (expansion.text = otherExpansion.text ↔ scan text = scan other)) ∧
    ∃ block otherBlock,
      declarationBlock declarationLine dialect.lineFormat definitions = .ok block ∧
      declarationBlock declarationLine dialect.lineFormat others = .ok otherBlock ∧
      (block = otherBlock ↔ definitions = others) := by
  obtain ⟨block, given, lines⟩ := declarationBlock_dialect dialect definitions
  obtain ⟨otherBlock, otherGiven, otherLines⟩ := declarationBlock_dialect dialect others
  have determined : block = otherBlock ↔ definitions = others := by
    rw [← String.toList_inj, lines, otherLines]
    refine ⟨fun same => ?_, fun same => by rw [same]⟩
    exact dialect.lines_injective (fun _ member => lexical_of_scan accepted member)
      (fun _ member => lexical_of_scan otherAccepted member) same
  refine ⟨⟨_, _, by rw [expand, given]; rfl, by rw [expand, otherGiven]; rfl, ?_⟩,
    block, otherBlock, given, otherGiven, determined⟩
  rw [putBlock_text_inj notEmpty held, determined, accepted, otherAccepted, Except.ok.injEq]

/-- One underscore in a code makes another text of a template that the block is put into twice. -/
theorem separated_digits_are_told_apart :
    "P" ≠ "" ∧ "P".toList <:+: "P;P".toList ∧
    ∃ definitions others expansion otherExpansion,
      scan "10 A=\"\";" = .ok definitions ∧ scan "1_0 A=\"\";" = .ok others ∧
      expand declarationLine Dialect.rust.lineFormat "P" "P;P" definitions = .ok expansion ∧
      expand declarationLine Dialect.rust.lineFormat "P" "P;P" others = .ok otherExpansion ∧
      expansion.text ≠ otherExpansion.text := by
  have notEmpty : "P" ≠ "" := by decide
  have held : "P".toList <:+: "P;P".toList := by decide
  have accepted : scan "10 A=\"\";" = .ok [⟨"10", "A"⟩] := by decide +kernel
  have otherAccepted : scan "1_0 A=\"\";" = .ok [⟨"1_0", "A"⟩] := by decide +kernel
  obtain ⟨⟨expansion, otherExpansion, given, otherGiven, determined⟩, -⟩ :=
    expansion_determines_definitions .rust "P" "P;P" notEmpty held _ _ _ _ accepted otherAccepted
  refine ⟨notEmpty, held, _, _, expansion, otherExpansion, accepted, otherAccepted, given, otherGiven,
    fun same => ?_⟩
  rw [determined, accepted, otherAccepted] at same
  exact absurd (Except.ok.inj same) (by decide)

end Codebook
