import Codebook.Expansion
import Codebook.Proofs.Text.Occurrence

/-!
# What an expanded template is

The lines are written one after the other, and the first one that cannot be written is the failure
of the whole. Nothing is asked of the writer but that it answers each definition in one way.

The block of all lines stands in place of the occurrences that cut the template. It is put in as it
is: what it holds is not searched, and neither is what it forms together with the parts of the
template around it.
-/

namespace Codebook

open Text

/-! ## Lines -/

section Lines

variable {α β ε : Type} {f : α → Except ε β}

/-- Going through some items, `f` fails for one of them with this fault and for none before it. -/
def FirstFault (f : α → Except ε β) (items : List α) (fault : ε) : Prop :=
  ∃ before item after, items = before ++ item :: after ∧
    (∀ earlier ∈ before, ∃ result, f earlier = .ok result) ∧ f item = .error fault

/-- Some items have a first fault, or a result for each of them. -/
theorem firstFault_or_results (f : α → Except ε β) (items : List α) :
    (∃ fault, FirstFault f items fault) ∨ ∃ results : List β, items.map f = results.map .ok := by
  induction items with
  | nil => exact .inr ⟨[], rfl⟩
  | cons item items ih =>
    cases answer : f item with
    | error fault => exact .inl ⟨fault, [], item, items, rfl, by simp, answer⟩
    | ok result =>
      rcases ih with ⟨fault, before, failing, after, rfl, fine, failed⟩ | ⟨results, same⟩
      · exact .inl ⟨fault, item :: before, failing, after, rfl,
          List.forall_mem_cons.mpr ⟨⟨result, answer⟩, fine⟩, failed⟩
      · exact .inr ⟨result :: results, by simp [answer, same]⟩

/-- Items with a result each are gone through to the end. -/
theorem mapM_of_results {items : List α} {results : List β} (same : items.map f = results.map .ok) :
    items.mapM f = .ok results := by
  induction items generalizing results with
  | nil =>
    obtain rfl := List.map_eq_nil_iff.mp same.symm
    rfl
  | cons item items ih =>
    obtain ⟨result, others, rfl, first, rest⟩ := List.map_eq_cons_iff.mp same.symm
    rw [List.mapM_cons, ← first, ih rest.symm]
    rfl

/-- Items are gone through up to the first fault. -/
theorem mapM_of_firstFault {items : List α} {fault : ε} (first : FirstFault f items fault) :
    items.mapM f = .error fault := by
  obtain ⟨before, item, after, rfl, fine, failed⟩ := first
  induction before with
  | nil =>
    rw [List.nil_append, List.mapM_cons, failed]
    rfl
  | cons earlier before ih =>
    obtain ⟨⟨result, answer⟩, others⟩ := List.forall_mem_cons.mp fine
    rw [List.cons_append, List.mapM_cons, answer, ih others]
    rfl

end Lines

/-! ## Blocks -/

/-- The characters of some lines, one after the other. -/
theorem toList_block (lines : List String) :
    ("".intercalate lines).toList = lines.flatMap String.toList := by
  rw [String.toList_intercalate]
  induction lines with
  | nil => rfl
  | cons line lines ih => cases lines <;> simp_all [List.intercalate_cons_cons]

variable {ε : Type} {writer : LineWriter ε} {lineFormat placeholder template : String}
  {definitions : List Definition}

/-- Definitions that can all be written give the block of their lines. -/
theorem declarationBlock_of_lines {lineOf : Definition → String}
    (written : ∀ definition ∈ definitions, writer lineFormat definition = .ok (lineOf definition)) :
    declarationBlock writer lineFormat definitions =
      .ok ("".intercalate (definitions.map lineOf)) := by
  have same : definitions.map (writer lineFormat) = (definitions.map lineOf).map .ok := by
    rw [List.map_map]
    exact List.map_congr_left written
  rw [declarationBlock, mapM_of_results same]
  rfl

/-- A block that is written is that of the lines of its definitions. -/
theorem exists_lines_of_block {block : String}
    (given : declarationBlock writer lineFormat definitions = .ok block) :
    ∃ lineOf : Definition → String,
      (∀ definition ∈ definitions, writer lineFormat definition = .ok (lineOf definition)) ∧
      block = "".intercalate (definitions.map lineOf) := by
  have written : ∀ definition ∈ definitions, ∃ line, writer lineFormat definition = .ok line := by
    rcases firstFault_or_results (writer lineFormat) definitions with ⟨fault, first⟩ | ⟨lines, same⟩
    · rw [declarationBlock, mapM_of_firstFault first] at given
      cases given
    · intro definition member
      have answered : writer lineFormat definition ∈ lines.map .ok :=
        same ▸ List.mem_map_of_mem member
      obtain ⟨line, -, answer⟩ := List.mem_map.mp answered
      exact ⟨line, answer.symm⟩
  refine ⟨fun definition => (writer lineFormat definition).toOption.getD "", ?_⟩
  have answers : ∀ definition ∈ definitions, writer lineFormat definition =
      .ok ((writer lineFormat definition).toOption.getD "") := by
    intro definition member
    obtain ⟨line, answer⟩ := written definition member
    rw [answer]
    rfl
  refine ⟨answers, ?_⟩
  have again := declarationBlock_of_lines answers
  rw [given] at again
  exact Except.ok.inj again

/-- Definitions in another order have the same lines, in that order. -/
theorem declarationBlock_perm {others : List Definition} {block : String}
    (permuted : definitions.Perm others)
    (given : declarationBlock writer lineFormat definitions = .ok block) :
    ∃ lineOf : Definition → String,
      (∀ definition ∈ definitions, writer lineFormat definition = .ok (lineOf definition)) ∧
      block = "".intercalate (definitions.map lineOf) ∧
      declarationBlock writer lineFormat others = .ok ("".intercalate (others.map lineOf)) := by
  obtain ⟨lineOf, written, same⟩ := exists_lines_of_block given
  have otherWritten : ∀ other ∈ others, writer lineFormat other = .ok (lineOf other) := by
    intro other member
    exact written other (permuted.mem_iff.mpr member)
  exact ⟨lineOf, written, same, declarationBlock_of_lines otherWritten⟩

/-- The first line that cannot be written is the failure of the expansion, whatever the template
holds. -/
theorem expand_of_firstFault {fault : ε}
    (first : FirstFault (writer lineFormat) definitions fault) :
    expand writer lineFormat placeholder template definitions = .error fault := by
  rw [expand, declarationBlock, mapM_of_firstFault first]
  rfl

/-- If all lines can be written, their block is put in. -/
theorem expand_of_lines {lines : List String}
    (written : definitions.map (writer lineFormat) = lines.map .ok) :
    expand writer lineFormat placeholder template definitions =
      .ok (putBlock placeholder ("".intercalate lines) template) := by
  rw [expand, declarationBlock, mapM_of_results written]
  rfl

/-- A block stands behind every part of the template's cut but the last one, where the placeholder
stood. The count is that of these parts. -/
theorem putBlock_of_cut (block : String) {p : Char} {ps : List Char}
    (same : placeholder.toList = p :: ps) {parts : List (List Char)} {last : List Char}
    (cut : Cut (p :: ps) parts last template.toList) :
    (putBlock placeholder block template).text.toList =
        parts.flatMap (· ++ block.toList) ++ last ∧
      (putBlock placeholder block template).replacements = parts.length := by
  have counted : occurrences placeholder.toList template.toList = parts.length := by
    rw [same]
    exact cut.countFrom_eq
  refine ⟨?_, counted⟩
  simp only [putBlock, counted]
  split
  · next none =>
    obtain rfl := List.eq_nil_of_length_eq_zero none
    exact cut.joined
  · rw [String.toList_ofList, same]
    exact cut.replaceFrom_eq block.toList

/-- An empty placeholder has the block put in before every character, and at the end. -/
theorem putBlock_empty (block template : String) :
    (putBlock "" block template).text.toList =
        block.toList ++ template.toList.flatMap (· :: block.toList) ∧
      (putBlock "" block template).replacements = template.toList.length + 1 := by
  have counted : occurrences "".toList template.toList = template.toList.length + 1 := rfl
  refine ⟨?_, counted⟩
  simp only [putBlock, counted]
  rw [if_neg (Nat.succ_ne_zero _)]
  exact String.toList_ofList

/-- A template without the placeholder is expanded to itself. -/
theorem putBlock_absent {placeholder block template : String}
    (absent : ¬ placeholder.toList <:+: template.toList) :
    putBlock placeholder block template = ⟨template, 0⟩ := by
  have none : occurrences placeholder.toList template.toList = 0 := occurrences_eq_zero_iff.mpr absent
  simp only [putBlock, none, if_true]

/-- A text is a template with a block in place of the placeholder, this many times. A placeholder that
is not empty stands behind every part of the template's cut but the last one; an empty one stands before
every character and at the end. -/
structure Filled (placeholder : String) (block : List Char) (template text : String)
    (count : Nat) : Prop where
  cut : placeholder ≠ "" → ∃ parts last, Cut placeholder.toList parts last template.toList ∧
    text.toList = parts.flatMap (· ++ block) ++ last ∧ count = parts.length
  empty : placeholder = "" →
    text.toList = block ++ template.toList.flatMap (· :: block) ∧ count = template.toList.length + 1

/-- Putting a block into a template fills the template with it. -/
theorem filled_putBlock (placeholder block template : String) :
    Filled placeholder block.toList template (putBlock placeholder block template).text
      (putBlock placeholder block template).replacements := by
  refine ⟨fun notEmpty => ?_, ?_⟩
  · obtain ⟨p, ps, same⟩ := List.exists_cons_of_ne_nil fun none =>
      notEmpty (String.toList_eq_nil_iff.mp none)
    obtain ⟨parts, last, cut⟩ := exists_cut p ps template.toList
    obtain ⟨text, count⟩ := putBlock_of_cut block same cut
    exact ⟨parts, last, same ▸ cut, text, count⟩
  · rintro rfl
    exact putBlock_empty block template

/-- Either the first line that cannot be written is the failure, or all lines are written and their
block is put into the template. If the placeholder is not empty, the template has exactly one cut at
it; the block stands where the placeholder stood, the count is that of these places, and it is zero
exactly if the placeholder does not occur, which leaves the template as it is. If the placeholder is
empty, the block stands before every character of the template and at its end. -/
theorem expand_meaning {ε : Type} (writer : LineWriter ε) (lineFormat placeholder template : String)
    (definitions : List Definition) :
    (∃ fault, FirstFault (writer lineFormat) definitions fault ∧
      expand writer lineFormat placeholder template definitions = .error fault) ∨
    ∃ lines : List String, definitions.map (writer lineFormat) = lines.map .ok ∧
      ∃ expansion, expand writer lineFormat placeholder template definitions = .ok expansion ∧
        (placeholder ≠ "" → ∃ parts last,
          Cut placeholder.toList parts last template.toList ∧
          (∀ others other, Cut placeholder.toList others other template.toList →
            others = parts ∧ other = last) ∧
          expansion.text.toList =
            parts.flatMap (· ++ lines.flatMap String.toList) ++ last ∧
          expansion.replacements = parts.length ∧
          (expansion.replacements = 0 ↔ ¬ placeholder.toList <:+: template.toList) ∧
          (expansion.replacements = 0 → expansion.text = template)) ∧
        (placeholder = "" →
          expansion.text.toList = lines.flatMap String.toList ++
            template.toList.flatMap (· :: lines.flatMap String.toList) ∧
          expansion.replacements = template.toList.length + 1) := by
  rcases firstFault_or_results (writer lineFormat) definitions with ⟨fault, first⟩ | ⟨lines, written⟩
  · exact .inl ⟨fault, first, expand_of_firstFault first⟩
  · refine .inr ⟨lines, written, _, expand_of_lines written, fun notEmpty => ?_, ?_⟩
    · obtain ⟨p, ps, same⟩ := List.exists_cons_of_ne_nil fun none =>
        notEmpty (String.toList_eq_nil_iff.mp none)
      obtain ⟨parts, last, cut⟩ := exists_cut p ps template.toList
      obtain ⟨text, count⟩ := putBlock_of_cut ("".intercalate lines) same cut
      rw [toList_block] at text
      rw [same]
      refine ⟨parts, last, cut, fun others other again => cut.unique again, text, count, ?_, ?_⟩
      · rw [count, List.length_eq_zero_iff, cut.eq_nil_iff]
      · intro none
        obtain rfl := List.eq_nil_of_length_eq_zero (count.symm.trans none)
        exact String.toList_inj.mp (text.trans cut.joined.symm)
    · rintro rfl
      rw [← toList_block]
      exact putBlock_empty _ template

end Codebook
