import Codebook.Dialect
import Codebook.Proofs.Definition.Scanning
import Codebook.Proofs.Expansion
import Codebook.Proofs.Template.Slots

/-!
# The lines of the dialects

A dialect writes a definition between three texts of its own: one before the name, one between the name
and the code, and one after the code. It does so for every definition, so a dialect never fails.

The names and codes that are scanned have characters that the texts around them do not start with. So
a line says where its name and its code end, and the lines of several definitions can be taken apart
again in one way only, without knowing how many there are.
-/

namespace Codebook

open Text Grammar Template

/-! ## Lines -/

/-- What a dialect writes before the name of a definition. -/
def Dialect.opening : Dialect → String
  | .csharp => "\tpublic const "
  | .rust => "    pub const "

/-- What a dialect writes between the name and the code. -/
def Dialect.between : Dialect → String
  | .csharp => " = "
  | .rust => ": u32 = "

/-- What a dialect writes after the code. -/
def Dialect.closing : Dialect → String
  | .csharp | .rust => ";\n"

/-- The parts of the line format of a dialect. -/
def Dialect.slots (dialect : Dialect) : List (Slot × Nat) :=
  [(.text dialect.opening, 1), (.field .name, 1), (.text dialect.between, 1), (.field .code, 1),
    (.text dialect.closing, 1)]

/-- The line of a definition in a dialect. -/
def Dialect.line (dialect : Dialect) (definition : Definition) : List Char :=
  dialect.opening.toList ++ (definition.name.toList ++ (dialect.between.toList ++
    (definition.code.toList ++ dialect.closing.toList)))

/-- The line format of a dialect is read as its parts. -/
theorem readTemplate_dialect (dialect : Dialect) :
    readTemplate dialect.lineFormat =
      .ok (dialect.slots.map fun (slot, line) => slot.statement line) := by
  cases dialect <;> rfl

/-- The declaration line of a definition in a dialect, whatever the definition holds. -/
theorem declarationLine_dialect (dialect : Dialect) (definition : Definition) :
    declarationLine dialect.lineFormat definition = .ok (String.ofList (dialect.line definition)) := by
  rw [declarationLine, render, readTemplate_dialect]
  refine (renderStatements_slots dialect.slots definition).trans (congrArg Except.ok ?_)
  rw [← String.toList_inj, String.toList_join, String.toList_ofList]
  simp [Dialect.slots, Slot.shown, Field.value, Dialect.line]

/-- The block of some definitions in a dialect is that of their lines. -/
theorem declarationBlock_dialect (dialect : Dialect) (definitions : List Definition) :
    ∃ block, declarationBlock declarationLine dialect.lineFormat definitions = .ok block ∧
      block.toList = definitions.flatMap dialect.line := by
  have written : ∀ definition ∈ definitions, declarationLine dialect.lineFormat definition =
      .ok (String.ofList (dialect.line definition)) :=
    fun definition _ => declarationLine_dialect dialect definition
  refine ⟨_, declarationBlock_of_lines written, ?_⟩
  rw [toList_block, List.flatMap_map]
  simp only [String.toList_ofList]

/-! ## Scanned definitions -/

/-- A definition as it can be scanned: its code and its name are written as the grammar says. -/
structure Definition.Lexical (definition : Definition) : Prop where
  isCode : IsCode definition.code.toList
  isName : IsName definition.name.toList

/-- Every definition that is scanned is written as the grammar says. -/
theorem lexical_of_scan {text : String} {definitions : List Definition}
    (accepted : scan text = .ok definitions) {definition : Definition}
    (member : definition ∈ definitions) : definition.Lexical := by
  obtain ⟨pieces, -, -, rfl⟩ := pieces_of_scanFrom (scan_eq_ok_iff.mp accepted)
  obtain ⟨piece, -, given⟩ := List.mem_flatMap.mp member
  cases piece with
  | blank | lineComment | blockComment => cases given
  | entry held =>
    obtain rfl := List.mem_singleton.mp given
    exact ⟨by simpa [Entry.definition] using held.isCode, by simpa [Entry.definition] using held.isName⟩

/-- The characters of codes. -/
def isCodePart (c : Char) : Bool :=
  isDecimalDigit c || c = '_'

/-- A code has only characters of codes in it. -/
theorem code_parts {code : List Char} (isCode : IsCode code) : ∀ c ∈ code, isCodePart c = true := by
  obtain ⟨d, tail, rfl, isDigit, more⟩ := is_code_iff.mp isCode
  have digitPart {e : Char} (isDigit : isDecimalDigit e = true) : isCodePart e = true := by
    simp [isCodePart, isDigit]
  refine List.forall_mem_cons.mpr ⟨digitPart isDigit, ?_⟩
  clear isCode
  induction more with
  | nothing => simp
  | digit e tail isDigit more ih => exact List.forall_mem_cons.mpr ⟨digitPart isDigit, ih⟩
  | group e tail isDigit more ih =>
    exact List.forall_mem_cons.mpr ⟨by decide, List.forall_mem_cons.mpr ⟨digitPart isDigit, ih⟩⟩

/-- A name has only characters of names in it. -/
theorem name_parts {name : List Char} (isName : IsName name) : ∀ c ∈ name, isNamePart c = true := by
  obtain ⟨first, rest, rfl, start, all⟩ := isName
  exact List.forall_mem_cons.mpr ⟨name_part_of_start start, all⟩

/-! ## Reading lines back -/

/-- What stands behind a name in a line ends it. -/
theorem Dialect.between_stops (dialect : Dialect) (rest : List Char) :
    Stops isNamePart (dialect.between.toList ++ rest) := by
  cases dialect <;> exact stops_cons (by decide) _

/-- What stands behind a code in a line ends it. -/
theorem Dialect.closing_stops (dialect : Dialect) (rest : List Char) :
    Stops isCodePart (dialect.closing.toList ++ rest) := by
  cases dialect <;> exact stops_cons (by decide) _

/-- A line gives its definition back, whatever stands behind it. -/
theorem Dialect.line_append_inj (dialect : Dialect) {definition other : Definition}
    (lexical : definition.Lexical) (otherLexical : other.Lexical) {rest behind : List Char}
    (same : dialect.line definition ++ rest = dialect.line other ++ behind) :
    definition = other ∧ rest = behind := by
  simp only [Dialect.line, List.append_assoc] at same
  obtain ⟨sameName, same⟩ := run_unique (name_parts lexical.isName) (name_parts otherLexical.isName)
    (dialect.between_stops _) (dialect.between_stops _) (List.append_cancel_left same)
  obtain ⟨sameCode, same⟩ := run_unique (code_parts lexical.isCode) (code_parts otherLexical.isCode)
    (dialect.closing_stops _) (dialect.closing_stops _) (List.append_cancel_left same)
  refine ⟨?_, List.append_cancel_left same⟩
  cases definition
  cases other
  rw [String.toList_inj] at sameName sameCode
  exact congrArg₂ Definition.mk sameCode sameName

/-- No line is empty. -/
theorem Dialect.line_ne_nil (dialect : Dialect) (definition : Definition) :
    dialect.line definition ≠ [] := by
  cases dialect <;> exact List.cons_ne_nil _ _

/-- Lines of scanned definitions, one after the other, give the definitions back in their order.

Proof: where the one list ends the other one ends as well, since a line is not empty. -/
theorem Dialect.lines_injective (dialect : Dialect) {definitions others : List Definition}
    (lexical : ∀ definition ∈ definitions, definition.Lexical)
    (otherLexical : ∀ other ∈ others, other.Lexical)
    (same : definitions.flatMap dialect.line = others.flatMap dialect.line) :
    definitions = others := by
  induction definitions generalizing others with
  | nil =>
    cases others with
    | nil => rfl
    | cons other others => simp [dialect.line_ne_nil] at same
  | cons definition definitions ih =>
    cases others with
    | nil => simp [dialect.line_ne_nil] at same
    | cons other others =>
      rw [List.flatMap_cons, List.flatMap_cons] at same
      obtain ⟨lexicalFirst, lexicalRest⟩ := List.forall_mem_cons.mp lexical
      obtain ⟨otherFirst, otherRest⟩ := List.forall_mem_cons.mp otherLexical
      obtain ⟨rfl, sameRest⟩ := dialect.line_append_inj lexicalFirst otherFirst same
      rw [ih lexicalRest otherRest sameRest]

end Codebook
