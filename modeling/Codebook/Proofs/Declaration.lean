import Codebook.Proofs.Dialect

/-!
# Lines as declarations

A line of a dialect is to be a declaration: an identifier that is bound to an integer literal. The names
that are scanned are identifiers. The codes are literals only if they are written with the ten digits of
ASCII. Texts may have codes with the digits of any other script as well; such a code is written into
the line as it stands, and the line is no declaration then.
-/

namespace Codebook

open Text Grammar

/-- A decimal integer literal: ASCII digits in groups that are not empty, with single underscores between
the groups. -/
def IsLiteral (text : List Char) : Prop :=
  ∃ groups : List (List Char), groups ≠ [] ∧
    (∀ group ∈ groups, group ≠ [] ∧ ∀ c ∈ group, c.isDigit = true) ∧
    text = List.intercalate ['_'] groups

/-- One complete declaration of a dialect, up to the end of its line. -/
def Dialect.Declares (dialect : Dialect) (line : List Char) : Prop :=
  ∃ name literal, IsName name ∧ IsLiteral literal ∧
    line = dialect.opening.toList ++ (name ++ (dialect.between.toList ++
      (literal ++ dialect.closing.toList)))

/-- The characters of ASCII. -/
def IsAscii (text : List Char) : Prop :=
  ∀ c ∈ text, c.toNat < 128

instance (text : List Char) : Decidable (IsAscii text) :=
  List.decidableBAll (fun c : Char => c.toNat < 128) text

/-- The ASCII digits are the decimal digits among the characters of ASCII. All other ranges of decimal
digits start later. -/
theorem isDigit_iff (c : Char) : c.isDigit = true ↔ isDecimalDigit c = true ∧ c.toNat < 128 := by
  have bounds : c.isDigit = true ↔ 48 ≤ c.toNat ∧ c.toNat ≤ 57 := by
    simp only [Char.isDigit, Bool.and_eq_true, decide_eq_true_eq, UInt32.le_iff_toNat_le]
    rfl
  have first : decimalDigitRanges = ⟨0x30, 0x39, 1⟩ :: decimalDigitRanges.tail := rfl
  rw [bounds]
  constructor
  · intro inside
    have contained : (CodeRange.mk 0x30 0x39 1).contains c.toNat = true := by
      simp [CodeRange.contains, inside, Nat.mod_one]
    rw [isDecimalDigit, inRanges, first, List.any_cons, contained]
    exact ⟨rfl, by omega⟩
  · rintro ⟨digit, ascii⟩
    have later : ∀ range ∈ decimalDigitRanges.tail, 128 ≤ range.first := by decide
    obtain ⟨range, member, inRange⟩ := within_range digit
    rw [first, List.mem_cons] at member
    rcases member with rfl | member
    · exact inRange
    · have := later range member
      omega

theorem isAscii_append {text other : List Char} :
    IsAscii (text ++ other) ↔ IsAscii text ∧ IsAscii other :=
  List.forall_mem_append

/-- The underscores between groups are characters of ASCII. -/
theorem isAscii_groups (groups : List (List Char)) :
    IsAscii (List.intercalate ['_'] groups) ↔ ∀ group ∈ groups, IsAscii group := by
  induction groups with
  | nil => simp [IsAscii]
  | cons group groups ih =>
    cases groups with
    | nil => simp
    | cons next groups =>
      have underscore : IsAscii ['_'] := by simp [IsAscii]
      rw [List.intercalate_cons_cons, isAscii_append, isAscii_append, ih,
        List.forall_mem_cons (a := group), and_iff_left underscore]

/-- The literals are the codes of ASCII characters. -/
theorem isLiteral_iff {text : List Char} : IsLiteral text ↔ IsCode text ∧ IsAscii text := by
  constructor
  · rintro ⟨groups, notEmpty, allGroups, rfl⟩
    have digits (group) (member : group ∈ groups) (c) (inGroup : c ∈ group) :=
      (isDigit_iff c).mp ((allGroups group member).2 c inGroup)
    refine ⟨⟨groups, notEmpty, fun group member => ⟨(allGroups group member).1, ?_⟩, rfl⟩,
      (isAscii_groups groups).mpr fun group member => ?_⟩
    · exact fun c inGroup => (digits group member c inGroup).1
    · exact fun c inGroup => (digits group member c inGroup).2
  · rintro ⟨⟨groups, notEmpty, allGroups, rfl⟩, ascii⟩
    refine ⟨groups, notEmpty, fun group member => ⟨(allGroups group member).1, ?_⟩, rfl⟩
    intro c inGroup
    exact (isDigit_iff c).mpr
      ⟨(allGroups group member).2 c inGroup, (isAscii_groups groups).mp ascii group member c inGroup⟩

/-- The line of a scanned definition is a declaration exactly if its code is written in ASCII. A line is
read in one way only, so no other part of it can be the literal. -/
theorem Dialect.declares_line_iff (dialect : Dialect) {definition : Definition}
    (lexical : definition.Lexical) :
    dialect.Declares (dialect.line definition) ↔ IsAscii definition.code.toList := by
  constructor
  · rintro ⟨name, literal, isName, isLiteral, same⟩
    obtain ⟨isCode, ascii⟩ := isLiteral_iff.mp isLiteral
    have read : dialect.line definition ++ [] =
        dialect.line ⟨String.ofList literal, String.ofList name⟩ ++ [] := by
      simpa [Dialect.line] using same
    obtain ⟨rfl, -⟩ := dialect.line_append_inj lexical ⟨by simpa, by simpa⟩ read
    simpa using ascii
  · intro ascii
    exact ⟨_, _, lexical.isName, isLiteral_iff.mpr ⟨lexical.isCode, ascii⟩, rfl⟩

/-- In each dialect a scanned definition gives a line that binds an identifier to its code, as both are
written. The line is a declaration of the language exactly if the code has no digits but those of
ASCII. -/
theorem scanned_line_declares_iff (text : String) (definitions : List Definition)
    (accepted : scan text = .ok definitions) (definition : Definition)
    (member : definition ∈ definitions) (dialect : Dialect) :
    ∃ line, declarationLine dialect.lineFormat definition = .ok line ∧
      IsName definition.name.toList ∧ IsCode definition.code.toList ∧
      line.toList = dialect.opening.toList ++ (definition.name.toList ++ (dialect.between.toList ++
        (definition.code.toList ++ dialect.closing.toList))) ∧
      (dialect.Declares line.toList ↔ IsAscii definition.code.toList) := by
  have lexical := lexical_of_scan accepted member
  refine ⟨_, declarationLine_dialect dialect definition, lexical.isName, lexical.isCode,
    String.toList_ofList, ?_⟩
  rw [String.toList_ofList, dialect.declares_line_iff lexical]

/-- A text with two codes, of which the second one gives a declaration. -/
theorem grouped_ascii_code_is_declared :
    ∃ definitions, scan "٣ A = \"\"; 2_5 B = \"\";" = .ok definitions ∧
      ⟨"2_5", "B"⟩ ∈ definitions ∧ IsAscii "2_5".toList ∧
      ∃ line, declarationLine Dialect.rust.lineFormat ⟨"2_5", "B"⟩ = .ok line ∧
        Dialect.rust.Declares line.toList := by
  have accepted : scan "٣ A = \"\"; 2_5 B = \"\";" = .ok [⟨"٣", "A"⟩, ⟨"2_5", "B"⟩] := by
    decide +kernel
  have member : (⟨"2_5", "B"⟩ : Definition) ∈ [⟨"٣", "A"⟩, ⟨"2_5", "B"⟩] := by decide
  have ascii : IsAscii "2_5".toList := by decide
  obtain ⟨line, given, -, -, -, declares⟩ :=
    scanned_line_declares_iff _ _ accepted _ member .rust
  exact ⟨_, accepted, member, ascii, line, given, declares.mpr ascii⟩

/-- Not every line of a scanned definition is a declaration: an Arabic digit is scanned as a code and is
no literal. -/
theorem arabic_code_is_not_declared :
    ¬ ∀ (text : String) (definitions : List Definition), scan text = .ok definitions →
      ∀ definition ∈ definitions, ∀ dialect : Dialect,
        ∃ line, declarationLine dialect.lineFormat definition = .ok line ∧
          dialect.Declares line.toList := by
  intro all
  have accepted : scan "٣ A = \"a\";" = .ok [⟨"٣", "A"⟩] := by decide +kernel
  have member : (⟨"٣", "A"⟩ : Definition) ∈ [⟨"٣", "A"⟩] := by decide
  have lexical := lexical_of_scan accepted member
  obtain ⟨line, given, declares⟩ := all _ _ accepted _ member .rust
  rw [declarationLine_dialect, Except.ok.injEq] at given
  rw [← given, String.toList_ofList, Dialect.rust.declares_line_iff lexical] at declares
  exact absurd declares (by decide)

end Codebook
