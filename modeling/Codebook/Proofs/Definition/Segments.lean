import Codebook.Proofs.Definition.Rejection
import Codebook.Proofs.Expansion

/-!
# Texts that are joined line by line

Accepted texts that are written one below the other, each with a line feed behind it, are scanned as
if each were alone. The line feed ends a line comment that a text may end with, and no other piece
goes on over the end of a text. What stands below them is scanned as if it were alone as well, only
that its lines are counted on: a stray character in it is further down by the lines of the texts
above, in the same column.

The order of the texts above therefore decides the order of the definitions and of their lines in a
block. It decides nothing about what is found below.
-/

namespace Codebook.Grammar

open Text

/-! ## One text above another -/

/-- An accepted text with the definitions that it gives. -/
structure Segment where
  text : String
  definitions : List Definition
  accepted : scan text = .ok definitions

/-- The lines that a text takes up, with the line feed that is put behind it. -/
def Segment.lines (segment : Segment) : Nat :=
  segment.text.toList.count '\n' + 1

/-- The stray character with more lines above it. -/
def stepDown (lines : Nat) (stray : Stray) : Stray :=
  ⟨stray.character, stray.position.below lines⟩

/-- The scan of an accepted text with a line feed behind it goes on behind the line feed. -/
theorem Segment.scanFrom_append (segment : Segment) (rest : List Char) :
    scanFrom (segment.text.toList ++ '\n' :: rest) =
      (scanFrom rest).map (segment.definitions ++ ·) := by
  obtain ⟨pieces, split, laid, given⟩ := pieces_of_scanFrom (scan_eq_ok_iff.mp segment.accepted)
  have feed : isBlank '\n' = true := by decide
  have standing : Laid pieces ('\n' :: rest) := laid.before_line_end (.inr rfl)
  rw [split, given, scanFrom_pieces standing, scanFrom_of_blank feed]

/-- The scan of a text below an accepted one gives the definitions of both, or the stray character of
the text below, in its place in the whole. -/
theorem Segment.scan_above (segment : Segment) (rest : String) :
    scan (segment.text ++ ("\n" ++ rest)) =
      ((scan rest).map (segment.definitions ++ ·)).mapError (stepDown segment.lines) := by
  have joined : (segment.text ++ ("\n" ++ rest)).toList = segment.text.toList ++ '\n' :: rest.toList := by
    simp
  cases alone : scanFrom rest.toList with
  | ok definitions =>
    have whole : scanFrom (segment.text ++ ("\n" ++ rest)).toList =
        .ok (segment.definitions ++ definitions) := by
      rw [joined, segment.scanFrom_append, alone]
      rfl
    rw [scan_eq_ok_iff.mpr whole, scan_eq_ok_iff.mpr alone]
    rfl
  | error left =>
    have whole : scanFrom (segment.text ++ ("\n" ++ rest)).toList = .error left := by
      rw [joined, segment.scanFrom_append, alone]
      rfl
    -- Both texts are left with the same rest; only what stands before it is longer in the whole.
    obtain ⟨pieces, split, -, -⟩ := stuck_of_scanFrom alone
    have splitWhole : (segment.text ++ ("\n" ++ rest)).toList =
        (segment.text.toList ++ '\n' :: textOf pieces) ++ left := by
      rw [joined, split, List.append_assoc, List.cons_append]
    rw [scan_error_of_rest split alone, scan_error_of_rest splitWhole whole, atStartOf_append,
      atStartOf_append, Position.after_append_feed]
    rfl

/-! ## Any number of texts above another -/

/-- Texts one below the other, each with a line feed behind it, and a last text below them. -/
def joined : List Segment → (rest : String) → String
  | [], rest => rest
  | segment :: segments, rest => segment.text ++ ("\n" ++ joined segments rest)

/-- The definitions of some texts, in the order of the texts. -/
def definitionsIn (segments : List Segment) : List Definition :=
  segments.flatMap Segment.definitions

/-- The lines that some texts take up: one for each of them, and one for each line feed in them. -/
def linesIn (segments : List Segment) : Nat :=
  segments.length + (segments.flatMap fun segment => segment.text.toList).count '\n'

/-- The first text takes up its lines, and the others take up theirs below. -/
theorem linesIn_cons (segment : Segment) (segments : List Segment) :
    linesIn (segment :: segments) = linesIn segments + segment.lines := by
  simp only [linesIn, Segment.lines, List.flatMap_cons, List.count_append, List.length_cons]
  omega

/-- The lines that texts take up do not depend on their order. -/
theorem linesIn_perm {segments others : List Segment} (permuted : segments.Perm others) :
    linesIn others = linesIn segments := by
  have sameTexts := permuted.flatMap_right fun segment => segment.text.toList
  rw [linesIn, linesIn, permuted.length_eq, sameTexts.count_eq]

/-- The definitions of texts in another order are the same ones, in another order. -/
theorem definitionsIn_perm {segments others : List Segment} (permuted : segments.Perm others) :
    (definitionsIn segments).Perm (definitionsIn others) :=
  permuted.flatMap_right Segment.definitions

/-- The scan of a text below some accepted ones gives all definitions in their order, or the stray
character of the text below, in its place in the whole.

Proof: induction on the texts above, each of which is above all that follow it. -/
theorem scan_joined (segments : List Segment) (rest : String) :
    scan (joined segments rest) =
      ((scan rest).map (definitionsIn segments ++ ·)).mapError (stepDown (linesIn segments)) := by
  induction segments with
  | nil =>
    cases alone : scan rest with
    | ok definitions => simp [joined, alone, definitionsIn, Except.map, Except.mapError]
    | error stray => simp [joined, alone, linesIn, stepDown, Position.below, Except.map, Except.mapError]
  | cons segment segments ih =>
    rw [joined, segment.scan_above, ih]
    cases scan rest with
    | ok definitions => simp [definitionsIn, Except.map, Except.mapError]
    | error stray => simp [linesIn_cons, stepDown, Except.map, Except.mapError]

/-- Below accepted texts, an accepted text adds its definitions to theirs. A text that is rejected
below them is rejected with the same character as alone, in the same column, and on a line that is
further down by one for each text above and one for each line feed in these texts.

In another order the texts above give the same definitions in another order, and so the same lines of
a block; the line of a definition does not depend on the order. What is below them gives the same
definitions and lines behind theirs, or is rejected at the same place. -/
theorem joined_texts_are_scanned_apart (segments : List Segment) (rest : String) :
    (∀ definitions, scan rest = .ok definitions →
      scan (joined segments rest) = .ok (definitionsIn segments ++ definitions)) ∧
    (∀ stray, scan rest = .error stray → ∃ below, scan (joined segments rest) = .error below ∧
      below.character = stray.character ∧ below.codePoint = stray.codePoint ∧
      below.position.line = stray.position.line + segments.length +
        (segments.flatMap fun segment => segment.text.toList).count '\n' ∧
      below.position.column = stray.position.column) ∧
    ∀ others : List Segment, segments.Perm others →
      (∀ stray, scan rest = .error stray → scan (joined others rest) = scan (joined segments rest)) ∧
      ∀ definitions, scan rest = .ok definitions →
        scan (joined others rest) = .ok (definitionsIn others ++ definitions) ∧
        (definitionsIn segments).Perm (definitionsIn others) ∧
        ∀ (ε : Type) (writer : LineWriter ε) (lineFormat block : String),
          declarationBlock writer lineFormat (definitionsIn segments ++ definitions) = .ok block →
          ∃ lineOf : Definition → String,
            (∀ definition ∈ definitionsIn segments ++ definitions,
              writer lineFormat definition = .ok (lineOf definition)) ∧
            block = "".intercalate ((definitionsIn segments ++ definitions).map lineOf) ∧
            declarationBlock writer lineFormat (definitionsIn others ++ definitions) =
              .ok ("".intercalate ((definitionsIn others ++ definitions).map lineOf)) := by
  have found (above : List Segment) {definitions : List Definition}
      (accepted : scan rest = .ok definitions) :
      scan (joined above rest) = .ok (definitionsIn above ++ definitions) := by
    rw [scan_joined, accepted]
    rfl
  have missed (above : List Segment) {stray : Stray} (rejected : scan rest = .error stray) :
      scan (joined above rest) = .error (stepDown (linesIn above) stray) := by
    rw [scan_joined, rejected]
    rfl
  refine ⟨fun definitions accepted => found segments accepted, ?_, ?_⟩
  · intro stray rejected
    refine ⟨_, missed segments rejected, rfl, rfl, ?_, rfl⟩
    rw [Nat.add_assoc]
    rfl
  · intro others permuted
    constructor
    · intro stray rejected
      rw [missed others rejected, missed segments rejected, linesIn_perm permuted]
    · intro definitions accepted
      refine ⟨found others accepted, definitionsIn_perm permuted, ?_⟩
      intro ε writer lineFormat block given
      exact declarationBlock_perm ((definitionsIn_perm permuted).append_right definitions) given

/-- A text that ends with a line comment and one with a line feed in its message stand above a third
one. A number sign in it is found three lines further down. If the first two change places, so do
their lines, which are their names here. -/
theorem exchanged_texts_exchange_lines :
    ∃ first second : Segment, first.text = "1 A=\"\"; // x" ∧ second.text = "2 B=\"\n\";" ∧
      scan " #" = .error ⟨'#', ⟨1, 2⟩⟩ ∧
      (∃ below, scan (joined [first, second] " #") = .error below ∧ below.character = '#' ∧
        below.position.line = 4 ∧ below.position.column = 2) ∧
      [first, second].Perm [second, first] ∧
      scan "3 C=\"\";" = .ok [⟨"3", "C"⟩] ∧
      scan (joined [second, first] "3 C=\"\";") = .ok [⟨"2", "B"⟩, ⟨"1", "A"⟩, ⟨"3", "C"⟩] ∧
      ∃ (writer : LineWriter Empty) (lineOf : Definition → String),
        declarationBlock writer "" (definitionsIn [first, second] ++ [⟨"3", "C"⟩]) = .ok "ABC" ∧
        declarationBlock writer "" (definitionsIn [second, first] ++ [⟨"3", "C"⟩]) = .ok "BAC" ∧
        "BAC" = "".intercalate ([⟨"2", "B"⟩, ⟨"1", "A"⟩, ⟨"3", "C"⟩].map lineOf) := by
  obtain ⟨first, firstText, firstGives⟩ : ∃ first : Segment, first.text = "1 A=\"\"; // x" ∧
      first.definitions = [⟨"1", "A"⟩] := ⟨⟨_, _, by decide +kernel⟩, rfl, rfl⟩
  obtain ⟨second, secondText, secondGives⟩ : ∃ second : Segment, second.text = "2 B=\"\n\";" ∧
      second.definitions = [⟨"2", "B"⟩] := ⟨⟨_, _, by decide +kernel⟩, rfl, rfl⟩
  have inOrder : definitionsIn [first, second] = [⟨"1", "A"⟩, ⟨"2", "B"⟩] := by
    simp [definitionsIn, firstGives, secondGives]
  have inOtherOrder : definitionsIn [second, first] = [⟨"2", "B"⟩, ⟨"1", "A"⟩] := by
    simp [definitionsIn, firstGives, secondGives]
  have stray : scan " #" = .error ⟨'#', ⟨1, 2⟩⟩ := by decide +kernel
  have last : scan "3 C=\"\";" = .ok [⟨"3", "C"⟩] := by decide +kernel
  have exchanged : [first, second].Perm [second, first] := .swap second first []
  obtain ⟨-, rejected, -⟩ := joined_texts_are_scanned_apart [first, second] " #"
  obtain ⟨below, reported, character, -, line, column⟩ := rejected _ stray
  have fourth : below.position.line = 4 := by
    rw [line]
    simp [firstText, secondText]
  obtain ⟨-, -, reordered⟩ := joined_texts_are_scanned_apart [first, second] "3 C=\"\";"
  obtain ⟨-, accepted⟩ := reordered _ exchanged
  obtain ⟨scanned, -, blocks⟩ := accepted _ last
  rw [inOtherOrder] at scanned
  have given : declarationBlock (fun _ definition => .ok definition.name : LineWriter Empty) ""
      (definitionsIn [first, second] ++ [⟨"3", "C"⟩]) = .ok "ABC" := by
    rw [inOrder]
    decide +kernel
  have otherGiven : declarationBlock (fun _ definition => .ok definition.name : LineWriter Empty) ""
      (definitionsIn [second, first] ++ [⟨"3", "C"⟩]) = .ok "BAC" := by
    rw [inOtherOrder]
    decide +kernel
  obtain ⟨lineOf, -, -, otherLines⟩ := blocks _ _ _ _ given
  have sameBlock := Except.ok.inj (otherGiven.symm.trans otherLines)
  rw [inOtherOrder] at sameBlock
  exact ⟨first, second, firstText, secondText, stray, ⟨below, reported, character, fourth, column⟩,
    exchanged, last, scanned, _, lineOf, given, otherGiven, sameBlock⟩

end Codebook.Grammar
