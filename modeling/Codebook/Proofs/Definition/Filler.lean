import Codebook.Proofs.Definition.Layout

/-!
# What stands between the entries means nothing

Blanks and comments may be put in behind any accepted text that does not end inside a line comment,
whatever follows. They join neither with what stands before them nor with what stands behind them: the
text before is complete, and so are they. It does not matter what they hold, an entry or the start of
another comment, and it does not matter that the text behind them starts like the end of one.

So comments can be put in, rewritten and taken away between the entries of a text. No definition comes
or goes with them, and no stray character.
-/

namespace Codebook.Grammar

open Text

/-- What may be put between the entries of a text: blanks, as many as there are; a block comment; and
a line comment, together with the line feed that ends it. -/
inductive Filler : List Char → Prop where
  | blanks (run : List Char) (allBlank : AllBlank run) : Filler run
  | blockComment (body : List Char) (notClosed : ¬ ['*', '/'] <:+: body) :
      Filler ('/' :: '*' :: (body ++ ['*', '/']))
  | lineComment (body : List Char) (oneLine : '\n' ∉ body) :
      Filler ('/' :: '/' :: (body ++ ['\n']))

/-- Blanks are pieces that give no definitions. -/
theorem exists_blank_pieces {run : List Char} (allBlank : AllBlank run) :
    ∃ pieces, run = textOf pieces ∧ Complete pieces ∧ definitionsOf pieces = [] := by
  induction run with
  | nil => exact ⟨[], rfl, fun rest => trivial, rfl⟩
  | cons c run ih =>
    obtain ⟨blank, others⟩ := List.forall_mem_cons.mp allBlank
    obtain ⟨pieces, rfl, complete, none⟩ := ih others
    have longer : Complete (.blank c blank :: pieces) := by
      intro rest
      exact ⟨trivial, complete rest⟩
    exact ⟨.blank c blank :: pieces, rfl, longer, none⟩

/-- Filler is complete pieces that give no definitions. A line comment alone would not be complete;
the line feed behind it makes it so. -/
theorem Filler.exists_pieces {filler : List Char} (isFiller : Filler filler) :
    ∃ pieces, filler = textOf pieces ∧ Complete pieces ∧ definitionsOf pieces = [] := by
  cases isFiller with
  | blanks run allBlank => exact exists_blank_pieces allBlank
  | blockComment body notClosed =>
    have complete : Complete [.blockComment body notClosed] := by
      intro rest
      exact ⟨trivial, trivial⟩
    exact ⟨[.blockComment body notClosed], by simp [Piece.text], complete, rfl⟩
  | lineComment body oneLine =>
    have feed : isBlank '\n' = true := by decide
    have complete : Complete [.lineComment body oneLine, .blank '\n' feed] := by
      intro rest
      exact ⟨.inr rfl, trivial, trivial⟩
    exact ⟨[.lineComment body oneLine, .blank '\n' feed], by simp [Piece.text], complete, rfl⟩

/-- The scan passes filler over, whatever stands behind it. -/
theorem Filler.scanFrom_append {filler : List Char} (isFiller : Filler filler) (rest : List Char) :
    scanFrom (filler ++ rest) = scanFrom rest := by
  obtain ⟨pieces, rfl, complete, none⟩ := isFiller.exists_pieces
  rw [complete.scanFrom, none]
  cases scanFrom rest <;> rfl

/-- Behind an accepted text that does not end inside a line comment, the scan does not tell filler
from nothing: the definitions are the same, or it is left with the same rest. -/
theorem scanFrom_filled {front filler : List Char}
    (accepted : ∃ definitions, scanFrom front = .ok definitions) (notInComment : ¬ EndsInComment front)
    (isFiller : Filler filler) (rest : List Char) :
    scanFrom (front ++ (filler ++ rest)) = scanFrom (front ++ rest) := by
  obtain ⟨pieces, rfl, complete⟩ := accepted_complete_iff.mp ⟨accepted, notInComment⟩
  calc
    scanFrom (textOf pieces ++ (filler ++ rest))
        = (scanFrom (filler ++ rest)).map (definitionsOf pieces ++ ·) := complete.scanFrom _
    _ = (scanFrom rest).map (definitionsOf pieces ++ ·) := by rw [isFiller.scanFrom_append]
    _ = scanFrom (textOf pieces ++ rest) := (complete.scanFrom rest).symm

/-- A text is another one with other filler at one place, which is behind an accepted text that does
not end inside a line comment. Filler may be empty. So this is how comments and blanks are rewritten,
and also how they are put in and taken away. -/
inductive Refilled : (text other : String) → Prop where
  | between (front filler other rest : String)
      (accepted : ∃ definitions, scan front = .ok definitions)
      (notInComment : ¬ EndsInComment front.toList) (isFiller : Filler filler.toList)
      (otherIsFiller : Filler other.toList) :
      Refilled (front ++ filler ++ rest) (front ++ other ++ rest)

/-- Of two texts that differ in filler at one place, the one has the outcome of the other. -/
theorem outcome_filled {front filler : String}
    (accepted : ∃ definitions, scan front = .ok definitions)
    (notInComment : ¬ EndsInComment front.toList) (isFiller : Filler filler.toList) (rest : String) :
    outcome (front ++ filler ++ rest) = outcome (front ++ rest) := by
  obtain ⟨definitions, accepted⟩ := accepted
  have scanned : scanFrom front.toList = .ok definitions := scan_eq_ok_iff.mp accepted
  rw [outcome_eq, outcome_eq, String.toList_append, String.toList_append, String.toList_append,
    List.append_assoc, scanFrom_filled ⟨definitions, scanned⟩ notInComment isFiller]

/-- So it is with any number of places, one after the other. -/
theorem outcome_eq_of_refilled {text other : String}
    (refilled : Relation.ReflTransGen Refilled text other) : outcome other = outcome text := by
  induction refilled with
  | refl => rfl
  | tail _ step ih =>
    obtain ⟨front, filler, other, rest, accepted, notInComment, isFiller, otherIsFiller⟩ := step
    have without := outcome_filled accepted notInComment isFiller rest
    have withOther := outcome_filled accepted notInComment otherIsFiller rest
    rw [withOther, ← without]
    exact ih

/-- Filler behind an accepted text that does not end inside a line comment leaves the outcome of the
scan as it would be without it: the same definitions, or the same stray character. So filler may be
put in, rewritten and taken away at any number of such places, and the outcome stays. -/
theorem filler_is_transparent :
    (∀ front filler rest : String, (∃ definitions, scan front = .ok definitions) →
      ¬ EndsInComment front.toList → Filler filler.toList →
      outcome (front ++ filler ++ rest) = outcome (front ++ rest)) ∧
    (∀ text other : String, Relation.ReflTransGen Refilled text other →
      outcome other = outcome text) := by
  constructor
  · intro front filler rest accepted notInComment isFiller
    exact outcome_filled accepted notInComment isFiller rest
  · intro text other refilled
    exact outcome_eq_of_refilled refilled

/-- A comment with an entry and slashes in it is put before a text that starts like the end of a
comment, and the star of that text is found either way. A line comment that holds an entry is taken
away, and an empty block comment is put in at its place. -/
theorem comment_before_stray_end_is_transparent :
    ((∃ definitions, scan "1 A=\"// \";" = .ok definitions) ∧
      ¬ EndsInComment "1 A=\"// \";".toList ∧ Filler "/* 2 B=\"\"; // */".toList ∧
      outcome ("1 A=\"// \";" ++ "/* 2 B=\"\"; // */" ++ "*/3 C=\"\";") = .error ('*', 42) ∧
      outcome ("1 A=\"// \";" ++ "*/3 C=\"\";") = .error ('*', 42)) ∧
    Relation.ReflTransGen Refilled ("1 A=\"// \";" ++ "// 2 B=\"\";\n" ++ "3 C=\"\";")
      ("1 A=\"// \";" ++ "/**/" ++ "3 C=\"\";") ∧
    outcome ("1 A=\"// \";" ++ "// 2 B=\"\";\n" ++ "3 C=\"\";") = .ok [⟨"1", "A"⟩, ⟨"3", "C"⟩] ∧
    outcome ("1 A=\"// \";" ++ "/**/" ++ "3 C=\"\";") = .ok [⟨"1", "A"⟩, ⟨"3", "C"⟩] := by
  obtain ⟨onePlace, anyPlaces⟩ := filler_is_transparent
  have accepted : ∃ definitions, scan "1 A=\"// \";" = .ok definitions :=
    ⟨[⟨"1", "A"⟩], by decide +kernel⟩
  have stray : scanFrom ("1 A=\"// \";".toList ++ ['#']) = .error ['#'] := by decide +kernel
  have notInComment : ¬ EndsInComment "1 A=\"// \";".toList :=
    not_endsInComment_of_stray (by decide) stray
  have comment : Filler "/* 2 B=\"\"; // */".toList :=
    .blockComment " 2 B=\"\"; // ".toList (by simp [not_closed_cons_iff])
  have line : Filler "// 2 B=\"\";\n".toList := .lineComment " 2 B=\"\";".toList (by decide)
  have nothing : Filler "".toList := .blanks [] (by decide)
  have empty : Filler "/**/".toList := .blockComment [] (by decide)
  have without : outcome ("1 A=\"// \";" ++ "*/3 C=\"\";") = .error ('*', 42) := by decide +kernel
  have before : outcome ("1 A=\"// \";" ++ "// 2 B=\"\";\n" ++ "3 C=\"\";") =
      .ok [⟨"1", "A"⟩, ⟨"3", "C"⟩] := by decide +kernel
  have taken : Refilled ("1 A=\"// \";" ++ "// 2 B=\"\";\n" ++ "3 C=\"\";")
      ("1 A=\"// \";" ++ "" ++ "3 C=\"\";") :=
    .between _ _ _ _ accepted notInComment line nothing
  have put : Refilled ("1 A=\"// \";" ++ "" ++ "3 C=\"\";")
      ("1 A=\"// \";" ++ "/**/" ++ "3 C=\"\";") :=
    .between _ _ _ _ accepted notInComment nothing empty
  have both : Relation.ReflTransGen Refilled
      ("1 A=\"// \";" ++ "// 2 B=\"\";\n" ++ "3 C=\"\";")
      ("1 A=\"// \";" ++ "/**/" ++ "3 C=\"\";") :=
    (Relation.ReflTransGen.single taken).tail put
  exact ⟨⟨accepted, notInComment, comment,
    (onePlace _ _ _ accepted notInComment comment).trans without, without⟩,
    both, before, (anyPlaces _ _ both).trans before⟩

end Codebook.Grammar
