import Codebook.Proofs.Definition.Boundary
import Mathlib.Logic.Relation

/-!
# Gaps and messages mean nothing

An entry is taken by its code and its name. How wide the gaps in it are and what its message says
only decides where it ends, and it ends at its semicolon whatever they are. So the scan goes on behind
an entry with the same text, however the entry is written.

A scan takes comments, entries and blanks one after the other. Which entries it takes is said by the
steps of the scan itself; that these are the entries among the pieces of a text follows from the laws
of the readers.
-/

namespace Codebook.Grammar

open Text

/-! ## The entries that a scan takes -/

/-- The scan of a text comes to `rest`: it takes what stands before it, step by step. -/
inductive Reaches : (text rest : List Char) → Prop where
  | here (text : List Char) : Reaches text text
  | comment {text after rest : List Char} (found : comment? text = some after)
      (more : Reaches after rest) : Reaches text rest
  | entry {text after rest : List Char} {definition : Definition} (noComment : comment? text = none)
      (found : entryAt? text = some (definition, after)) (more : Reaches after rest) :
      Reaches text rest
  | blank {c : Char} {text rest : List Char} (noComment : comment? (c :: text) = none)
      (noEntry : entryAt? (c :: text) = none) (blank : isBlank c = true)
      (more : Reaches text rest) : Reaches (c :: text) rest

/-- One step of a scan takes a piece that may stand where it stands. -/
theorem reaches_piece (piece : Piece) {text rest : List Char} (fits : piece.Fits text)
    (more : Reaches text rest) : Reaches (piece.text ++ text) rest := by
  cases piece with
  | blank c blank =>
    have notSlash : c ≠ '/' := ne_of_class blank (by decide)
    exact .blank (comment?_eq_none notSlash text)
      (entryAt?_eq_none (not_digit_of_blank blank) text) blank more
  | lineComment body oneLine =>
    exact .comment (comment?_eq_some_iff.mpr ⟨.lineComment body oneLine, trivial, rfl, fits⟩) more
  | blockComment body notClosed =>
    exact .comment (comment?_eq_some_iff.mpr ⟨.blockComment body notClosed, trivial, rfl, fits⟩) more
  | entry held =>
    exact .entry (held.no_comment text) (entryAt?_eq_some_iff.mpr ⟨held, rfl, rfl⟩) more

/-- A scan comes to the ends of a text that have pieces before them, and to no others. -/
theorem reaches_iff {text rest : List Char} :
    Reaches text rest ↔ ∃ pieces, text = textOf pieces ++ rest ∧ Laid pieces rest := by
  constructor
  · intro reaches
    induction reaches with
    | here text => exact ⟨[], rfl, trivial⟩
    | comment found _ ih =>
      obtain ⟨pieces, rfl, laid⟩ := ih
      obtain ⟨piece, -, rfl, fits⟩ := comment?_eq_some_iff.mp found
      exact ⟨piece :: pieces, by simp, fits, laid⟩
    | entry _ found _ ih =>
      obtain ⟨pieces, rfl, laid⟩ := ih
      obtain ⟨held, -, rfl⟩ := entryAt?_eq_some_iff.mp found
      exact ⟨.entry held :: pieces, by simp [Piece.text], trivial, laid⟩
    | blank _ _ blank _ ih =>
      obtain ⟨pieces, rfl, laid⟩ := ih
      exact ⟨.blank _ blank :: pieces, by simp [Piece.text], trivial, laid⟩
  · rintro ⟨pieces, rfl, laid⟩
    induction pieces with
    | nil => exact .here rest
    | cons piece pieces ih =>
      rw [textOf_cons, List.append_assoc]
      exact reaches_piece piece laid.1 (ih laid.2)

/-! ## Writing an entry in another way -/

/-- Two entries with the same code and the same name. -/
structure Entry.Alike (entry other : Entry) : Prop where
  code : other.code = entry.code
  name : other.name = entry.name

/-- A text is another one in which an entry that the scan takes is written with other gaps and another
message. -/
inductive Rewritten : (text other : List Char) → Prop where
  | entry (before rest : List Char) (entry other : Entry)
      (taken : Reaches (before ++ (entry.text ++ rest)) (entry.text ++ rest))
      (alike : entry.Alike other) :
      Rewritten (before ++ (entry.text ++ rest)) (before ++ (other.text ++ rest))

/-- Entries that are alike start with the same character. -/
theorem Entry.Alike.head {entry other : Entry} (alike : entry.Alike other) (rest : List Char) :
    (other.text ++ rest).head? = (entry.text ++ rest).head? := by
  obtain ⟨d, tail, same, -⟩ := is_code_iff.mp entry.isCode
  simp [Entry.text, alike.code, same]

/-- Entries that are alike give the same definition. -/
theorem Entry.Alike.definition {entry other : Entry} (alike : entry.Alike other) :
    other.definition = entry.definition := by
  rw [Entry.definition, Entry.definition, alike.code, alike.name]

/-- The scan of some pieces and an entry goes on behind the entry. -/
theorem scanFrom_pieces_entry {pieces : List Piece} {entry : Entry} {rest : List Char}
    (laid : Laid pieces (entry.text ++ rest)) :
    scanFrom (textOf pieces ++ (entry.text ++ rest)) =
      (scanFrom rest).map (definitionsOf pieces ++ entry.definition :: ·) := by
  have taken : scanFrom (entry.text ++ rest) = (scanFrom rest).map (entry.definition :: ·) :=
    scanFrom_piece (.entry entry) trivial
  rw [scanFrom_pieces laid, taken]
  cases scanFrom rest <;> rfl

/-- A rewritten text has the same definitions, or the scan is left with the same rest.

Proof: the pieces before the entry may stand before the other one as well, since only the first
character behind a line comment matters, and that is the same digit. -/
theorem Rewritten.scanFrom_eq {text other : List Char} (rewritten : Rewritten text other) :
    scanFrom other = scanFrom text := by
  obtain ⟨before, rest, entry, other, taken, alike⟩ := rewritten
  obtain ⟨pieces, split, laid⟩ := reaches_iff.mp taken
  obtain rfl := List.append_cancel_right split
  rw [scanFrom_pieces_entry laid, scanFrom_pieces_entry (laid.congr (alike.head rest)),
    alike.definition]

/-- So it is with a text that was rewritten any number of times. -/
theorem scanFrom_eq_of_rewritten {text other : List Char}
    (rewritten : Relation.ReflTransGen Rewritten text other) : scanFrom other = scanFrom text := by
  induction rewritten with
  | refl => rfl
  | tail _ step ih => exact step.scanFrom_eq.trans ih

/-- What a scan gives apart from places: the definitions, or the stray character with its code
point. -/
def outcome (text : String) : Except (Char × Nat) (List Definition) :=
  (scan text).mapError fun stray => (stray.character, stray.codePoint)

/-- What a scan gives apart from places is a matter of the definitions, or of the rest that the scan is
left with. -/
theorem outcome_eq (text : String) :
    outcome text = (scanFrom text.toList).mapError fun rest =>
      (rest.headD '\x00', (rest.headD '\x00').toNat) := by
  rw [outcome, scan]
  cases scanFrom text.toList <;> rfl

/-! ## Messages that say anything -/

/-- A text with a backslash before each of its backslashes and double quotes. -/
def withBackslashes (text : List Char) : List Char :=
  text.flatMap fun c => if c = '\\' ∨ c = '"' then ['\\', c] else [c]

/-- Any text is a message once the backslashes are put in. -/
theorem isMessage_withBackslashes (text : List Char) : IsMessage (withBackslashes text) := by
  induction text with
  | nil => exact .empty
  | cons c text ih =>
    rw [withBackslashes, List.flatMap_cons]
    split
    · next marked =>
      have known : isShortEscape c = true := by rcases marked with rfl | rfl <;> decide
      exact .escaped _ _ (.short c known) ih
    · next plain =>
      obtain ⟨notBackslash, notQuote⟩ := not_or.mp plain
      exact .plain c _ notBackslash notQuote ih

/-- The entry with a message that says a text. -/
def Entry.saying (entry : Entry) (text : List Char) : Entry :=
  { entry with
    message := withBackslashes text
    isMessage := isMessage_withBackslashes text }

end Codebook.Grammar
