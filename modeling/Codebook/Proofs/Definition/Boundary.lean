import Codebook.Proofs.Definition.Scanning
import Mathlib.Data.List.Basic

/-!
# Where the scan stands between two pieces

An accepted text may end inside a line comment that still lacks its line feed; what comes behind it
would belong to the comment. Any other accepted text is complete: it is pieces that may stand before
anything, and the scan of a longer text passes it over without regard to what follows.

Every text that is not accepted is a complete text and a stuck one behind it, in one way only.
-/

namespace Codebook.Grammar

open Text

/-- A text whose last piece is a line comment. The line feed that ends the comment is missing. -/
def EndsInComment (text : List Char) : Prop :=
  ∃ (pieces : List Piece) (body : List Char) (oneLine : '\n' ∉ body),
    Laid (pieces ++ [.lineComment body oneLine]) [] ∧
      text = textOf (pieces ++ [.lineComment body oneLine])

/-- Pieces that may stand before anything. -/
def Complete (pieces : List Piece) : Prop :=
  ∀ rest, Laid pieces rest

theorem textOf_append (pieces others : List Piece) :
    textOf (pieces ++ others) = textOf pieces ++ textOf others :=
  List.flatMap_append

/-- Pieces behind pieces: those in front stand before the text of those behind them. -/
theorem laid_append {pieces others : List Piece} {rest : List Char} :
    Laid (pieces ++ others) rest ↔ Laid pieces (textOf others ++ rest) ∧ Laid others rest := by
  induction pieces with
  | nil => simp [Laid]
  | cons piece pieces ih =>
    simp only [List.cons_append, Laid, textOf_append, List.append_assoc, ih, and_assoc]

/-- Whether a line ends is seen at the first character. -/
theorem EndsLine.congr {text other : List Char} (ends : EndsLine text)
    (same : other.head? = text.head?) : EndsLine other := by
  rcases ends with rfl | feed
  · exact .inl (List.head?_eq_none_iff.mp same)
  · exact .inr (same.trans feed)

/-- Whether pieces may stand before a text is seen at its first character. -/
theorem Laid.congr {pieces : List Piece} {text other : List Char} (laid : Laid pieces text)
    (same : other.head? = text.head?) : Laid pieces other := by
  induction pieces with
  | nil => trivial
  | cons piece pieces ih =>
    refine ⟨?_, ih laid.2⟩
    cases piece with
    | lineComment body oneLine =>
      have ends : EndsLine (textOf pieces ++ text) := laid.1
      exact ends.congr (by rw [List.head?_append, List.head?_append, same])
    | blank | blockComment | entry => trivial

/-- Pieces that may stand before a text that is not empty may stand before a longer one. -/
theorem Laid.extend {pieces : List Piece} {text : List Char} (laid : Laid pieces text)
    (notEmpty : text ≠ []) (rest : List Char) : Laid pieces (text ++ rest) :=
  laid.congr (List.head?_append_of_ne_nil text notEmpty)

/-- Pieces that may stand somewhere may stand before a line feed, and at the end of a text. -/
theorem Laid.before_line_end {pieces : List Piece} {text other : List Char} (laid : Laid pieces text)
    (ends : EndsLine other) : Laid pieces other := by
  induction pieces with
  | nil => trivial
  | cons piece pieces ih =>
    refine ⟨?_, ih laid.2⟩
    cases piece with
    | blank | blockComment | entry => trivial
    | lineComment body oneLine =>
      have here : EndsLine (textOf pieces ++ text) := laid.1
      by_cases empty : textOf pieces = []
      · simpa [Piece.Fits, empty] using ends
      · refine here.congr ?_
        rw [List.head?_append_of_ne_nil _ empty, List.head?_append_of_ne_nil _ empty]

/-- No piece is empty. -/
theorem Piece.text_ne_nil (piece : Piece) : piece.text ≠ [] := by
  cases piece with
  | blank | lineComment | blockComment => exact List.cons_ne_nil _ _
  | entry held =>
    obtain ⟨d, tail, starts, -⟩ := held.starts_with_digit
    simp [Piece.text, starts]

/-- Pieces at the end of a text are complete, or the last of them is a line comment. -/
theorem complete_or_ends_in_comment {pieces : List Piece} (laid : Laid pieces []) :
    Complete pieces ∨ EndsInComment (textOf pieces) := by
  rcases List.eq_nil_or_concat' pieces with rfl | ⟨front, last, rfl⟩
  · exact .inl fun rest => trivial
  · obtain ⟨frontLaid, -⟩ := laid_append.mp laid
    rw [List.append_nil] at frontLaid
    have notEmpty : textOf [last] ≠ [] := by simpa using last.text_ne_nil
    cases last with
    | lineComment body oneLine => exact .inr ⟨front, body, oneLine, laid, rfl⟩
    | blank | blockComment | entry =>
      exact .inl fun rest => laid_append.mpr ⟨frontLaid.extend notEmpty rest, trivial, trivial⟩

/-- The scan of a longer text passes complete pieces over. -/
theorem Complete.scanFrom {pieces : List Piece} (complete : Complete pieces) (rest : List Char) :
    scanFrom (textOf pieces ++ rest) =
      (Codebook.scanFrom rest).map (definitionsOf pieces ++ ·) :=
  scanFrom_pieces (complete rest)

/-- What is put behind a line comment belongs to it, as long as it is no line feed. -/
theorem EndsInComment.accepts_more {text : List Char} (ends : EndsInComment text) {c : Char}
    (notFeed : c ≠ '\n') : ∃ definitions, Codebook.scanFrom (text ++ [c]) = .ok definitions := by
  obtain ⟨pieces, body, oneLine, laid, rfl⟩ := ends
  have longer : '\n' ∉ body ++ [c] := by simpa [oneLine] using notFeed.symm
  obtain ⟨frontLaid, -⟩ := laid_append.mp laid
  have extended : Laid (pieces ++ [.lineComment (body ++ [c]) longer]) [] := by
    refine laid_append.mpr ⟨?_, .inl rfl, trivial⟩
    have moved := frontLaid.extend (by simp [Piece.text]) [c]
    simpa [Piece.text] using moved
  have same : textOf (pieces ++ [.lineComment body oneLine]) ++ [c] =
      textOf (pieces ++ [.lineComment (body ++ [c]) longer]) := by
    simp [textOf_append, Piece.text]
  rw [same, scanFrom_accepts extended]
  exact ⟨_, rfl⟩

/-- A text does not end inside a line comment if a stray character is found behind it. -/
theorem not_endsInComment_of_stray {text rest : List Char} {c : Char} (notFeed : c ≠ '\n')
    (stray : scanFrom (text ++ [c]) = .error rest) : ¬ EndsInComment text := by
  intro ends
  obtain ⟨definitions, accepted⟩ := ends.accepts_more notFeed
  rw [stray] at accepted
  cases accepted

/-- Complete pieces do not end inside a line comment: a stray character put behind them would be
reported, and behind a line comment it would not. -/
theorem Complete.not_ends_in_comment {pieces : List Piece} (complete : Complete pieces) :
    ¬ EndsInComment (textOf pieces) := by
  have stuck : Stuck ['#'] := stuck_of_other (by decide) (by decide) (by decide) []
  have stray : Codebook.scanFrom (textOf pieces ++ ['#']) = .error ['#'] := by
    rw [complete.scanFrom, scanFrom_stuck stuck]
    rfl
  exact not_endsInComment_of_stray (by decide) stray

/-- An accepted text that does not end inside a line comment is complete pieces, and the other way
round. -/
theorem accepted_complete_iff {text : List Char} :
    ((∃ definitions, Codebook.scanFrom text = .ok definitions) ∧ ¬ EndsInComment text) ↔
      ∃ pieces, text = textOf pieces ∧ Complete pieces := by
  constructor
  · rintro ⟨⟨definitions, accepted⟩, notInComment⟩
    obtain ⟨pieces, rfl, laid, -⟩ := pieces_of_scanFrom accepted
    exact ⟨pieces, rfl, (complete_or_ends_in_comment laid).resolve_right notInComment⟩
  · rintro ⟨pieces, rfl, complete⟩
    exact ⟨⟨_, scanFrom_accepts (complete [])⟩, complete.not_ends_in_comment⟩

/-- Pieces before a stuck text are complete: a line comment would end at a line feed, which is a
blank, or at the end of the text. -/
theorem Laid.complete {pieces : List Piece} {rest : List Char} (laid : Laid pieces rest)
    (stuck : Stuck rest) : Complete pieces := by
  induction pieces with
  | nil => exact fun other => trivial
  | cons piece pieces ih =>
    intro other
    refine ⟨?_, ih laid.2 other⟩
    cases piece with
    | blank | blockComment | entry => trivial
    | lineComment body oneLine =>
      by_cases empty : textOf pieces = []
      · have ends : EndsLine rest := by simpa [Piece.Fits, empty] using laid.1
        rcases ends with atEnd | feed
        · exact absurd atEnd stuck.notEmpty
        · exact absurd (stuck.notBlank '\n' feed) (by decide)
      · obtain ⟨c, tail, same⟩ := List.exists_cons_of_ne_nil empty
        have ends : EndsLine (textOf pieces ++ rest) := laid.1
        rw [same] at ends
        rcases ends with atEnd | feed
        · cases atEnd
        · simp only [Piece.Fits, same]
          exact .inr feed

end Codebook.Grammar
