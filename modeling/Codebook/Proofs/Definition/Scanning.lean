import Codebook.Proofs.Definition.Readers

/-!
# Scanning takes a text apart into pieces

Comments start with a slash, entries with a digit, and neither is a blank. So the first character of
a text decides which kind of piece may stand there, and the readers decide whether one does. One
step of the scan takes one piece; a run of the scan takes the pieces of a text one after the other
and ends at the end of the text, or where no piece stands.

The law for a whole text goes both ways: a text is accepted exactly if it is a concatenation of
pieces, and what is answered is what the pieces give.
-/

namespace Codebook.Grammar

open Text

/-! ## One step -/

/-- A comment starts with a slash. -/
theorem comment?_eq_none {c : Char} (notSlash : c ≠ '/') (rest : List Char) :
    comment? (c :: rest) = none := by
  unfold comment?
  split
  · next same => exact absurd (List.cons.inj same).1 notSlash
  · next same => exact absurd (List.cons.inj same).1 notSlash
  · rfl

/-- An entry starts with a digit. -/
theorem Entry.starts_with_digit (entry : Entry) :
    ∃ d tail, entry.text = d :: tail ∧ isDecimalDigit d = true := by
  obtain ⟨d, code, same, isDigit, -⟩ := is_code_iff.mp entry.isCode
  have first : entry.text.head? = some d := by simp [Entry.text, same]
  obtain ⟨tail, starts⟩ := List.head?_eq_some_iff.mp first
  exact ⟨d, tail, starts, isDigit⟩

/-- Where an entry stands no comment does. -/
theorem Entry.no_comment (entry : Entry) (rest : List Char) :
    comment? (entry.text ++ rest) = none := by
  obtain ⟨d, tail, starts, isDigit⟩ := entry.starts_with_digit
  rw [starts]
  exact comment?_eq_none (ne_of_class isDigit (by decide)) _

/-- Where a text does not start with a digit no entry stands. -/
theorem entryAt?_eq_none {c : Char} (notDigit : isDecimalDigit c = false) (rest : List Char) :
    entryAt? (c :: rest) = none := by
  refine Option.eq_none_iff_forall_ne_some.mpr fun ⟨definition, after⟩ found => ?_
  obtain ⟨entry, -, same⟩ := entryAt?_eq_some_iff.mp found
  obtain ⟨d, tail, starts, isDigit⟩ := entry.starts_with_digit
  rw [starts] at same
  exact ne_of_class isDigit notDigit (List.cons.inj same).1.symm

/-- A comment is passed over. -/
theorem scanFrom_of_comment {text after : List Char} (found : comment? text = some after) :
    scanFrom text = scanFrom after := by
  cases text with
  | nil => simp [comment?] at found
  | cons c rest =>
    rw [scanFrom]
    split
    · next other same => rw [Option.some.inj (same.symm.trans found)]
    · next none => rw [found] at none; cases none

/-- An entry gives its definition. -/
theorem scanFrom_of_entry {text after : List Char} {definition : Definition}
    (noComment : comment? text = none) (found : entryAt? text = some (definition, after)) :
    scanFrom text = (scanFrom after).map (definition :: ·) := by
  cases text with
  | nil => exact absurd found (by simp [entryAt?, readCode?])
  | cons c rest =>
    rw [scanFrom]
    split
    · next other some => rw [noComment] at some; cases some
    · split
      · next other behind same =>
        obtain ⟨rfl, rfl⟩ := Prod.mk.inj (Option.some.inj (same.symm.trans found))
        rfl
      · next none => rw [found] at none; cases none

/-- Where neither a comment nor an entry stands, a blank is passed over and all else is stray. -/
theorem scanFrom_of_neither {c : Char} {rest : List Char} (noComment : comment? (c :: rest) = none)
    (noEntry : entryAt? (c :: rest) = none) :
    scanFrom (c :: rest) = if isBlank c then scanFrom rest else .error (c :: rest) := by
  rw [scanFrom]
  split
  · next other some => rw [noComment] at some; cases some
  · split
    · next other behind some => rw [noEntry] at some; cases some
    · rfl

/-- A blank is passed over. -/
theorem scanFrom_of_blank {c : Char} (blank : isBlank c = true) (rest : List Char) :
    scanFrom (c :: rest) = scanFrom rest := by
  have notSlash : c ≠ '/' := ne_of_class blank (by decide)
  have noEntry : entryAt? (c :: rest) = none := entryAt?_eq_none (not_digit_of_blank blank) rest
  rw [scanFrom_of_neither (comment?_eq_none notSlash rest) noEntry, if_pos blank]

/-- The scan takes a piece that may stand before what follows it, gives the definitions of the piece
and goes on behind it. There is one case for each kind of piece, told apart by its first
character. -/
theorem scanFrom_piece (piece : Piece) {rest : List Char} (fits : piece.Fits rest) :
    scanFrom (piece.text ++ rest) = (scanFrom rest).map (piece.definitions ++ ·) := by
  have unchanged : (scanFrom rest).map ([] ++ ·) = scanFrom rest := by
    cases scanFrom rest <;> rfl
  cases piece with
  | blank c blank => exact (scanFrom_of_blank blank rest).trans unchanged.symm
  | lineComment body oneLine =>
    refine Eq.trans (scanFrom_of_comment ?_) unchanged.symm
    exact comment?_eq_some_iff.mpr ⟨.lineComment body oneLine, trivial, rfl, fits⟩
  | blockComment body notClosed =>
    refine Eq.trans (scanFrom_of_comment ?_) unchanged.symm
    exact comment?_eq_some_iff.mpr ⟨.blockComment body notClosed, trivial, rfl, fits⟩
  | entry held =>
    exact scanFrom_of_entry (held.no_comment rest) (entryAt?_eq_some_iff.mpr ⟨held, rfl, rfl⟩)

/-! ## A whole run -/

/-- The scan takes some pieces one after the other, and goes on behind the last one of them. -/
theorem scanFrom_pieces {pieces : List Piece} {rest : List Char} (laid : Laid pieces rest) :
    scanFrom (textOf pieces ++ rest) = (scanFrom rest).map (definitionsOf pieces ++ ·) := by
  induction pieces with
  | nil => cases left : scanFrom rest <;> simp [left, Except.map]
  | cons piece pieces ih =>
    rw [textOf_cons, List.append_assoc, scanFrom_piece piece laid.1, ih laid.2]
    cases scanFrom rest <;> simp [Except.map]

/-- A text that is not at its end, and that has neither a blank nor a comment nor an entry at its
start. -/
structure Stuck (text : List Char) : Prop where
  notEmpty : text ≠ []
  notBlank : Stops isBlank text
  noComment : ∀ piece : Piece, piece.IsComment → ¬ piece.text <+: text
  noEntry : ∀ entry : Entry, ¬ entry.text <+: text

/-- No comment is a prefix of a text at whose start no comment is read. A line comment that is cut
short is still a comment, so what follows it does not matter here. -/
theorem no_comment_prefix {text : List Char} (none : comment? text = none) (piece : Piece)
    (isComment : piece.IsComment) : ¬ piece.text <+: text := by
  rintro ⟨rest, rfl⟩
  cases piece with
  | blank | entry => exact isComment.elim
  | lineComment body oneLine => simp [Piece.text, comment?] at none
  | blockComment body notClosed =>
    have found : comment? ((Piece.blockComment body notClosed).text ++ rest) = some rest :=
      comment?_eq_some_iff.mpr ⟨.blockComment body notClosed, trivial, rfl, trivial⟩
    rw [found] at none
    cases none

/-- No entry is a prefix of a text exactly if no entry is read at its start. -/
theorem no_entry_prefix_iff {text : List Char} :
    entryAt? text = none ↔ ∀ entry : Entry, ¬ entry.text <+: text := by
  rw [Option.eq_none_iff_forall_ne_some]
  constructor
  · rintro none entry ⟨rest, rfl⟩
    exact none (entry.definition, rest) (entryAt?_eq_some_iff.mpr ⟨entry, rfl, rfl⟩)
  · rintro noEntry ⟨definition, rest⟩ found
    obtain ⟨entry, -, rfl⟩ := entryAt?_eq_some_iff.mp found
    exact noEntry entry (List.prefix_append _ _)

/-- A text that starts with a digit is stuck if it starts with no entry: a digit is no blank, and no
comment starts with it. -/
theorem stuck_of_digit {d : Char} {rest : List Char} (isDigit : isDecimalDigit d = true)
    (noEntry : ∀ entry : Entry, ¬ entry.text <+: d :: rest) : Stuck (d :: rest) := by
  have notSlash : d ≠ '/' := ne_of_class isDigit (by decide)
  have notBlank : isBlank d = false := by
    refine Bool.eq_false_iff.mpr fun blank => ?_
    rw [not_digit_of_blank blank] at isDigit
    cases isDigit
  exact ⟨List.cons_ne_nil _ _, stops_cons notBlank rest,
    no_comment_prefix (comment?_eq_none notSlash rest), noEntry⟩

/-- A text that starts with a slash is stuck if it starts with no comment. -/
theorem stuck_of_slash {rest : List Char}
    (noComment : ∀ piece : Piece, piece.IsComment → ¬ piece.text <+: '/' :: rest) :
    Stuck ('/' :: rest) := by
  have noEntry : entryAt? ('/' :: rest) = none := entryAt?_eq_none (by decide) rest
  exact ⟨List.cons_ne_nil _ _, stops_cons (by decide) rest, noComment,
    no_entry_prefix_iff.mp noEntry⟩

/-- A text that starts with any other character is stuck, whatever follows, unless it is a blank. -/
theorem stuck_of_other {c : Char} (notBlank : isBlank c = false) (notDigit : isDecimalDigit c = false)
    (notSlash : c ≠ '/') (rest : List Char) : Stuck (c :: rest) where
  notEmpty := List.cons_ne_nil c rest
  notBlank := stops_cons notBlank rest
  noComment := no_comment_prefix (comment?_eq_none notSlash rest)
  noEntry := no_entry_prefix_iff.mp (entryAt?_eq_none notDigit rest)

/-- The scan of a stuck text ends at once. -/
theorem scanFrom_stuck {text : List Char} (stuck : Stuck text) : scanFrom text = .error text := by
  obtain ⟨c, rest, rfl⟩ := List.exists_cons_of_ne_nil stuck.notEmpty
  have noComment : comment? (c :: rest) = none := by
    refine Option.eq_none_iff_forall_ne_some.mpr fun after found => ?_
    obtain ⟨piece, isComment, same, -⟩ := comment?_eq_some_iff.mp found
    exact stuck.noComment piece isComment (same ▸ List.prefix_append _ _)
  rw [scanFrom_of_neither noComment (no_entry_prefix_iff.mpr stuck.noEntry), stuck.notBlank c rfl]
  rfl

/-- Every text is pieces with a rest behind them that is empty or stuck. The induction follows the
scan: each of its steps takes one more piece off the start of the text. -/
theorem exists_pieces (text : List Char) :
    ∃ pieces rest, text = textOf pieces ++ rest ∧ Laid pieces rest ∧ (rest = [] ∨ Stuck rest) := by
  fun_induction scanFrom text with
  | case1 => exact ⟨[], [], rfl, trivial, .inl rfl⟩
  | case2 c rest after found ih =>
    obtain ⟨pieces, left, rfl, laid, ends⟩ := ih
    obtain ⟨piece, -, same, fits⟩ := comment?_eq_some_iff.mp found
    exact ⟨piece :: pieces, left, by simp [same], ⟨fits, laid⟩, ends⟩
  | case3 c rest noComment definition after found ih =>
    obtain ⟨pieces, left, rfl, laid, ends⟩ := ih
    obtain ⟨entry, -, same⟩ := entryAt?_eq_some_iff.mp found
    exact ⟨.entry entry :: pieces, left, by simp [same, Piece.text], ⟨trivial, laid⟩, ends⟩
  | case4 c rest noComment noEntry blank ih =>
    obtain ⟨pieces, left, rfl, laid, ends⟩ := ih
    exact ⟨.blank c blank :: pieces, left, by simp [Piece.text], ⟨trivial, laid⟩, ends⟩
  | case5 c rest noComment noEntry notBlank =>
    refine ⟨[], c :: rest, rfl, trivial, .inr ⟨List.cons_ne_nil _ _, ?_, ?_, ?_⟩⟩
    · exact stops_cons (Bool.eq_false_iff.mpr notBlank) rest
    · exact no_comment_prefix noComment
    · exact no_entry_prefix_iff.mp noEntry

/-- The scan of pieces without a rest gives all their definitions. -/
theorem scanFrom_accepts {pieces : List Piece} (laid : Laid pieces []) :
    scanFrom (textOf pieces) = .ok (definitionsOf pieces) := by
  have scanned := scanFrom_pieces laid
  rw [List.append_nil] at scanned
  rw [scanned, scanFrom]
  simp [Except.map]

/-- What is accepted at the end of a scan is pieces without a rest. -/
theorem pieces_of_scanFrom {text : List Char} {definitions : List Definition}
    (accepted : scanFrom text = .ok definitions) :
    ∃ pieces, text = textOf pieces ∧ Laid pieces [] ∧ definitions = definitionsOf pieces := by
  obtain ⟨pieces, rest, rfl, laid, rfl | stuck⟩ := exists_pieces text
  · rw [List.append_nil, scanFrom_accepts laid] at accepted
    exact ⟨pieces, List.append_nil _, laid, (Except.ok.inj accepted).symm⟩
  · rw [scanFrom_pieces laid, scanFrom_stuck stuck] at accepted
    cases accepted

/-- What a scan is left with is stuck, and stands behind pieces. -/
theorem stuck_of_scanFrom {text rest : List Char} (left : scanFrom text = .error rest) :
    ∃ pieces, text = textOf pieces ++ rest ∧ Laid pieces rest ∧ Stuck rest := by
  obtain ⟨pieces, other, rfl, laid, rfl | stuck⟩ := exists_pieces text
  · rw [List.append_nil, scanFrom_accepts laid] at left
    cases left
  · rw [scanFrom_pieces laid, scanFrom_stuck stuck] at left
    obtain rfl : other = rest := Except.error.inj left
    exact ⟨pieces, rfl, laid, stuck⟩

/-- A text is accepted by `scan` exactly if it is so by `scanFrom`, with the same definitions. -/
theorem scan_eq_ok_iff {text : String} {definitions : List Definition} :
    scan text = .ok definitions ↔ scanFrom text.toList = .ok definitions := by
  unfold scan
  cases scanFrom text.toList <;> simp [Except.mapError]

/-- A text is accepted exactly if it is a concatenation of pieces, each of them where it may stand.
The definitions are those of the entries among the pieces, as they are written and in their order;
a definition that is written twice is there twice. -/
theorem scan_ok_iff_pieces (text : String) (definitions : List Definition) :
    scan text = .ok definitions ↔
      ∃ pieces : List Piece, text.toList = textOf pieces ∧ Laid pieces [] ∧
        definitions = definitionsOf pieces := by
  rw [scan_eq_ok_iff]
  constructor
  · exact pieces_of_scanFrom
  · rintro ⟨pieces, same, laid, rfl⟩
    rw [same, scanFrom_accepts laid]

end Codebook.Grammar
