import Codebook.Proofs.Definition.Rejection

/-!
# Accepted texts that are cut off

An accepted text may lose its end. If it is cut between two pieces, or in a line comment behind the
slashes, what is left is accepted and gives the definitions of the entries that are left as a whole.
If it is cut inside an entry, inside a block comment or between the slashes of a line comment, what is
left is rejected at the start of that piece, at the place where it also stands in the whole text.

There is no third way, since no entry and no block comment starts with a shorter one of its kind. So a
text that lost its end never gives a definition that the whole text does not give.
-/

namespace Codebook.Grammar

open Text

/-! ## First parts of pieces -/

/-- Some of a text is left of it, from its start on, but not all. -/
structure Cropped (part whole : List Char) : Prop where
  notEmpty : part ≠ []
  isPrefix : part <+: whole
  notWhole : part ≠ whole

/-- No entry starts with a shorter one. -/
theorem Entry.text_eq_of_prefix {entry other : Entry} (isPrefix : other.text <+: entry.text) :
    other.text = entry.text := by
  obtain ⟨behind, same⟩ := isPrefix
  have whole : entryAt? entry.text = some (entry.definition, []) :=
    entryAt?_eq_some_iff.mpr ⟨entry, rfl, (List.append_nil _).symm⟩
  have first : entryAt? entry.text = some (other.definition, behind) :=
    entryAt?_eq_some_iff.mpr ⟨other, rfl, same.symm⟩
  obtain ⟨-, rfl⟩ := Prod.mk.inj (Option.some.inj (first.symm.trans whole))
  rw [← same, List.append_nil]

/-- No block comment starts with a comment other than itself. -/
theorem comment_text_eq_of_prefix {body : List Char} {notClosed : ¬ ['*', '/'] <:+: body}
    {piece : Piece} (isComment : piece.IsComment)
    (isPrefix : piece.text <+: (Piece.blockComment body notClosed).text) :
    piece.text = (Piece.blockComment body notClosed).text := by
  cases piece with
  | blank | entry => exact isComment.elim
  | lineComment other oneLine =>
    obtain ⟨behind, same⟩ := isPrefix
    simp [Piece.text] at same
  | blockComment other otherNotClosed =>
    obtain ⟨behind, same⟩ := isPrefix
    have whole : comment? (Piece.blockComment body notClosed).text = some [] :=
      comment?_eq_some_iff.mpr
        ⟨.blockComment body notClosed, trivial, (List.append_nil _).symm, trivial⟩
    have first : comment? (Piece.blockComment body notClosed).text = some behind :=
      comment?_eq_some_iff.mpr
        ⟨.blockComment other otherNotClosed, trivial, same.symm, trivial⟩
    obtain rfl := Option.some.inj (first.symm.trans whole)
    rw [← same, List.append_nil]

/-- What is left of a text starts as the text does. -/
theorem Cropped.head {part whole : List Char} (cropped : Cropped part whole) :
    part.head? = whole.head? := by
  obtain ⟨behind, rfl⟩ := cropped.isPrefix
  rw [List.head?_append_of_ne_nil part cropped.notEmpty]

/-- Of a single character nothing can be left but all. -/
theorem not_cropped_single {part : List Char} {c : Char} : ¬ Cropped part [c] := by
  intro cropped
  obtain ⟨rest, same, atEnd⟩ :=
    (List.prefix_cons_iff.mp cropped.isPrefix).resolve_left cropped.notEmpty
  obtain rfl := List.prefix_nil.mp atEnd
  exact cropped.notWhole same

/-- What is left of an entry is stuck. -/
theorem Cropped.stuck_of_entry {part : List Char} {entry : Entry}
    (cropped : Cropped part entry.text) : Stuck part := by
  obtain ⟨d, tail, starts, isDigit⟩ := entry.starts_with_digit
  have first : part.head? = some d := by
    rw [cropped.head, starts]
    rfl
  obtain ⟨rest, rfl⟩ := List.head?_eq_some_iff.mp first
  refine stuck_of_digit isDigit fun other within => ?_
  have same := Entry.text_eq_of_prefix (within.trans cropped.isPrefix)
  exact cropped.notWhole (cropped.isPrefix.eq_of_length_le (same ▸ within.length_le))

/-- What is left of a block comment is stuck. -/
theorem Cropped.stuck_of_blockComment {part body : List Char} {notClosed : ¬ ['*', '/'] <:+: body}
    (cropped : Cropped part (Piece.blockComment body notClosed).text) : Stuck part := by
  obtain ⟨rest, rfl⟩ := List.head?_eq_some_iff.mp (cropped.head : part.head? = some '/')
  refine stuck_of_slash fun piece isComment within => ?_
  have same := comment_text_eq_of_prefix isComment (within.trans cropped.isPrefix)
  exact cropped.notWhole (cropped.isPrefix.eq_of_length_le (same ▸ within.length_le))

/-- A single slash is stuck. -/
theorem stuck_slash : Stuck ['/'] := by
  apply stuck_of_slash
  exact no_comment_prefix rfl

/-! ## Where a text is cut off -/

/-- A text of pieces is cut off between two of them, or in a line comment behind its slashes. The
pieces in front are left as a whole. Each blank is a piece, so a cut among blanks is one between
pieces. -/
inductive CutBetween (pieces front : List Piece) : (kept : List Char) → Prop where
  | boundary (behind : List Piece) (split : pieces = front ++ behind) :
      CutBetween pieces front (textOf front)
  | lineComment (body shown : List Char) (oneLine : '\n' ∉ body) (behind : List Piece)
      (split : pieces = front ++ .lineComment body oneLine :: behind) (isPrefix : shown <+: body) :
      CutBetween pieces front (textOf front ++ '/' :: '/' :: shown)

/-- A text of pieces is cut off inside one of them: inside an entry, inside a block comment, or between
the slashes of a line comment. The pieces in front are left as a whole. -/
inductive CutInside (pieces front : List Piece) : (piece : Piece) → (kept : List Char) → Prop where
  | entry (held : Entry) (part : List Char) (behind : List Piece)
      (split : pieces = front ++ .entry held :: behind)
      (cropped : Cropped part (Piece.entry held).text) :
      CutInside pieces front (.entry held) (textOf front ++ part)
  | blockComment (body part : List Char) (notClosed : ¬ ['*', '/'] <:+: body)
      (behind : List Piece) (split : pieces = front ++ .blockComment body notClosed :: behind)
      (cropped : Cropped part (Piece.blockComment body notClosed).text) :
      CutInside pieces front (.blockComment body notClosed) (textOf front ++ part)
  | lineComment (body : List Char) (oneLine : '\n' ∉ body) (behind : List Piece)
      (split : pieces = front ++ .lineComment body oneLine :: behind) :
      CutInside pieces front (.lineComment body oneLine) (textOf front ++ ['/'])

/-- A first part of the text of some pieces is the text of the first of them, and behind it nothing or
what is left of the next one. -/
theorem exists_cropped {pieces : List Piece} {kept : List Char} (isPrefix : kept <+: textOf pieces) :
    ∃ front behind part, pieces = front ++ behind ∧ kept = textOf front ++ part ∧
      (part = [] ∨ ∃ piece tail, behind = piece :: tail ∧ Cropped part piece.text) := by
  induction pieces generalizing kept with
  | nil =>
    obtain rfl := List.prefix_nil.mp isPrefix
    exact ⟨[], [], [], rfl, rfl, .inl rfl⟩
  | cons piece pieces ih =>
    obtain ⟨lost, joined⟩ := isPrefix
    rcases List.append_eq_append_iff.mp joined with ⟨missing, whole, -⟩ | ⟨more, rfl, rest⟩
    · -- The cut is in the first piece. Where it is at one of its ends, nothing is left of a piece.
      by_cases empty : kept = []
      · exact ⟨[], piece :: pieces, [], rfl, empty, .inl rfl⟩
      · by_cases all : kept = piece.text
        · exact ⟨[piece], pieces, [], rfl, by simp [all], .inl rfl⟩
        · exact ⟨[], piece :: pieces, kept, rfl, rfl, .inr ⟨piece, pieces, rfl, empty,
            ⟨missing, whole.symm⟩, all⟩⟩
    · obtain ⟨front, behind, part, rfl, rfl, cropped⟩ := ih ⟨lost, rest.symm⟩
      exact ⟨piece :: front, behind, part, rfl, by simp, cropped⟩

/-- Any cut of a text of pieces is between them or inside one of them. -/
theorem cut_between_or_inside {pieces : List Piece} {kept : List Char}
    (isPrefix : kept <+: textOf pieces) :
    (∃ front, CutBetween pieces front kept) ∨ ∃ front piece, CutInside pieces front piece kept := by
  obtain ⟨front, behind, part, split, rfl, rfl | ⟨piece, tail, rfl, cropped⟩⟩ :=
    exists_cropped isPrefix
  · exact .inl ⟨front, by simpa using CutBetween.boundary behind split⟩
  · cases piece with
    | entry held => exact .inr ⟨front, _, .entry held part tail split cropped⟩
    | blockComment body notClosed =>
      exact .inr ⟨front, _, .blockComment body part notClosed tail split cropped⟩
    | blank c isBlank => exact absurd cropped not_cropped_single
    | lineComment body oneLine =>
      obtain ⟨rest, rfl, within⟩ :=
        (List.prefix_cons_iff.mp cropped.isPrefix).resolve_left cropped.notEmpty
      rcases List.prefix_cons_iff.mp within with rfl | ⟨shown, rfl, inBody⟩
      · exact .inr ⟨front, _, .lineComment body oneLine tail split⟩
      · exact .inl ⟨front, .lineComment body shown oneLine tail split inBody⟩

/-! ## What is left of an accepted text -/

/-- The definitions of pieces and of pieces behind them. -/
theorem definitionsOf_append (pieces others : List Piece) :
    definitionsOf (pieces ++ others) = definitionsOf pieces ++ definitionsOf others :=
  List.flatMap_append

/-- A text that is cut off between its pieces is accepted with the definitions of those in front. -/
theorem CutBetween.accepted {pieces front : List Piece} {kept : List Char}
    (cut : CutBetween pieces front kept) (laid : Laid pieces []) :
    scanFrom kept = .ok (definitionsOf front) ∧ definitionsOf front <+: definitionsOf pieces := by
  cases cut with
  | boundary behind split =>
    subst split
    have atEnd : Laid front [] := (laid_append.mp laid).1.before_line_end (.inl rfl)
    refine ⟨scanFrom_accepts atEnd, ?_⟩
    rw [definitionsOf_append]
    exact List.prefix_append _ _
  | lineComment body shown oneLine behind split isPrefix =>
    subst split
    have shownOneLine : '\n' ∉ shown := fun member => oneLine (isPrefix.subset member)
    have shorter : Laid (front ++ [.lineComment shown shownOneLine]) [] :=
      laid_append.mpr ⟨(laid_append.mp laid).1.congr rfl, .inl rfl, trivial⟩
    have accepted := scanFrom_accepts shorter
    simp only [textOf_append, definitionsOf_append, textOf_cons, textOf_nil, definitionsOf_cons,
      definitionsOf_nil, Piece.text, Piece.definitions, List.append_nil] at accepted
    refine ⟨accepted, ?_⟩
    rw [definitionsOf_append]
    exact List.prefix_append _ _

/-- Pieces may stand before what is left of the piece behind them. -/
theorem Laid.before_cropped {front behind : List Piece} {piece : Piece} {part : List Char}
    (laid : Laid (front ++ piece :: behind) []) (cropped : Cropped part piece.text) :
    Laid front part := by
  have standing := (laid_append.mp laid).1
  rw [textOf_cons, List.append_assoc] at standing
  refine standing.congr ?_
  rw [cropped.head, List.head?_append_of_ne_nil _ piece.text_ne_nil]

/-- A text that is cut off inside a piece is the pieces in front and a stuck rest, which starts as the
piece does. -/
theorem CutInside.stuck {pieces front : List Piece} {piece : Piece} {kept : List Char}
    (cut : CutInside pieces front piece kept) (laid : Laid pieces []) :
    ∃ rest, kept = textOf front ++ rest ∧ Laid front rest ∧ Stuck rest ∧
      rest.head? = piece.text.head? := by
  cases cut with
  | entry held part behind split cropped =>
    exact ⟨part, rfl, Laid.before_cropped (split ▸ laid) cropped, cropped.stuck_of_entry,
      cropped.head⟩
  | blockComment body part notClosed behind split cropped =>
    exact ⟨part, rfl, Laid.before_cropped (split ▸ laid) cropped, cropped.stuck_of_blockComment,
      cropped.head⟩
  | lineComment body oneLine behind split =>
    subst split
    exact ⟨['/'], rfl, (laid_append.mp laid).1.congr rfl, stuck_slash, rfl⟩

/-- A text that is cut off inside a piece is rejected with the first character of the piece, at the
place that this character has in the whole text. -/
theorem CutInside.rejected {pieces front : List Piece} {piece : Piece} {kept : String}
    (cut : CutInside pieces front piece kept.toList) (laid : Laid pieces []) :
    ∃ stray, scan kept = .error stray ∧ Localises stray (textOf front) piece.text := by
  obtain ⟨rest, split, standing, stuck, sameHead⟩ := cut.stuck laid
  have left : scanFrom kept.toList = .error rest := by
    rw [split, scanFrom_pieces standing, scanFrom_stuck stuck]
    rfl
  have localised : Localises (Stray.atStartOf (textOf front ++ rest) rest) (textOf front) rest :=
    localises_atStartOf stuck.notEmpty
  exact ⟨_, scan_error_of_rest split left,
    { localised with character := sameHead ▸ localised.character }⟩

/-- An accepted text consists of pieces, which give its definitions. However it is cut off, the cut is
between two of its pieces or in a line comment behind the slashes, or else it is inside a piece. In the
first case what is left is accepted with the definitions of the pieces that are left as a whole, which
are the first ones of the text. In the second case it is rejected with the first character of the piece
it is cut in, at the line and the column that this character has in the whole text. -/
theorem truncation_is_safe (text : String) (definitions : List Definition)
    (accepted : scan text = .ok definitions) :
    (∃ pieces, text.toList = textOf pieces ∧ Laid pieces []) ∧
    ∀ pieces, text.toList = textOf pieces → Laid pieces [] →
      definitions = definitionsOf pieces ∧
      ∀ kept : String, kept.toList <+: text.toList →
        ((∃ front, CutBetween pieces front kept.toList) ∨
          ∃ front piece, CutInside pieces front piece kept.toList) ∧
        (∀ front, CutBetween pieces front kept.toList →
          scan kept = .ok (definitionsOf front) ∧ definitionsOf front <+: definitions) ∧
        (∀ front piece, CutInside pieces front piece kept.toList →
          ∃ stray, scan kept = .error stray ∧ Localises stray (textOf front) piece.text) := by
  obtain ⟨written, same, standing, -⟩ := pieces_of_scanFrom (scan_eq_ok_iff.mp accepted)
  refine ⟨⟨written, same, standing⟩, fun pieces same laid => ?_⟩
  have given : definitions = definitionsOf pieces := by
    have scanned := scanFrom_accepts laid
    rw [← same] at scanned
    exact Except.ok.inj ((scan_eq_ok_iff.mp accepted).symm.trans scanned)
  refine ⟨given, fun kept isPrefix => ⟨cut_between_or_inside (same ▸ isPrefix), ?_, ?_⟩⟩
  · intro front cut
    obtain ⟨left, first⟩ := cut.accepted laid
    exact ⟨scan_eq_ok_iff.mpr left, given ▸ first⟩
  · exact fun front piece cut => cut.rejected laid

/-- Of an entry, a line comment and a block comment on the next line, what is left of the line comment
leaves the entry alone. Without its last slash the block comment is reported, at the start of its
line. -/
theorem cut_comments_are_told_apart :
    scan "1 A=\"a\";// x\n/* *" = .error ⟨'/', ⟨2, 1⟩⟩ ∧
    ∃ pieces, "1 A=\"a\";// x\n/* */".toList = textOf pieces ∧
      (∃ front, CutBetween pieces front "1 A=\"a\";// ".toList ∧
        scan "1 A=\"a\";// " = .ok (definitionsOf front) ∧ definitionsOf front = [⟨"1", "A"⟩]) ∧
      ∃ front piece stray, CutInside pieces front piece "1 A=\"a\";// x\n/* *".toList ∧
        scan "1 A=\"a\";// x\n/* *" = .error stray ∧
        Localises stray (textOf front) piece.text := by
  have whole : scan "1 A=\"a\";// x\n/* */" = .ok [⟨"1", "A"⟩] := by decide +kernel
  have between : scan "1 A=\"a\";// " = .ok [⟨"1", "A"⟩] := by decide +kernel
  have inside : scan "1 A=\"a\";// x\n/* *" = .error ⟨'/', ⟨2, 1⟩⟩ := by decide +kernel
  obtain ⟨⟨pieces, same, laid⟩, cuts⟩ := truncation_is_safe _ _ whole
  obtain ⟨-, outcome⟩ := cuts pieces same laid
  refine ⟨inside, pieces, same, ?_, ?_⟩
  · obtain ⟨place, accepted, rejected⟩ := outcome "1 A=\"a\";// " (by decide)
    rcases place with ⟨front, cut⟩ | ⟨front, piece, cut⟩
    · obtain ⟨left, -⟩ := accepted front cut
      exact ⟨front, cut, left, (Except.ok.inj (between.symm.trans left)).symm⟩
    · obtain ⟨stray, failed, -⟩ := rejected front piece cut
      cases between.symm.trans failed
  · obtain ⟨place, accepted, rejected⟩ := outcome "1 A=\"a\";// x\n/* *" (by decide)
    rcases place with ⟨front, cut⟩ | ⟨front, piece, cut⟩
    · cases inside.symm.trans (accepted front cut).1
    · obtain ⟨stray, failed, localised⟩ := rejected front piece cut
      exact ⟨front, piece, stray, cut, failed, localised⟩

end Codebook.Grammar
