import Codebook.Proofs.Definition.Truncation

/-!
# Which stray characters stay where they are

A stray character is reported at a place where no piece stands. If more text is put behind, the pieces
in front of the place stay as they are, since they are complete. At the place itself a piece can only
come to stand that goes on beyond the end of the shorter text: a comment or an entry whose first part
was there already. Such a piece starts with a slash or with a digit.

So a stray character that is neither of them is reported whatever follows, with the same line and the
same column. Nothing is claimed of texts that complete a piece; what they give is the scan of the
longer text.
-/

namespace Codebook.Grammar

open Text

/-- A part of a text that more text makes a whole piece, perhaps with something behind it. -/
structure CompletedBy (piece : Piece) (part more : List Char) : Prop where
  begun : Cropped part piece.text
  completed : piece.text <+: part ++ more

/-- What starts a longer text and not the shorter one goes on beyond the end of the shorter one. -/
theorem cropped_of_prefix_append {part more whole : List Char} (notEmpty : part ≠ [])
    (within : whole <+: part ++ more) (notWithin : ¬ whole <+: part) : Cropped part whole := by
  have comparable : whole <+: part ∨ part <+: whole :=
    List.prefix_or_prefix_of_prefix within (List.prefix_append part more)
  have isPrefix : part <+: whole := comparable.resolve_left notWithin
  refine ⟨notEmpty, isPrefix, ?_⟩
  intro same
  subst same
  exact notWithin (List.prefix_refl part)

/-- A stuck text is still stuck with more text behind it, or it is the first part of a piece that the
longer text holds. -/
theorem Stuck.append_or_completed {part : List Char} (stuck : Stuck part) (more : List Char) :
    Stuck (part ++ more) ∨ ∃ piece, CompletedBy piece part more := by
  by_cases comment : ∃ piece : Piece, piece.IsComment ∧ piece.text <+: part ++ more
  · obtain ⟨piece, isComment, within⟩ := comment
    have notWithin := stuck.noComment piece isComment
    exact .inr ⟨piece, cropped_of_prefix_append stuck.notEmpty within notWithin, within⟩
  · by_cases entry : ∃ held : Entry, held.text <+: part ++ more
    · obtain ⟨held, within⟩ := entry
      have notWithin := stuck.noEntry held
      exact .inr ⟨.entry held, cropped_of_prefix_append stuck.notEmpty within notWithin, within⟩
    · -- Nothing has come to stand at the start, and the first character is the one it was.
      left
      constructor
      · simp [stuck.notEmpty]
      · intro c first
        rw [List.head?_append_of_ne_nil part stuck.notEmpty] at first
        exact stuck.notBlank c first
      · intro piece isComment within
        exact comment ⟨piece, isComment, within⟩
      · intro held within
        exact entry ⟨held, within⟩

/-- The piece that is completed is a comment, and its part starts with a slash, or it is an entry, and
its part starts with a digit. No blank has a first part. -/
theorem CompletedBy.comment_or_entry {piece : Piece} {part more : List Char}
    (completed : CompletedBy piece part more) :
    (piece.IsComment ∧ part.head? = some '/') ∨
      ∃ held d, piece = .entry held ∧ part.head? = some d ∧ isDecimalDigit d = true := by
  have sameHead := completed.begun.head
  cases piece with
  | blank c blank => exact absurd completed.begun not_cropped_single
  | lineComment body oneLine => exact .inl ⟨trivial, sameHead⟩
  | blockComment body notClosed => exact .inl ⟨trivial, sameHead⟩
  | entry held =>
    obtain ⟨d, tail, starts, isDigit⟩ := held.starts_with_digit
    have first : part.head? = some d := by
      rw [sameHead, Piece.text, starts]
      rfl
    exact .inr ⟨held, d, rfl, first, isDigit⟩

/-- A cut stays where it is in a longer text, as long as what is behind it stays stuck. -/
theorem StrayAt.append {text before rest more : List Char} (cut : StrayAt text before rest)
    (stuck : Stuck (rest ++ more)) : StrayAt (text ++ more) before (rest ++ more) where
  split := by rw [cut.split, List.append_assoc]
  accepted := cut.accepted
  notInComment := cut.notInComment
  stuck := stuck

/-- A stray character is the one of a longer text if both are cut at the same place. -/
theorem Localises.append {stray : Stray} {before rest : List Char} (here : Localises stray before rest)
    (more : List Char) : Localises stray before (rest ++ more) := by
  have notEmpty : rest ≠ [] := by
    intro empty
    have first := here.character
    rw [empty] at first
    cases first
  refine { here with character := ?_ }
  rw [List.head?_append_of_ne_nil rest notEmpty, here.character]

/-- The stray character of a text is also that of a longer one if the text is stuck there as well. -/
theorem StrayAt.scan_append {text suffix : String} {before rest : List Char} {stray : Stray}
    (cut : StrayAt text.toList before rest) (here : Localises stray before rest)
    (stuck : Stuck (rest ++ suffix.toList)) : scan (text ++ suffix) = .error stray := by
  have longer : StrayAt (text ++ suffix).toList before (rest ++ suffix.toList) := by
    rw [String.toList_append]
    exact cut.append stuck
  obtain ⟨found, reported, localised⟩ := longer.reported
  have same : found = stray := localised.unique (here.append suffix.toList)
  rw [reported, same]

/-- A text that is rejected has a cut at which its stray character is found. -/
theorem exists_strayAt_of_error {text : String} {stray : Stray} (reported : scan text = .error stray) :
    ∃ before rest, StrayAt text.toList before rest ∧ Localises stray before rest := by
  have rejected : ∀ definitions, scan text ≠ .ok definitions := by
    intro definitions accepted
    rw [reported] at accepted
    cases accepted
  obtain ⟨before, rest, cut⟩ := exists_strayAt rejected
  obtain ⟨found, again, localised⟩ := cut.reported
  obtain rfl : found = stray := Except.error.inj (again.symm.trans reported)
  exact ⟨before, rest, cut, localised⟩

/-- A stray character that is neither a digit nor a slash is reported just so, with the same line and
the same column, whatever is put behind the text. In any case a text behind it can only change what is
reported if it completes a comment or an entry, the first part of which is all that the text has from
the stray character on; the stray character is then the slash of the comment or the first digit of the
entry. -/
theorem stray_is_final (text suffix : String) (stray : Stray) (reported : scan text = .error stray) :
    (isDecimalDigit stray.character = false → stray.character ≠ '/' →
      scan (text ++ suffix) = .error stray) ∧
    (scan (text ++ suffix) ≠ .error stray →
      ∃ before rest piece, StrayAt text.toList before rest ∧ Localises stray before rest ∧
        CompletedBy piece rest suffix.toList ∧
        ((piece.IsComment ∧ stray.character = '/') ∨
          ∃ held, piece = .entry held ∧ isDecimalDigit stray.character = true)) := by
  obtain ⟨before, rest, cut, here⟩ := exists_strayAt_of_error reported
  rcases cut.stuck.append_or_completed suffix.toList with stuck | ⟨piece, completed⟩
  · have unchanged : scan (text ++ suffix) = .error stray := cut.scan_append here stuck
    exact ⟨fun _ _ => unchanged, fun changed => absurd unchanged changed⟩
  · have kind : (piece.IsComment ∧ stray.character = '/') ∨
        ∃ held, piece = .entry held ∧ isDecimalDigit stray.character = true := by
      rcases completed.comment_or_entry with ⟨isComment, first⟩ | ⟨held, d, same, first, isDigit⟩
      · have slash : stray.character = '/' := Option.some.inj (here.character.symm.trans first)
        exact .inl ⟨isComment, slash⟩
      · have digit : stray.character = d := Option.some.inj (here.character.symm.trans first)
        exact .inr ⟨held, same, digit ▸ isDigit⟩
    refine ⟨?_, fun _ => ⟨before, rest, piece, cut, here, completed, kind⟩⟩
    intro notDigit notSlash
    rcases kind with ⟨-, slash⟩ | ⟨held, -, isDigit⟩
    · exact absurd slash notSlash
    · rw [isDigit] at notDigit
      cases notDigit

/-- A star in front of a slash is reported whatever is put behind it, here the end of a comment and an
entry. A comment without its end is reported at its slash, and is a comment when its end follows. -/
theorem stray_star_is_final :
    (scan "1 A=\"\";\n /* x */ *" = .error ⟨'*', ⟨2, 10⟩⟩ ∧
      isDecimalDigit '*' = false ∧ '*' ≠ '/' ∧
      scan ("1 A=\"\";\n /* x */ *" ++ "/ 2 B=\"\";") = .error ⟨'*', ⟨2, 10⟩⟩) ∧
    scan "1 A=\"\";\n /* x *" = .error ⟨'/', ⟨2, 2⟩⟩ ∧
    scan ("1 A=\"\";\n /* x *" ++ "/ 2 B=\"\";") ≠ .error ⟨'/', ⟨2, 2⟩⟩ ∧
    ∃ before rest piece, StrayAt "1 A=\"\";\n /* x *".toList before rest ∧
      CompletedBy piece rest "/ 2 B=\"\";".toList ∧ piece.IsComment := by
  have star : scan "1 A=\"\";\n /* x */ *" = .error ⟨'*', ⟨2, 10⟩⟩ := by decide +kernel
  have notDigit : isDecimalDigit '*' = false := by decide
  have notSlash : '*' ≠ '/' := by decide
  obtain ⟨final, -⟩ := stray_is_final _ "/ 2 B=\"\";" _ star
  have slash : scan "1 A=\"\";\n /* x *" = .error ⟨'/', ⟨2, 2⟩⟩ := by decide +kernel
  have changed : scan ("1 A=\"\";\n /* x *" ++ "/ 2 B=\"\";") ≠ .error ⟨'/', ⟨2, 2⟩⟩ := by
    decide +kernel
  obtain ⟨-, completes⟩ := stray_is_final _ "/ 2 B=\"\";" _ slash
  obtain ⟨before, rest, piece, cut, -, completed, kind⟩ := completes changed
  have isComment : piece.IsComment := by
    rcases kind with ⟨isComment, -⟩ | ⟨held, -, isDigit⟩
    · exact isComment
    · exact absurd isDigit (by decide)
  exact ⟨⟨star, notDigit, notSlash, final notDigit notSlash⟩, slash, changed, before, rest, piece,
    cut, completed, isComment⟩

end Codebook.Grammar
