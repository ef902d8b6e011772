import Codebook.Proofs.Definition.Rejection

/-!
# Line endings

A text may end its lines with a carriage return and a line feed, or with the line feed alone. The
carriage return is a blank, so it is passed over between the pieces of a text and in the gaps of an
entry. In messages and comments it is a character like any other. It ends codes and names as the line
feed does, it is no escape where the line feed is none, and it does not come between the two
characters of a comment mark.

So every reader takes from a text with carriage returns what it takes from the text without them. The
one exception is the line comment, which takes the carriage return that stands before its line feed;
the scan goes on with the same pieces behind it. Positions stay as well, since no column counts a
carriage return that has a line feed behind it.
-/

namespace Codebook.Text

/-- A text with a carriage return before each of its line feeds. -/
def crlf (text : List Char) : List Char :=
  text.flatMap fun c => if c = '\n' then ['\r', '\n'] else [c]

@[simp]
theorem crlf_nil : crlf [] = [] := rfl

@[simp]
theorem crlf_feed (rest : List Char) : crlf ('\n' :: rest) = '\r' :: '\n' :: crlf rest := rfl

theorem crlf_cons {c : Char} (notFeed : c ≠ '\n') (rest : List Char) :
    crlf (c :: rest) = c :: crlf rest := by
  simp [crlf, notFeed]

theorem crlf_append (text rest : List Char) : crlf (text ++ rest) = crlf text ++ crlf rest :=
  List.flatMap_append

/-- A text starts with a class as before if the class has both or neither of the two characters: only
a carriage return takes the place of a line feed at the start. -/
theorem any_head?_crlf {p : Char → Bool} (alike : p '\r' = p '\n') (text : List Char) :
    (crlf text).head?.any p = text.head?.any p := by
  cases text with
  | nil => rfl
  | cons c rest =>
    by_cases feed : c = '\n'
    · subst feed
      exact alike
    · rw [crlf_cons feed]
      rfl

/-- A text starts with any other character exactly if it did before. -/
theorem head?_crlf {c : Char} (notReturn : c ≠ '\r') (notFeed : c ≠ '\n') (text : List Char) :
    (crlf text).head? = some c ↔ text.head? = some c := by
  have alike : decide ('\r' = c) = decide ('\n' = c) := by
    simp [notReturn.symm, notFeed.symm]
  have same := any_head?_crlf (p := fun d => decide (d = c)) alike text
  rw [Bool.eq_iff_iff] at same
  simpa [Option.any_eq_true] using same

/-- A carriage return before a line feed leaves the position behind the line feed as it is, and so all
positions of a text. -/
theorem Position.after_crlf (before : List Char) :
    Position.after (crlf before) = Position.after before := by
  have anywhere : ∀ position : Position,
      (crlf before).foldl Position.next position = before.foldl Position.next position := by
    induction before with
    | nil => exact fun position => rfl
    | cons c before ih =>
      intro position
      by_cases feed : c = '\n'
      · subst feed
        have step : (position.next '\r').next '\n' = position.next '\n' := by simp [Position.next]
        rw [crlf_feed, List.foldl_cons, List.foldl_cons, List.foldl_cons, step, ih]
      · rw [crlf_cons feed, List.foldl_cons, List.foldl_cons, ih]
  exact anywhere .start

end Codebook.Text

namespace Codebook.Grammar

open Text

/-! ## Readers -/

/-- A class that has both or neither of the two characters is left out alike. -/
theorem dropWhile_crlf {p : Char → Bool} (alike : p '\r' = p '\n') (text : List Char) :
    (crlf text).dropWhile p = crlf (text.dropWhile p) := by
  induction text with
  | nil => rfl
  | cons c rest ih =>
    by_cases feed : c = '\n'
    · subst feed
      by_cases inside : p '\n' = true
      · simp [alike, inside, ih]
      · simp [alike, inside]
    · rw [crlf_cons feed]
      by_cases inside : p c = true
      · simp [inside, ih]
      · simp [inside, crlf_cons feed]

/-- A class that has neither of the two characters is taken alike. -/
theorem takeWhile_crlf {p : Char → Bool} (noReturn : p '\r' = false) (noFeed : p '\n' = false)
    (text : List Char) : (crlf text).takeWhile p = text.takeWhile p := by
  induction text with
  | nil => rfl
  | cons c rest ih =>
    by_cases feed : c = '\n'
    · subst feed
      simp [noReturn, noFeed]
    · rw [crlf_cons feed, List.takeWhile_cons, List.takeWhile_cons, ih]

theorem dropBlanks_crlf (text : List Char) : dropBlanks (crlf text) = crlf (dropBlanks text) :=
  dropWhile_crlf (by decide) text

theorem expect?_crlf {mark : Char} (notReturn : mark ≠ '\r') (notFeed : mark ≠ '\n')
    (text : List Char) : expect? mark (crlf text) = (expect? mark text).map crlf := by
  cases text with
  | nil => rfl
  | cons c rest =>
    by_cases feed : c = '\n'
    · subst feed
      simp [expect?, notReturn.symm, notFeed.symm]
    · rw [crlf_cons feed]
      by_cases found : c = mark
      · simp [expect?, found]
      · simp [expect?, found]

theorem afterBlanks?_crlf (text : List Char) :
    afterBlanks? (crlf text) = (afterBlanks? text).map crlf := by
  have blankReturn : isBlank '\r' = true := by decide
  have blankFeed : isBlank '\n' = true := by decide
  cases text with
  | nil => rfl
  | cons c rest =>
    by_cases feed : c = '\n'
    · subst feed
      have gone : dropBlanks ('\n' :: crlf rest) = crlf (dropBlanks rest) := by
        rw [← dropBlanks_crlf, dropBlanks, List.dropWhile_cons_of_pos blankFeed]
        rfl
      simp [afterBlanks?, blankReturn, blankFeed, gone]
    · rw [crlf_cons feed]
      by_cases blank : isBlank c = true
      · simp [afterBlanks?, blank, dropBlanks_crlf]
      · simp [afterBlanks?, blank]

/-- Neither of the two characters continues a code. What continues one is a digit, or an underscore
with a digit behind it, and there is none of them behind the underscore either. -/
theorem readCodeTail_crlf (text : List Char) :
    readCodeTail (crlf text) = (readCodeTail text).map id crlf := by
  have returnNoDigit : isDecimalDigit '\r' = false := by decide
  have feedNoDigit : isDecimalDigit '\n' = false := by decide
  induction text with
  | nil => rfl
  | cons c rest ih =>
    by_cases feed : c = '\n'
    · subst feed
      simp [readCodeTail, returnNoDigit, feedNoDigit]
    · have sameNext : (crlf rest).head?.any isDecimalDigit = rest.head?.any isDecimalDigit :=
        any_head?_crlf (returnNoDigit.trans feedNoDigit.symm) rest
      rw [crlf_cons feed]
      by_cases goesOn : (isDecimalDigit c || (c = '_' && rest.head?.any isDecimalDigit)) = true
      · simp only [readCodeTail, sameNext, goesOn, if_true, ih, Prod.map, id]
      · simp only [readCodeTail, sameNext, goesOn, Bool.false_eq_true, if_false, Prod.map, id,
          crlf_cons feed]

theorem readCode?_crlf (text : List Char) :
    readCode? (crlf text) = (readCode? text).map (Prod.map id crlf) := by
  cases text with
  | nil => rfl
  | cons c rest =>
    by_cases feed : c = '\n'
    · subst feed
      simp [readCode?, show isDecimalDigit '\r' = false by decide,
        show isDecimalDigit '\n' = false by decide]
    · rw [crlf_cons feed]
      by_cases digit : isDecimalDigit c = true
      · simp [readCode?, digit, readCodeTail_crlf, Prod.map]
      · simp [readCode?, digit]

theorem readName?_crlf (text : List Char) :
    readName? (crlf text) = (readName? text).map (Prod.map id crlf) := by
  have noReturn : isNamePart '\r' = false := by decide
  have noFeed : isNamePart '\n' = false := by decide
  cases text with
  | nil => rfl
  | cons c rest =>
    by_cases feed : c = '\n'
    · subst feed
      simp [readName?, show isNameStart '\r' = false by decide,
        show isNameStart '\n' = false by decide]
    · rw [crlf_cons feed]
      by_cases start : isNameStart c = true
      · simp [readName?, start, takeWhile_crlf noReturn noFeed,
          dropWhile_crlf (noReturn.trans noFeed.symm)]
      · simp [readName?, start]

/-- A message ends at the same quote. The induction follows the reader: inside an escape neither of
the two characters may stand, outside both may. -/
theorem messageRest?_crlf (hexLeft : Nat) (text : List Char) :
    messageRest? hexLeft (crlf text) = (messageRest? hexLeft text).map crlf := by
  fun_induction messageRest? hexLeft text with
  | case1 hexLeft => cases hexLeft <;> rfl
  | case2 hexLeft c rest isHex ih =>
    have notFeed : c ≠ '\n' := ne_of_class isHex (by decide)
    rw [crlf_cons notFeed, messageRest?, if_pos isHex, ih]
  | case3 hexLeft c rest notHex =>
    by_cases feed : c = '\n'
    · subst feed
      simp [messageRest?, show isHexDigit '\r' = false by decide]
    · rw [crlf_cons feed, messageRest?, if_neg notHex]
      rfl
  | case4 rest =>
    have closed : messageRest? 0 ('"' :: crlf rest) = some (crlf rest) :=
      messageRest?_eq_some_iff.mpr ⟨[], .empty, rfl⟩
    rw [crlf_cons (by decide), closed]
    rfl
  | case5 => rfl
  | case6 e rest known _ ih =>
    have notFeed : e ≠ '\n' := ne_of_class known (by decide)
    rw [crlf_cons (by decide), crlf_cons notFeed]
    simpa [messageRest?, known] using ih
  | case7 rest _ _ ih =>
    rw [crlf_cons (by decide), crlf_cons (by decide)]
    simpa [messageRest?, show isShortEscape 'u' = false by decide] using ih
  | case8 rest _ _ _ ih =>
    rw [crlf_cons (by decide), crlf_cons (by decide)]
    simpa [messageRest?, show isShortEscape 'U' = false by decide] using ih
  | case9 e rest unknown notFour notEight _ =>
    rw [crlf_cons (by decide)]
    by_cases feed : e = '\n'
    · subst feed
      simp [messageRest?, show isShortEscape '\r' = false by decide]
    · rw [crlf_cons feed]
      simp [messageRest?, unknown, notFour, notEight]
  | case10 c rest notQuote notBackslash ih =>
    by_cases feed : c = '\n'
    · subst feed
      rw [crlf_feed, messageRest?_plain (by decide) (by decide),
        messageRest?_plain (by decide) (by decide), ih]
    · rw [crlf_cons feed, messageRest?_plain notBackslash notQuote, ih]

/-- A block comment ends at the same place, as neither of the two characters is part of its end. -/
theorem afterBlockEnd?_crlf (text : List Char) :
    afterBlockEnd? (crlf text) = (afterBlockEnd? text).map crlf := by
  induction text with
  | nil => rfl
  | cons c rest ih =>
    by_cases feed : c = '\n'
    · subst feed
      simp [afterBlockEnd?, ih]
    · rw [crlf_cons feed]
      have sameNext := head?_crlf (c := '/') (by decide) (by decide) rest
      by_cases closes : c = '*' ∧ rest.head? = some '/'
      · obtain ⟨star, slash⟩ := closes
        obtain ⟨behind, rfl⟩ := List.head?_eq_some_iff.mp slash
        rw [crlf_cons (by decide)]
        simp [afterBlockEnd?, star]
      · have goesOn : ¬ (c = '*' ∧ (crlf rest).head? = some '/') := by
          rw [sameNext]
          exact closes
        rw [afterBlockEnd?, afterBlockEnd?, if_neg goesOn, if_neg closes, ih]

/-- An entry stands where it stood, with the same definition. -/
theorem entryAt?_crlf (text : List Char) :
    entryAt? (crlf text) = (entryAt? text).map (Prod.map id crlf) := by
  have equals := @expect?_crlf '=' (by decide) (by decide)
  have quote := @expect?_crlf '"' (by decide) (by decide)
  have semicolon := @expect?_crlf ';' (by decide) (by decide)
  simp only [entryAt?, bind, pure, readCode?_crlf, afterBlanks?_crlf, readName?_crlf, dropBlanks_crlf,
    messageRest?_crlf, equals, quote, semicolon, Option.bind_map, Option.map_bind, Option.map_some,
    Function.comp_def, Prod.map, id]

/-! ## Scanning -/

/-- Behind a line comment the scan goes on alike. The carriage return at the end of the line belongs
to the comment; without the comment it would be passed over. -/
theorem scanFrom_line_crlf (text : List Char) :
    scanFrom ((crlf text).dropWhile (· ≠ '\n')) = scanFrom (crlf (text.dropWhile (· ≠ '\n'))) := by
  induction text with
  | nil => rfl
  | cons c rest ih =>
    by_cases feed : c = '\n'
    · subst feed
      have blank : isBlank '\r' = true := by decide
      have left : (crlf ('\n' :: rest)).dropWhile (· ≠ '\n') = '\n' :: crlf rest := by simp
      have whole : ('\n' :: rest).dropWhile (· ≠ '\n') = '\n' :: rest := by simp
      rw [left, whole, crlf_feed, scanFrom_of_blank blank]
    · rw [crlf_cons feed]
      simpa [feed] using ih

/-- A slash with neither a slash nor a star behind it starts no comment. -/
theorem comment?_slash_eq_none {d : Char} (notLine : d ≠ '/') (notBlock : d ≠ '*')
    (rest : List Char) : comment? ('/' :: d :: rest) = none := by
  unfold comment?
  split
  · next same => exact absurd (List.cons.inj (List.cons.inj same).2).1 notLine
  · next same => exact absurd (List.cons.inj (List.cons.inj same).2).1 notBlock
  · rfl

/-- A comment stands where it stood, and behind it the scan goes on alike. The cases are the first two
characters of the text, which decide whether a comment is read and which kind it is of. -/
theorem comment?_crlf (text : List Char) :
    (comment? (crlf text)).map scanFrom =
      (comment? text).map fun after => scanFrom (crlf after) := by
  cases text with
  | nil => rfl
  | cons c rest =>
    by_cases slash : c = '/'
    · subst slash
      rw [crlf_cons (by decide)]
      cases rest with
      | nil => rfl
      | cons d rest =>
        by_cases line : d = '/'
        · subst line
          rw [crlf_cons (by decide)]
          exact congrArg some (scanFrom_line_crlf rest)
        · by_cases block : d = '*'
          · subst block
            rw [crlf_cons (by decide), comment?, afterBlockEnd?_crlf, Option.map_map]
            rfl
          · rw [comment?_slash_eq_none line block]
            by_cases feed : d = '\n'
            · subst feed
              rw [crlf_feed, comment?_slash_eq_none (by decide) (by decide)]
              rfl
            · rw [crlf_cons feed, comment?_slash_eq_none line block]
              rfl
    · rw [comment?_eq_none slash]
      by_cases feed : c = '\n'
      · subst feed
        rw [crlf_feed, comment?_eq_none (by decide)]
        rfl
      · rw [crlf_cons feed, comment?_eq_none slash]
        rfl

/-- Where no comment stood, none stands. -/
theorem comment?_crlf_eq_none {text : List Char} (none : comment? text = none) :
    comment? (crlf text) = Option.none := by
  rw [← Option.map_eq_none_iff, comment?_crlf, none, Option.map_none]

/-- The scan of a text with carriage returns gives the same definitions, or is left with the same
rest, with carriage returns in it. The induction follows the scan of the text without them. -/
theorem scanFrom_crlf (text : List Char) :
    scanFrom (crlf text) = (scanFrom text).mapError crlf := by
  fun_induction scanFrom text with
  | case1 => rw [crlf_nil, scanFrom]; rfl
  | case2 c rest after found ih =>
    have alike := comment?_crlf (c :: rest)
    rw [found, Option.map_some] at alike
    obtain ⟨behind, foundToo, same⟩ := Option.map_eq_some_iff.mp alike
    rw [scanFrom_of_comment foundToo, same, ih]
  | case3 c rest noComment definition after found ih =>
    have noCommentToo : comment? (crlf (c :: rest)) = none := comment?_crlf_eq_none noComment
    have foundToo : entryAt? (crlf (c :: rest)) = some (definition, crlf after) := by
      rw [entryAt?_crlf, found]
      rfl
    rw [scanFrom_of_entry noCommentToo foundToo, ih]
    cases scanFrom after <;> rfl
  | case4 c rest noComment noEntry blank ih =>
    by_cases feed : c = '\n'
    · subst feed
      have blankReturn : isBlank '\r' = true := by decide
      rw [crlf_feed, scanFrom_of_blank blankReturn, scanFrom_of_blank blank, ih]
    · rw [crlf_cons feed, scanFrom_of_blank blank, ih]
  | case5 c rest noComment noEntry notBlank =>
    have notFeed : c ≠ '\n' := by
      rintro rfl
      exact notBlank (by decide)
    have noCommentToo : comment? (crlf (c :: rest)) = none := comment?_crlf_eq_none noComment
    have noEntryToo : entryAt? (crlf (c :: rest)) = none := by
      rw [entryAt?_crlf, noEntry, Option.map_none]
    rw [crlf_cons notFeed] at noCommentToo noEntryToo
    rw [crlf_cons notFeed, scanFrom_of_neither noCommentToo noEntryToo, if_neg notBlank]
    exact congrArg Except.error (crlf_cons notFeed rest).symm

/-- A text is scanned alike with a carriage return before each of its line feeds: the definitions are
the same, or the stray character is, with the same line and the same column.

Proof: a stray character is no blank, so it is not one of the characters that are put in, and the
position behind the text before it does not count them. -/
theorem scan_crlf (text : String) : scan (String.ofList (crlf text.toList)) = scan text := by
  cases scanned : scanFrom text.toList with
  | ok definitions =>
    have alike : scanFrom (crlf text.toList) = .ok definitions := by
      rw [scanFrom_crlf, scanned]
      rfl
    rw [scan_eq_ok_iff.mpr scanned, scan_eq_ok_iff, String.toList_ofList, alike]
  | error rest =>
    obtain ⟨pieces, split, -, stuck⟩ := stuck_of_scanFrom scanned
    have splitToo : (String.ofList (crlf text.toList)).toList = crlf (textOf pieces) ++ crlf rest := by
      rw [String.toList_ofList, split, crlf_append]
    have alike : scanFrom (String.ofList (crlf text.toList)).toList = .error (crlf rest) := by
      rw [String.toList_ofList, scanFrom_crlf, scanned]
      rfl
    obtain ⟨c, tail, rfl⟩ := List.exists_cons_of_ne_nil stuck.notEmpty
    have notFeed : c ≠ '\n' := by
      rintro rfl
      exact absurd (stuck.notBlank '\n' rfl) (by decide)
    rw [scan_error_of_rest split scanned, scan_error_of_rest splitToo alike, atStartOf_append,
      atStartOf_append, Position.after_crlf, crlf_cons notFeed]
    rfl

/-- Carriage returns inside a comment, a message and a gap, and the number sign behind them. -/
example : scan "1 A\r\n=\"\r\n\"; // x\r\n #" = .error ⟨'#', ⟨4, 2⟩⟩ := by decide +kernel

end Codebook.Grammar
