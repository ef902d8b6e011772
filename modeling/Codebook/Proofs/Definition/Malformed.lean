import Codebook.Proofs.Definition.Scanning

/-!
# Entries that are begun and not finished

An entry is written part by part, and after each part there are texts it cannot go on with. Where
one of them follows, no entry stands at the start of the code, however the text goes on. There is no
partial answer either: the scan is stuck at the first digit of the code.

The same holds of a block comment that is never closed. It is stuck at its slash.
-/

namespace Codebook.Grammar

open Text

/-- The parts of an entry that have an end of their own. -/
inductive Part where
  | code
  | name
  | equals
  | message
  | closed
  deriving DecidableEq

/-- The text of an entry up to the end of a part. Inside a message that is some of its body, cut
between two escapes or characters; the closing quote is the end of the next part. -/
inductive Begun : Part → List Char → Prop where
  | code (code : List Char) (isCode : IsCode code) : Begun .code code
  | name {text : List Char} (begun : Begun .code text) (gap name : List Char) (notEmpty : gap ≠ [])
      (allBlank : AllBlank gap) (isName : IsName name) : Begun .name (text ++ (gap ++ name))
  | equals {text : List Char} (begun : Begun .name text) (gap : List Char)
      (allBlank : AllBlank gap) : Begun .equals (text ++ (gap ++ ['=']))
  | message {text : List Char} (begun : Begun .equals text) (gap body : List Char)
      (allBlank : AllBlank gap) (isMessage : IsMessage body) :
      Begun .message (text ++ (gap ++ '"' :: body))
  | closed {text : List Char} (begun : Begun .message text) : Begun .closed (text ++ ['"'])

/-- Texts that start with an entry which is not written as it has to be: an underscore in its code with no
digit behind it, such as the first one of two in a row or one before a comment; a comment anywhere else
in it but inside its message; a backslash in its message that starts no escape; a message without an
end; something else in place of its semicolon, or nothing. -/
inductive Malformed : List Char → Prop where
  | danglingUnderscore (code rest : List Char) (isCode : IsCode code)
      (noDigit : Stops isDecimalDigit rest) : Malformed (code ++ '_' :: rest)
  | commentInside {part : Part} {text : List Char} (begun : Begun part text)
      (outside : part ≠ .message) (gap rest : List Char) (allBlank : AllBlank gap) :
      Malformed (text ++ (gap ++ '/' :: rest))
  | badEscape {text : List Char} (begun : Begun .message text) (rest : List Char)
      (noEscape : ∀ escape, IsEscape escape → ¬ escape <+: '\\' :: rest) :
      Malformed (text ++ '\\' :: rest)
  | unterminated {text : List Char} (begun : Begun .message text) : Malformed text
  | missingSemicolon {text : List Char} (begun : Begun .closed text) (gap rest : List Char)
      (allBlank : AllBlank gap) (notBlank : Stops isBlank rest) (other : rest.head? ≠ some ';') :
      Malformed (text ++ (gap ++ rest))

/-- Two underscores in a row. -/
theorem Malformed.doubledUnderscore (code rest : List Char) (isCode : IsCode code) :
    Malformed (code ++ '_' :: '_' :: rest) :=
  .danglingUnderscore code _ isCode (stops_cons (by decide) rest)

/-- A comment inside a code, behind an underscore and perhaps behind blanks. -/
theorem Malformed.commentInCode {code gap : List Char} (isCode : IsCode code) (allBlank : AllBlank gap)
    (rest : List Char) : Malformed (code ++ '_' :: (gap ++ '/' :: rest)) := by
  refine .danglingUnderscore code _ isCode ?_
  cases gap with
  | nil => exact stops_cons (by decide) rest
  | cons c blanks => exact stops_cons (not_digit_of_blank (allBlank c List.mem_cons_self)) _

/-! ## What an entry still asks for -/

/-- What follows an entry, read from behind the closing quote of its message. -/
def finishClosed? (text : List Char) : Option (List Char) :=
  expect? ';' (dropBlanks text)

/-- What follows an entry, read from inside its message. -/
def finishMessage? (text : List Char) : Option (List Char) :=
  (messageRest? 0 text).bind finishClosed?

/-- What follows an entry, read from behind its equals sign. -/
def finishEquals? (text : List Char) : Option (List Char) :=
  (expect? '"' (dropBlanks text)).bind finishMessage?

/-- What follows an entry, read from behind its name. -/
def finishName? (text : List Char) : Option (List Char) :=
  (expect? '=' (dropBlanks text)).bind finishEquals?

/-- What follows an entry, read from behind its code. -/
def finishCode? (text : List Char) : Option (List Char) :=
  ((afterBlanks? text).bind readName?).bind fun named => finishName? named.2

/-- What follows an entry, read from behind one of its parts. -/
def Part.finish? : Part → List Char → Option (List Char)
  | .code => finishCode?
  | .name => finishName?
  | .equals => finishEquals?
  | .message => finishMessage?
  | .closed => finishClosed?

/-- A part ends before `rest`. Codes and names go on as far as they can, the other parts end with a
mark of their own. -/
def Part.Ends : Part → (rest : List Char) → Prop
  | .code, rest => ¬ ContinuesCode rest
  | .name, rest => Stops isNamePart rest
  | _, _ => True

/-- An entry is read part by part. -/
theorem entryAt?_behind (text : List Char) :
    (entryAt? text).map Prod.snd = (readCode? text).bind fun coded => finishCode? coded.2 := by
  simp only [entryAt?, finishCode?, finishName?, bind, pure, Option.map_bind, Option.bind_assoc,
    Function.comp_def, Option.map_some, Option.bind_fun_some]
  rfl

/-- Where an entry is begun, it is there as a whole exactly if what it still asks for is there. -/
theorem entryAt?_begun {part : Part} {text rest : List Char} (begun : Begun part text)
    (ends : part.Ends rest) : (entryAt? (text ++ rest)).map Prod.snd = part.finish? rest := by
  induction begun generalizing rest with
  | code code isCode =>
    rw [entryAt?_behind, readCode?_eq_some_iff.mpr ⟨isCode, rfl, ends⟩]
    rfl
  | name begun gap name notEmpty allBlank isName ih =>
    obtain ⟨c, blanks, rfl⟩ := List.exists_cons_of_ne_nil notEmpty
    have blank : isBlank c = true := allBlank c List.mem_cons_self
    have gapRead : afterBlanks? ((c :: blanks) ++ (name ++ rest)) = some (name ++ rest) :=
      afterBlanks?_eq_some_iff.mpr
        ⟨c :: blanks, notEmpty, allBlank, rfl, stops_blank_of_name isName rest⟩
    have nameRead : readName? (name ++ rest) = some (name, rest) :=
      readName?_eq_some_iff.mpr ⟨isName, rfl, ends⟩
    have codeEnds : ¬ ContinuesCode ((c :: blanks) ++ (name ++ rest)) :=
      not_continuesCode_of_blank blank _
    rw [List.append_assoc, List.append_assoc, ih codeEnds]
    simp only [Part.finish?, finishCode?, gapRead, nameRead, Option.bind_some]
  | equals begun gap allBlank ih =>
    have read : expect? '=' (dropBlanks (gap ++ '=' :: rest)) = some rest :=
      (expect?_dropBlanks_eq_some_iff (by decide)).mpr ⟨gap, allBlank, rfl⟩
    have nameEnds : Stops isNamePart (gap ++ '=' :: rest) :=
      stops_name_of_blanks allBlank (stops_cons (by decide) rest)
    rw [List.append_assoc, List.append_assoc, List.singleton_append, ih nameEnds]
    simp only [Part.finish?, finishName?, read, Option.bind_some]
  | message begun gap body allBlank isMessage ih =>
    have read : expect? '"' (dropBlanks (gap ++ '"' :: (body ++ rest))) = some (body ++ rest) :=
      (expect?_dropBlanks_eq_some_iff (by decide)).mpr ⟨gap, allBlank, rfl⟩
    rw [List.append_assoc, List.append_assoc, List.cons_append, ih trivial]
    simp only [Part.finish?, finishEquals?, read, Option.bind_some, finishMessage?,
      messageRest?_body isMessage]
  | closed begun ih =>
    have read : messageRest? 0 ('"' :: rest) = some rest :=
      messageRest?_eq_some_iff.mpr ⟨[], .empty, rfl⟩
    rw [List.append_assoc, List.singleton_append, ih trivial]
    simp only [Part.finish?, finishMessage?, read, Option.bind_some]

/-- An entry that is begun starts with a digit. -/
theorem Begun.starts_with_digit {part : Part} {text : List Char} (begun : Begun part text) :
    ∃ d tail, text = d :: tail ∧ isDecimalDigit d = true := by
  induction begun with
  | code code isCode =>
    obtain ⟨d, tail, rfl, isDigit, -⟩ := is_code_iff.mp isCode
    exact ⟨d, tail, rfl, isDigit⟩
  | name _ _ _ _ _ _ ih | equals _ _ _ ih | message _ _ _ _ _ ih | closed _ ih =>
    obtain ⟨d, tail, rfl, isDigit⟩ := ih
    exact ⟨d, _, List.cons_append, isDigit⟩

/-! ## Stuck texts -/

/-- An entry that is begun and cannot be finished is stuck at the first digit of its code. -/
theorem Begun.stuck {part : Part} {text rest : List Char} (begun : Begun part text)
    (ends : part.Ends rest) (unfinished : part.finish? rest = none) :
    Stuck (text ++ rest) ∧ ∃ d, (text ++ rest).head? = some d ∧ isDecimalDigit d = true := by
  obtain ⟨d, tail, rfl, isDigit⟩ := begun.starts_with_digit
  have noEntry : entryAt? (d :: tail ++ rest) = none := by
    rw [← Option.map_eq_none_iff, entryAt?_begun begun ends, unfinished]
  exact ⟨stuck_of_digit isDigit (no_entry_prefix_iff.mp noEntry), d, rfl, isDigit⟩

/-- A mark is not read where blanks stand before another character. -/
theorem expect?_other {mark c : Char} (other : c ≠ mark) (notBlank : isBlank c = false)
    {gap : List Char} (allBlank : AllBlank gap) (rest : List Char) :
    expect? mark (dropBlanks (gap ++ c :: rest)) = none := by
  rw [dropBlanks, dropWhile_run allBlank (stops_cons notBlank rest)]
  simp [expect?, other]

/-- A comment is not what an entry goes on with, at any place outside its message. -/
theorem finish?_comment {part : Part} (outside : part ≠ .message) {gap : List Char}
    (allBlank : AllBlank gap) (rest : List Char) : part.finish? (gap ++ '/' :: rest) = none := by
  have slashNotBlank : isBlank '/' = false := by decide
  cases part with
  | code =>
    have noName : readName? ('/' :: rest) = none := by
      simp [readName?, show isNameStart '/' = false by decide]
    cases gap with
    | nil => simp [Part.finish?, finishCode?, afterBlanks?, slashNotBlank]
    | cons c blanks =>
      have gapRead : afterBlanks? ((c :: blanks) ++ '/' :: rest) = some ('/' :: rest) :=
        afterBlanks?_eq_some_iff.mpr
          ⟨c :: blanks, List.cons_ne_nil _ _, allBlank, rfl, stops_cons slashNotBlank rest⟩
      simp only [Part.finish?, finishCode?, gapRead, noName, Option.bind_some, Option.bind_none]
  | name =>
    have noEquals := expect?_other (show '/' ≠ '=' by decide) slashNotBlank allBlank rest
    simp only [Part.finish?, finishName?, noEquals, Option.bind_none]
  | equals =>
    have noQuote := expect?_other (show '/' ≠ '"' by decide) slashNotBlank allBlank rest
    simp only [Part.finish?, finishEquals?, noQuote, Option.bind_none]
  | message => exact absurd rfl outside
  | closed => exact expect?_other (by decide) slashNotBlank allBlank rest

/-- A comment ends a part of an entry. -/
theorem ends_comment (part : Part) {gap : List Char} (allBlank : AllBlank gap)
    (rest : List Char) : part.Ends (gap ++ '/' :: rest) := by
  cases part with
  | code =>
    cases gap with
    | nil => simp [Part.Ends, ContinuesCode, show isDecimalDigit '/' = false by decide]
    | cons c blanks => exact not_continuesCode_of_blank (allBlank c List.mem_cons_self) _
  | name => exact stops_name_of_blanks allBlank (stops_cons (by decide) rest)
  | equals | message | closed => trivial

/-- A message does not go on with a backslash that starts no escape. -/
theorem messageRest?_bad_escape {rest : List Char}
    (noEscape : ∀ escape, IsEscape escape → ¬ escape <+: '\\' :: rest) :
    messageRest? 0 ('\\' :: rest) = none := by
  refine Option.eq_none_iff_forall_ne_some.mpr fun after found => ?_
  obtain ⟨body, isMessage, same⟩ := messageRest?_eq_some_iff.mp found
  cases isMessage with
  | empty => simp at same
  | plain c body notBackslash _ _ => exact notBackslash (List.cons.inj same).1.symm
  | escaped escape body isEscape _ =>
    rw [List.append_assoc] at same
    exact noEscape escape isEscape (same ▸ List.prefix_append _ _)

/-- A malformed entry is stuck at the first digit of its code. -/
theorem Malformed.stuck {text : List Char} (malformed : Malformed text) :
    Stuck text ∧ ∃ d, text.head? = some d ∧ isDecimalDigit d = true := by
  cases malformed with
  | danglingUnderscore code rest isCode noDigit =>
    have ends : ¬ ContinuesCode ('_' :: rest) := by
      cases rest with
      | nil => simp [ContinuesCode, show isDecimalDigit '_' = false by decide]
      | cons c rest => simp [ContinuesCode, show isDecimalDigit '_' = false by decide, noDigit c rfl]
    refine (Begun.code code isCode).stuck ends ?_
    simp [Part.finish?, finishCode?, afterBlanks?, show isBlank '_' = false by decide]
  | commentInside begun outside gap rest allBlank =>
    exact begun.stuck (ends_comment _ allBlank rest) (finish?_comment outside allBlank rest)
  | badEscape begun rest noEscape =>
    refine begun.stuck trivial ?_
    simp [Part.finish?, finishMessage?, messageRest?_bad_escape noEscape]
  | unterminated begun =>
    have stuck : Stuck (text ++ []) ∧ ∃ d, (text ++ []).head? = some d ∧ isDecimalDigit d = true :=
      begun.stuck trivial rfl
    rwa [List.append_nil] at stuck
  | missingSemicolon begun gap rest allBlank notBlank other =>
    refine begun.stuck trivial ?_
    simp only [Part.finish?, finishClosed?, dropBlanks, dropWhile_run allBlank notBlank]
    refine Option.eq_none_iff_forall_ne_some.mpr fun after found => ?_
    rw [expect?_eq_some_iff.mp found] at other
    exact other rfl

/-- A block comment that is never closed is stuck at its slash. -/
theorem stuck_of_open_comment {body : List Char} (notClosed : ¬ ['*', '/'] <:+: body) :
    Stuck ('/' :: '*' :: body) := by
  have noComment : comment? ('/' :: '*' :: body) = none := by
    refine Option.eq_none_iff_forall_ne_some.mpr fun after found => ?_
    obtain ⟨inside, -, rfl⟩ := afterBlockEnd?_eq_some_iff.mp found
    exact notClosed ⟨inside, after, by simp⟩
  apply stuck_of_slash
  exact no_comment_prefix noComment

end Codebook.Grammar
