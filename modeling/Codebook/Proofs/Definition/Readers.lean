import Codebook.Proofs.Definition.Grammar
import Codebook.Proofs.Text.Classes
import Mathlib.Data.List.TakeWhile

/-!
# Every reader reads its part of the grammar

Each reader of definition texts takes from the start of a text what its part of the grammar allows,
as far as it goes, and nothing else. The laws say so as equivalences: on the one side the answer of
a reader, on the other side a cut of the text and a condition on what follows the cut. Where a
reader takes a run of characters of one class, the condition is that the run cannot go on.

Inside an entry these conditions are met on their own, since what follows a part never goes on with
it. So the reader of entries finds an entry exactly where one stands, with the same end.
-/

namespace Codebook.Grammar

open Text

/-- A text that does not start with a character of a class. -/
def Stops (p : Char → Bool) (rest : List Char) : Prop :=
  ∀ c, rest.head? = some c → p c = false

theorem stops_cons {p : Char → Bool} {c : Char} (other : p c = false) (rest : List Char) :
    Stops p (c :: rest) := by
  intro first same
  obtain rfl : c = first := Option.some.inj same
  exact other

/-- What is left behind a run of a class does not start with the class. -/
theorem stops_dropWhile (p : Char → Bool) (text : List Char) : Stops p (text.dropWhile p) := by
  intro c first
  have notEmpty : text.dropWhile p ≠ [] := by
    intro empty
    simp [empty] at first
  have stopped := List.head_dropWhile_not p notEmpty
  rw [List.head?_eq_some_head notEmpty, Option.some.injEq] at first
  exact first ▸ stopped

/-- A run of a class is taken as a whole. -/
theorem takeWhile_run {p : Char → Bool} {run rest : List Char} (all : ∀ c ∈ run, p c = true)
    (stops : Stops p rest) : (run ++ rest).takeWhile p = run := by
  rw [List.takeWhile_append_of_pos all]
  cases rest with
  | nil => simp
  | cons c rest => simp [stops c rfl]

/-- A run of a class is left out as a whole. -/
theorem dropWhile_run {p : Char → Bool} {run rest : List Char} (all : ∀ c ∈ run, p c = true)
    (stops : Stops p rest) : (run ++ rest).dropWhile p = rest := by
  rw [List.dropWhile_append_of_pos all]
  cases rest with
  | nil => simp
  | cons c rest => simp [stops c rfl]

/-- A run of a class with an end behind it is cut off in one way only. -/
theorem run_unique {p : Char → Bool} {run other rest behind : List Char}
    (all : ∀ c ∈ run, p c = true) (otherAll : ∀ c ∈ other, p c = true) (stops : Stops p rest)
    (otherStops : Stops p behind) (same : run ++ rest = other ++ behind) :
    run = other ∧ rest = behind := by
  constructor
  · rw [← takeWhile_run all stops, same, takeWhile_run otherAll otherStops]
  · rw [← dropWhile_run all stops, same, dropWhile_run otherAll otherStops]

/-! ## Marks and blanks -/

/-- An expected character is read exactly where it stands. -/
theorem expect?_eq_some_iff {mark : Char} {text rest : List Char} :
    expect? mark text = some rest ↔ text = mark :: rest := by
  cases text with
  | nil => simp [expect?]
  | cons c tail =>
    simp only [expect?, List.cons.injEq]
    split
    · next same => simp [same]
    · next different => simp [different]

/-- Behind blanks, an expected character is read exactly where only blanks stand before it. -/
theorem expect?_dropBlanks_eq_some_iff {mark : Char} (notBlank : isBlank mark = false)
    {text rest : List Char} :
    expect? mark (dropBlanks text) = some rest ↔
      ∃ blanks, AllBlank blanks ∧ text = blanks ++ mark :: rest := by
  rw [expect?_eq_some_iff]
  constructor
  · intro found
    refine ⟨text.takeWhile isBlank, fun c member => List.mem_takeWhile_imp member, ?_⟩
    rw [← found]
    exact (List.takeWhile_append_dropWhile (p := isBlank) (l := text)).symm
  · rintro ⟨blanks, allBlank, rfl⟩
    exact dropWhile_run allBlank (stops_cons notBlank rest)

/-- The blanks of a gap are left out as a whole. -/
theorem afterBlanks?_eq_some_iff {text rest : List Char} :
    afterBlanks? text = some rest ↔
      ∃ blanks, blanks ≠ [] ∧ AllBlank blanks ∧ text = blanks ++ rest ∧ Stops isBlank rest := by
  constructor
  · intro found
    cases text with
    | nil => simp [afterBlanks?] at found
    | cons c tail =>
      simp only [afterBlanks?] at found
      split at found
      · next blank =>
        obtain rfl := Option.some.inj found
        refine ⟨c :: tail.takeWhile isBlank, List.cons_ne_nil _ _, ?_, ?_, stops_dropWhile _ _⟩
        · intro d member
          rcases List.mem_cons.mp member with rfl | member
          · exact blank
          · exact List.mem_takeWhile_imp member
        · simp [dropBlanks]
      · cases found
  · rintro ⟨blanks, notEmpty, allBlank, rfl, stops⟩
    cases blanks with
    | nil => exact absurd rfl notEmpty
    | cons c blanks =>
      have blank : isBlank c = true := allBlank c List.mem_cons_self
      have dropped : dropBlanks (blanks ++ rest) = rest :=
        dropWhile_run (fun d member => allBlank d (List.mem_cons_of_mem c member)) stops
      simp [afterBlanks?, blank, dropped]

/-! ## Names -/

/-- A name is read exactly where one stands that cannot go on. -/
theorem readName?_eq_some_iff {text name rest : List Char} :
    readName? text = some (name, rest) ↔
      IsName name ∧ text = name ++ rest ∧ Stops isNamePart rest := by
  constructor
  · intro found
    cases text with
    | nil => simp [readName?] at found
    | cons c tail =>
      simp only [readName?] at found
      split at found
      · next start =>
        obtain ⟨rfl, rfl⟩ := Prod.mk.inj (Option.some.inj found)
        refine ⟨⟨c, _, rfl, start, fun d member => List.mem_takeWhile_imp member⟩, ?_,
          stops_dropWhile _ _⟩
        simp
      · cases found
  · rintro ⟨⟨c, parts, rfl, start, allParts⟩, rfl, stops⟩
    simp [readName?, start, takeWhile_run allParts stops, dropWhile_run allParts stops]

/-! ## Codes -/

/-- What may follow the first digit of a code: digits, and single underscores before a digit. -/
inductive CodeTail : List Char → Prop where
  | nothing : CodeTail []
  | digit (d : Char) (tail : List Char) (isDigit : isDecimalDigit d = true)
      (more : CodeTail tail) : CodeTail (d :: tail)
  | group (d : Char) (tail : List Char) (isDigit : isDecimalDigit d = true)
      (more : CodeTail tail) : CodeTail ('_' :: d :: tail)

/-- The text goes on with a code that stands before it. -/
def ContinuesCode : List Char → Prop
  | [] => False
  | c :: rest => (isDecimalDigit c || (c = '_' && rest.head?.any isDecimalDigit)) = true

/-- Digits before a tail only make its first group longer. -/
theorem code_tail_of_digits {digits tail : List Char}
    (allDigits : ∀ c ∈ digits, isDecimalDigit c = true) (more : CodeTail tail) :
    CodeTail (digits ++ tail) := by
  induction digits with
  | nil => exact more
  | cons d digits ih =>
    exact .digit d _ (allDigits d List.mem_cons_self)
      (ih fun c member => allDigits c (List.mem_cons_of_mem d member))

/-- Groups with single underscores between them are a digit and a tail. -/
theorem code_tail_of_groups {groups : List (List Char)} (notEmpty : groups ≠ [])
    (allGroups : ∀ group ∈ groups, group ≠ [] ∧ ∀ c ∈ group, isDecimalDigit c = true) :
    ∃ d tail, List.intercalate ['_'] groups = d :: tail ∧ isDecimalDigit d = true ∧
      CodeTail tail := by
  induction groups with
  | nil => exact absurd rfl notEmpty
  | cons group groups ih =>
    obtain ⟨groupNotEmpty, allDigits⟩ := allGroups group List.mem_cons_self
    obtain ⟨d, digits, rfl⟩ := List.exists_cons_of_ne_nil groupNotEmpty
    have isDigit : isDecimalDigit d = true := allDigits d List.mem_cons_self
    have others : ∀ c ∈ digits, isDecimalDigit c = true := fun c member =>
      allDigits c (List.mem_cons_of_mem d member)
    cases groups with
    | nil =>
      refine ⟨d, digits, by simp, isDigit, ?_⟩
      simpa using code_tail_of_digits others .nothing
    | cons next groups =>
      obtain ⟨e, tail, joined, nextDigit, more⟩ := ih (List.cons_ne_nil _ _)
        fun later member => allGroups later (List.mem_cons_of_mem _ member)
      refine ⟨d, digits ++ '_' :: e :: tail, ?_, isDigit,
        code_tail_of_digits others (.group e tail nextDigit more)⟩
      simp [List.intercalate_cons_cons, joined]

/-- A digit and a tail are groups with single underscores between them. -/
theorem groups_of_code_tail {tail : List Char} (more : CodeTail tail) :
    ∀ d, isDecimalDigit d = true → IsCode (d :: tail) := by
  induction more with
  | nothing =>
    intro d isDigit
    exact ⟨[[d]], by simp, by simp [isDigit], by simp⟩
  | digit e tail nextDigit more ih =>
    intro d isDigit
    obtain ⟨groups, notEmpty, allGroups, joined⟩ := ih e nextDigit
    obtain ⟨group, groups, rfl⟩ := List.exists_cons_of_ne_nil notEmpty
    have first := allGroups group List.mem_cons_self
    refine ⟨(d :: group) :: groups, List.cons_ne_nil _ _, ?_, ?_⟩
    · intro longer member
      rcases List.mem_cons.mp member with rfl | member
      · exact ⟨List.cons_ne_nil _ _, List.forall_mem_cons.mpr ⟨isDigit, first.2⟩⟩
      · exact allGroups longer (List.mem_cons_of_mem _ member)
    · rw [joined]
      cases groups <;> simp [List.intercalate_cons_cons]
  | group e tail nextDigit more ih =>
    intro d isDigit
    obtain ⟨groups, notEmpty, allGroups, joined⟩ := ih e nextDigit
    obtain ⟨group, groups, rfl⟩ := List.exists_cons_of_ne_nil notEmpty
    refine ⟨[d] :: group :: groups, List.cons_ne_nil _ _, ?_, ?_⟩
    · exact List.forall_mem_cons.mpr ⟨⟨List.cons_ne_nil _ _, by simp [isDigit]⟩, allGroups⟩
    · rw [List.intercalate_cons_cons, ← joined]
      rfl

/-- A code is a digit with a tail behind it. -/
theorem is_code_iff {text : List Char} :
    IsCode text ↔ ∃ d tail, text = d :: tail ∧ isDecimalDigit d = true ∧ CodeTail tail := by
  constructor
  · rintro ⟨groups, notEmpty, allGroups, rfl⟩
    exact code_tail_of_groups notEmpty allGroups
  · rintro ⟨d, tail, rfl, isDigit, more⟩
    exact groups_of_code_tail more d isDigit

/-- A tail that starts with a digit has a tail behind that digit. -/
theorem CodeTail.behind_digit {d : Char} {tail : List Char} (isDigit : isDecimalDigit d = true)
    (more : CodeTail (d :: tail)) : CodeTail tail := by
  cases more with
  | digit _ _ _ more => exact more
  | group _ _ _ _ => exact absurd isDigit (by decide)

/-- Reading the tail of a code takes a tail, leaves nothing out and stops where no code goes on. -/
theorem readCodeTail_exact (text : List Char) :
    CodeTail (readCodeTail text).1 ∧ (readCodeTail text).1 ++ (readCodeTail text).2 = text ∧
      ¬ ContinuesCode (readCodeTail text).2 := by
  induction text with
  | nil => exact ⟨.nothing, rfl, id⟩
  | cons c rest ih =>
    obtain ⟨more, joined, stopped⟩ := ih
    by_cases goesOn : (isDecimalDigit c || (c = '_' && rest.head?.any isDecimalDigit)) = true
    · simp only [readCodeTail, goesOn, if_true, Prod.map, id_eq]
      refine ⟨?_, by rw [List.cons_append, joined], stopped⟩
      rcases Bool.or_eq_true_iff.mp goesOn with isDigit | group
      · exact .digit c _ isDigit more
      · simp only [Bool.and_eq_true, decide_eq_true_eq] at group
        obtain ⟨rfl, nextDigit⟩ := group
        cases rest with
        | nil => simp at nextDigit
        | cons d rest =>
          -- The digit behind the underscore is taken by the next step of the reading.
          have isDigit : isDecimalDigit d = true := by simpa using nextDigit
          have taken : (readCodeTail (d :: rest)).1 = d :: (readCodeTail rest).1 := by
            simp [readCodeTail, isDigit]
          rw [taken] at more ⊢
          exact .group d _ isDigit (more.behind_digit isDigit)
    · have stopped : readCodeTail (c :: rest) = ([], c :: rest) := if_neg goesOn
      rw [stopped]
      exact ⟨.nothing, rfl, goesOn⟩

/-- The tail of a code is read as a whole where it cannot go on. -/
theorem readCodeTail_append {tail rest : List Char} (more : CodeTail tail)
    (stops : ¬ ContinuesCode rest) : readCodeTail (tail ++ rest) = (tail, rest) := by
  induction more with
  | nothing =>
    cases rest with
    | nil => rfl
    | cons c rest => exact if_neg stops
  | digit d tail isDigit more ih => simp [readCodeTail, isDigit, ih]
  | group d tail isDigit more ih => simp [readCodeTail, isDigit, ih]

/-- A code is read exactly where one stands that cannot go on. -/
theorem readCode?_eq_some_iff {text code rest : List Char} :
    readCode? text = some (code, rest) ↔
      IsCode code ∧ text = code ++ rest ∧ ¬ ContinuesCode rest := by
  rw [is_code_iff]
  constructor
  · intro found
    cases text with
    | nil => simp [readCode?] at found
    | cons d text =>
      simp only [readCode?] at found
      split at found
      · next isDigit =>
        obtain ⟨rfl, rfl⟩ := Prod.mk.inj (Option.some.inj found)
        obtain ⟨more, joined, stopped⟩ := readCodeTail_exact text
        exact ⟨⟨d, _, rfl, isDigit, more⟩, by simp [joined], stopped⟩
      · cases found
  · rintro ⟨⟨d, tail, rfl, isDigit, more⟩, rfl, stops⟩
    simp [readCode?, isDigit, readCodeTail_append more stops]

/-! ## Messages -/

/-- The digits that an escape asks for are passed over. -/
theorem messageRest?_digits {digits : List Char}
    (hexadecimal : ∀ d ∈ digits, isHexDigit d = true) (rest : List Char) :
    messageRest? digits.length (digits ++ rest) = messageRest? 0 rest := by
  induction digits with
  | nil => rfl
  | cons d digits ih =>
    have isHex : isHexDigit d = true := hexadecimal d List.mem_cons_self
    have others := ih fun c member => hexadecimal c (List.mem_cons_of_mem d member)
    simp only [List.length_cons, List.cons_append, messageRest?, isHex, if_true, others]

/-- An escape is passed over as a whole. -/
theorem messageRest?_escape {escape : List Char} (isEscape : IsEscape escape) (rest : List Char) :
    messageRest? 0 (escape ++ rest) = messageRest? 0 rest := by
  cases isEscape with
  | short c known => simp [messageRest?, known]
  | four digits count hexadecimal =>
    have passed := messageRest?_digits hexadecimal rest
    rw [count] at passed
    simpa [messageRest?, show isShortEscape 'u' = false by decide] using passed
  | eight digits count hexadecimal =>
    have passed := messageRest?_digits hexadecimal rest
    rw [count] at passed
    simpa [messageRest?, show isShortEscape 'U' = false by decide] using passed

/-- A character that is neither a backslash nor a double quote is passed over. -/
theorem messageRest?_plain {c : Char} (notBackslash : c ≠ '\\') (notQuote : c ≠ '"')
    (rest : List Char) : messageRest? 0 (c :: rest) = messageRest? 0 rest := by
  cases rest <;> simp [messageRest?, notBackslash, notQuote]

/-- The body of a message is passed over as a whole. -/
theorem messageRest?_body {body : List Char} (isMessage : IsMessage body) (rest : List Char) :
    messageRest? 0 (body ++ rest) = messageRest? 0 rest := by
  induction isMessage with
  | empty => rfl
  | plain c body notBackslash notQuote tail ih =>
    rw [List.cons_append, messageRest?_plain notBackslash notQuote, ih]
  | escaped escape body isEscape tail ih => rw [List.append_assoc, messageRest?_escape isEscape, ih]

/-- What a message reader passes over is what is left of an escape, and then the body of a message
with its closing quote. The induction follows the reader, which is inside an escape or not. -/
theorem messageRest?_sound {hexLeft : Nat} {text rest : List Char}
    (found : messageRest? hexLeft text = some rest) :
    ∃ digits body, digits.length = hexLeft ∧ (∀ d ∈ digits, isHexDigit d = true) ∧
      IsMessage body ∧ text = digits ++ (body ++ '"' :: rest) := by
  fun_induction messageRest? hexLeft text with
  | case1 hexLeft => cases found
  | case2 hexLeft c tail isHex ih =>
    obtain ⟨digits, body, rfl, hexadecimal, isMessage, rfl⟩ := ih found
    exact ⟨c :: digits, body, rfl, List.forall_mem_cons.mpr ⟨isHex, hexadecimal⟩, isMessage, rfl⟩
  | case3 hexLeft c tail notHex => cases found
  | case4 tail =>
    obtain rfl := Option.some.inj found
    exact ⟨[], [], rfl, by simp, .empty, rfl⟩
  | case5 => cases found
  | case6 e tail known _ ih =>
    obtain ⟨digits, body, none, -, isMessage, rfl⟩ := ih found
    obtain rfl := List.eq_nil_of_length_eq_zero none
    exact ⟨[], '\\' :: e :: body, rfl, by simp, .escaped _ body (.short e known) isMessage, rfl⟩
  | case7 tail _ _ ih =>
    obtain ⟨digits, body, count, hexadecimal, isMessage, rfl⟩ := ih found
    exact ⟨[], '\\' :: 'u' :: digits ++ body, rfl, by simp,
      .escaped _ body (.four digits count hexadecimal) isMessage, by simp⟩
  | case8 tail _ _ _ ih =>
    obtain ⟨digits, body, count, hexadecimal, isMessage, rfl⟩ := ih found
    exact ⟨[], '\\' :: 'U' :: digits ++ body, rfl, by simp,
      .escaped _ body (.eight digits count hexadecimal) isMessage, by simp⟩
  | case9 => cases found
  | case10 c tail notQuote notBackslash ih =>
    obtain ⟨digits, body, none, -, isMessage, rfl⟩ := ih found
    obtain rfl := List.eq_nil_of_length_eq_zero none
    exact ⟨[], c :: body, rfl, by simp, .plain c body notBackslash notQuote isMessage, rfl⟩

/-- The end of a message is found exactly behind a body and its closing quote. -/
theorem messageRest?_eq_some_iff {text rest : List Char} :
    messageRest? 0 text = some rest ↔ ∃ body, IsMessage body ∧ text = body ++ '"' :: rest := by
  constructor
  · intro found
    obtain ⟨digits, body, none, -, isMessage, rfl⟩ := messageRest?_sound found
    obtain rfl := List.eq_nil_of_length_eq_zero none
    exact ⟨body, isMessage, rfl⟩
  · rintro ⟨body, isMessage, rfl⟩
    rw [messageRest?_body isMessage]
    cases rest <;> simp [messageRest?]

/-! ## Comments -/

/-- A text that does not hold the end of a block comment does not start with it, and neither does a
text behind a character of it. -/
theorem not_closed_cons_iff {c : Char} {body : List Char} :
    ¬ ['*', '/'] <:+: c :: body ↔
      ¬ (c = '*' ∧ body.head? = some '/') ∧ ¬ ['*', '/'] <:+: body := by
  have starts : ['*', '/'] <+: c :: body ↔ c = '*' ∧ body.head? = some '/' := by
    cases body <;> simp [List.cons_prefix_cons, eq_comm]
  rw [List.infix_cons_iff, starts, not_or]

/-- The end of a block comment is found exactly behind the first `*/`. -/
theorem afterBlockEnd?_eq_some_iff {text rest : List Char} :
    afterBlockEnd? text = some rest ↔
      ∃ body, ¬ ['*', '/'] <:+: body ∧ text = body ++ '*' :: '/' :: rest := by
  constructor
  · intro found
    induction text with
    | nil => simp [afterBlockEnd?] at found
    | cons c tail ih =>
      simp only [afterBlockEnd?] at found
      split at found
      · next closes =>
        obtain rfl := Option.some.inj found
        obtain ⟨rfl, slash⟩ := closes
        obtain ⟨rest, rfl⟩ := List.head?_eq_some_iff.mp slash
        exact ⟨[], by simp, rfl⟩
      · next notHere =>
        obtain ⟨body, notClosed, rfl⟩ := ih found
        refine ⟨c :: body, not_closed_cons_iff.mpr ⟨?_, notClosed⟩, rfl⟩
        rintro ⟨star, slash⟩
        obtain ⟨behind, rfl⟩ := List.head?_eq_some_iff.mp slash
        exact notHere ⟨star, rfl⟩
  · rintro ⟨body, notClosed, rfl⟩
    induction body with
    | nil => simp [afterBlockEnd?]
    | cons c body ih =>
      obtain ⟨notHere, notClosed⟩ := not_closed_cons_iff.mp notClosed
      -- The slash of an end that starts here would be the first character of the body's rest.
      have goesOn : ¬ (c = '*' ∧ (body ++ '*' :: '/' :: rest).head? = some '/') := by
        rintro ⟨star, slash⟩
        cases body with
        | nil => simp at slash
        | cons d body => exact notHere ⟨star, by simpa using slash⟩
      simp only [List.cons_append, afterBlockEnd?, goesOn, if_false]
      exact ih notClosed

/-- The pieces that are comments. -/
def Piece.IsComment : Piece → Prop
  | .lineComment _ _ | .blockComment _ _ => True
  | _ => False

/-- A line is left at its line feed, or at the end of the text. -/
theorem endsLine_dropWhile (text : List Char) : EndsLine (text.dropWhile (· ≠ '\n')) := by
  cases left : text.dropWhile (· ≠ '\n') with
  | nil => exact .inl rfl
  | cons c rest =>
    have stops := stops_dropWhile (· ≠ '\n') text c (by rw [left]; rfl)
    exact .inr (by simpa using stops)

/-- The rest of a line is taken as a whole. -/
theorem dropWhile_line {body rest : List Char} (oneLine : '\n' ∉ body) (ends : EndsLine rest) :
    (body ++ rest).dropWhile (· ≠ '\n') = rest := by
  refine dropWhile_run (fun c member => ?_) (fun c first => ?_)
  · have different : c ≠ '\n' := fun same => oneLine (same ▸ member)
    simpa using different
  · rcases ends with rfl | feed
    · simp at first
    · obtain rfl := Option.some.inj (first.symm.trans feed)
      rfl

/-- A comment is read exactly where one stands that may stand before what follows. -/
theorem comment?_eq_some_iff {text rest : List Char} :
    comment? text = some rest ↔
      ∃ piece : Piece, piece.IsComment ∧ text = piece.text ++ rest ∧ piece.Fits rest := by
  constructor
  · intro found
    unfold comment? at found
    split at found
    · next tail =>
      obtain rfl := Option.some.inj found
      have oneLine : '\n' ∉ tail.takeWhile (· ≠ '\n') := fun member => by
        simpa using List.mem_takeWhile_imp member
      refine ⟨.lineComment _ oneLine, trivial, ?_, endsLine_dropWhile tail⟩
      simp [Piece.text]
    · next tail =>
      obtain ⟨body, notClosed, rfl⟩ := afterBlockEnd?_eq_some_iff.mp found
      exact ⟨.blockComment body notClosed, trivial, by simp [Piece.text], trivial⟩
    · cases found
  · rintro ⟨piece, isComment, rfl, fits⟩
    cases piece with
    | blank | entry => exact isComment.elim
    | lineComment body oneLine => exact congrArg some (dropWhile_line oneLine fits)
    | blockComment body notClosed =>
      have found : afterBlockEnd? (body ++ '*' :: '/' :: rest) = some rest :=
        afterBlockEnd?_eq_some_iff.mpr ⟨body, notClosed, rfl⟩
      simpa [Piece.text, comment?] using found

/-! ## Entries -/

/-- The answers of the readers that an entry is read with, one after the other. -/
theorem entryAt?_eq_some_iff_parts {text rest : List Char} {definition : Definition} :
    entryAt? text = some (definition, rest) ↔
      ∃ code behindCode behindGap name behindName behindEquals inside behindMessage,
        readCode? text = some (code, behindCode) ∧ afterBlanks? behindCode = some behindGap ∧
        readName? behindGap = some (name, behindName) ∧
        expect? '=' (dropBlanks behindName) = some behindEquals ∧
        expect? '"' (dropBlanks behindEquals) = some inside ∧
        messageRest? 0 inside = some behindMessage ∧
        expect? ';' (dropBlanks behindMessage) = some rest ∧
        definition = ⟨String.ofList code, String.ofList name⟩ := by
  simp only [entryAt?, bind, Option.bind_eq_some_iff, pure, Option.some.injEq, Prod.mk.injEq]
  constructor
  · rintro ⟨⟨code, _⟩, h₁, _, h₂, ⟨name, _⟩, h₃, _, h₄, _, h₅, _, h₆, _, h₇, rfl, rfl⟩
    exact ⟨code, _, _, name, _, _, _, _, h₁, h₂, h₃, h₄, h₅, h₆, h₇, rfl⟩
  · rintro ⟨code, _, _, name, _, _, _, _, h₁, h₂, h₃, h₄, h₅, h₆, h₇, rfl⟩
    exact ⟨(code, _), h₁, _, h₂, (name, _), h₃, _, h₄, _, h₅, _, h₆, _, h₇, rfl, rfl⟩

/-- A code does not go on with a blank. -/
theorem not_continuesCode_of_blank {c : Char} (blank : isBlank c = true) (rest : List Char) :
    ¬ ContinuesCode (c :: rest) := by
  have underscore : c ≠ '_' := ne_of_class blank (by decide)
  simp [ContinuesCode, not_digit_of_blank blank, underscore]

/-- Blanks before a text that does not go on with a name keep a name from going on. -/
theorem stops_name_of_blanks {blanks rest : List Char} (allBlank : AllBlank blanks)
    (stops : Stops isNamePart rest) : Stops isNamePart (blanks ++ rest) := by
  cases blanks with
  | nil => exact stops
  | cons c blanks => exact stops_cons (not_name_part_of_blank (allBlank c List.mem_cons_self)) _

/-- A name does not start with a blank. -/
theorem stops_blank_of_name {name : List Char} (isName : IsName name) (rest : List Char) :
    Stops isBlank (name ++ rest) := by
  obtain ⟨c, parts, rfl, start, _⟩ := isName
  refine stops_cons (Bool.eq_false_iff.mpr fun blank => ?_) _
  exact Bool.eq_false_iff.mp (not_name_part_of_blank blank) (name_part_of_start start)

/-- An entry is read exactly where one stands, with the same end. -/
theorem entryAt?_eq_some_iff {text rest : List Char} {definition : Definition} :
    entryAt? text = some (definition, rest) ↔
      ∃ entry : Entry, definition = entry.definition ∧ text = entry.text ++ rest := by
  rw [entryAt?_eq_some_iff_parts]
  constructor
  · rintro ⟨code, _, _, name, _, _, _, _, readCode, readGap, readName, readEquals, readQuote,
      readMessage, readEnd, rfl⟩
    obtain ⟨isCode, rfl, -⟩ := readCode?_eq_some_iff.mp readCode
    obtain ⟨afterCode, gap, blankAfterCode, rfl, -⟩ := afterBlanks?_eq_some_iff.mp readGap
    obtain ⟨isName, rfl, -⟩ := readName?_eq_some_iff.mp readName
    obtain ⟨afterName, blankAfterName, rfl⟩ :=
      (expect?_dropBlanks_eq_some_iff (by decide)).mp readEquals
    obtain ⟨afterEquals, blankAfterEquals, rfl⟩ :=
      (expect?_dropBlanks_eq_some_iff (by decide)).mp readQuote
    obtain ⟨message, isMessage, rfl⟩ := messageRest?_eq_some_iff.mp readMessage
    obtain ⟨afterMessage, blankAfterMessage, rfl⟩ :=
      (expect?_dropBlanks_eq_some_iff (by decide)).mp readEnd
    refine ⟨⟨code, afterCode, name, afterName, afterEquals, message, afterMessage, isCode, isName,
      isMessage, gap, blankAfterCode, blankAfterName, blankAfterEquals, blankAfterMessage⟩, rfl, ?_⟩
    rw [Entry.text_append]
  · rintro ⟨entry, rfl, rfl⟩
    rw [Entry.text_append]
    refine ⟨entry.code, _, _, entry.name, _, _, _, _,
      readCode?_eq_some_iff.mpr ⟨entry.isCode, rfl, ?_⟩,
      afterBlanks?_eq_some_iff.mpr ⟨_, entry.gap, entry.blankAfterCode, rfl, ?_⟩,
      readName?_eq_some_iff.mpr ⟨entry.isName, rfl, ?_⟩,
      (expect?_dropBlanks_eq_some_iff (by decide)).mpr ⟨_, entry.blankAfterName, rfl⟩,
      (expect?_dropBlanks_eq_some_iff (by decide)).mpr ⟨_, entry.blankAfterEquals, rfl⟩,
      messageRest?_eq_some_iff.mpr ⟨_, entry.isMessage, rfl⟩,
      (expect?_dropBlanks_eq_some_iff (by decide)).mpr ⟨_, entry.blankAfterMessage, rfl⟩, rfl⟩
    · obtain ⟨c, blanks, same⟩ := List.exists_cons_of_ne_nil entry.gap
      rw [same]
      exact not_continuesCode_of_blank (entry.blankAfterCode c (same ▸ List.mem_cons_self)) _
    · exact stops_blank_of_name entry.isName _
    · exact stops_name_of_blanks entry.blankAfterName (stops_cons (by decide) _)

end Codebook.Grammar
