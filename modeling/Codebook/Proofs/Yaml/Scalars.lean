import Codebook.Proofs.Json
import Codebook.Yaml.Token

/-!
# Scalars on one line of a YAML text

Text between double quotes is looked at here as far as it has only printable characters of seven bits.
All others are escaped, so that no line ends inside; but there can be any number of blanks. Beside the
quoted texts there are plain words of letters, digits, points and underscores.

A reader of quoted text takes a run of blanks at once. The law for a single blank leaves open how much
fuel that takes, and so all characters can be dealt with one by one.
-/

namespace Codebook.Yaml

open Decimal
open Json (IsHexDigit shortEscapes digitValue?_of_isHexDigit)

/-! ## Written forms -/

/-- Digits and the number that they denote in base sixteen. -/
inductive HexNumber : Nat → List Char → Prop where
  | nothing : HexNumber 0 []
  | more {number value : Nat} {digits : List Char} {digit : Char} (front : HexNumber number digits)
      (last : IsHexDigit digit value) : HexNumber (number * 16 + value) (digits ++ [digit])

/-- The characters that need no escape, apart from the quote and the backslash. -/
def IsVisible (c : Char) : Prop :=
  ' ' ≤ c ∧ c ≤ '~'

/-- The ways to write a character between double quotes on one line: as it is; by one of the letters
that escapes have in JSON as well; by its number in two, four or eight digits. -/
inductive SpelledChar : Char → List Char → Prop where
  | raw {c : Char} (visible : IsVisible c) (noQuote : c ≠ '"') (noBackslash : c ≠ '\\') :
      SpelledChar c [c]
  | short {letter c : Char} (escape : (letter, c) ∈ shortEscapes) : SpelledChar c ['\\', letter]
  | numbered {c letter : Char} {width : Nat} {digits : List Char}
      (known : (letter, width) ∈ [('x', 2), ('u', 4), ('U', 8)]) (length : digits.length = width)
      (number : HexNumber c.toNat digits) : SpelledChar c ('\\' :: letter :: digits)

/-- The ways to write the characters between double quotes. -/
inductive Spelled : List Char → List Char → Prop where
  | nothing : Spelled [] []
  | more {c : Char} {cs text rest : List Char} (first : SpelledChar c text) (others : Spelled cs rest) :
      Spelled (c :: cs) (text ++ rest)

/-- The characters of plain words. -/
def IsWordChar (c : Char) : Prop :=
  c.isAlphanum = true ∨ c = '_' ∨ c = '.'

/-- A plain word. -/
structure IsWord (word : List Char) : Prop where
  notEmpty : word ≠ []
  chars : ∀ c ∈ word, IsWordChar c

/-- A scalar: what it says, and how it is written. -/
structure Scalar where
  text : String
  style : Style
  deriving Repr, DecidableEq

/-- The ways to write a scalar: as a plain word, or between double quotes. -/
inductive Scalar.Written : Scalar → List Char → Prop where
  | plain {word : List Char} (isWord : IsWord word) : Written ⟨String.ofList word, .plain⟩ word
  | quoted {value : String} {inner : List Char} (spelled : Spelled value.toList inner) :
      Written ⟨value, .double⟩ ('"' :: (inner ++ ['"']))

/-- Every number below a power of sixteen has as many digits. -/
theorem exists_hexNumber (width : Nat) :
    ∀ number < Nat.pow 16 width, ∃ digits : List Char,
      digits.length = width ∧ HexNumber number digits := by
  induction width with
  | zero =>
    intro number small
    obtain rfl : number = 0 := Nat.lt_one_iff.mp small
    exact ⟨[], rfl, .nothing⟩
  | succ width ih =>
    intro number small
    have fewer : number / 16 < Nat.pow 16 width := Nat.div_lt_of_lt_mul (Nat.mul_comm _ 16 ▸ small)
    obtain ⟨digits, length, front⟩ := ih (number / 16) fewer
    have below : number % 16 < "0123456789abcdef".toList.length := Nat.mod_lt number (by decide)
    have last : IsHexDigit "0123456789abcdef".toList[number % 16] (number % 16) :=
      .inl (List.getElem?_eq_getElem below)
    have whole := front.more last
    rw [Nat.div_add_mod' number 16] at whole
    exact ⟨_, by simp [length], whole⟩

/-- Every text can be written between double quotes, as eight digits are enough for any character. -/
theorem exists_spelled (cs : List Char) : ∃ text, Spelled cs text := by
  induction cs with
  | nil => exact ⟨[], .nothing⟩
  | cons c cs ih =>
    obtain ⟨rest, others⟩ := ih
    have small : c.toNat < Nat.pow 16 8 := by
      have valid : c.toNat.isValidChar := c.valid
      simp only [Nat.isValidChar] at valid
      change c.toNat < 0x100000000
      omega
    obtain ⟨digits, length, number⟩ := exists_hexNumber 8 c.toNat small
    have known : ('U', 8) ∈ [('x', 2), ('u', 4), ('U', 8)] := by decide
    exact ⟨_, .more (.numbered known length number) others⟩

/-! ## Visible characters -/

instance : DecidablePred IsVisible := fun c => inferInstanceAs (Decidable (' ' ≤ c ∧ c ≤ '~'))

instance : DecidablePred IsWordChar := fun c =>
  inferInstanceAs (Decidable (c.isAlphanum = true ∨ c = '_' ∨ c = '.'))

/-- The characters of a text are checked one by one. As there are finitely many characters, a claim on
all of them can be decided as well, but not by going through them. -/
instance decidableForallChars {p : Char → Prop} [DecidablePred p] (text : List Char) :
    Decidable (∀ c ∈ text, p c) :=
  List.decidableBAll p text

/-- Visible characters are those from the blank to the tilde. -/
theorem isVisible_iff (c : Char) : IsVisible c ↔ 32 ≤ c.toNat ∧ c.toNat ≤ 126 := by
  rfl

/-- A visible character ends no line. -/
theorem IsVisible.onLine {c : Char} (visible : IsVisible c) : isBreak c = false := by
  have other (d : Char) (hidden : ¬ IsVisible d) : c ≠ d := by
    rintro rfl
    exact hidden visible
  simp (disch := decide) [isBreak, other]

/-- A visible character may stand in a text. -/
theorem IsVisible.printable {c : Char} (visible : IsVisible c) : isPrintable c = true := by
  obtain ⟨first, last⟩ := visible
  simp [isPrintable, first, last]

theorem visible_of_isWordChar {c : Char} (part : IsWordChar c) : IsVisible c := by
  rw [isVisible_iff]
  rcases part with alphanumeric | rfl | rfl
  · rcases Bool.or_eq_true_iff.mp alphanumeric with letter | digit
    · rcases Bool.or_eq_true_iff.mp letter with upper | lower
      · have inside : 65 ≤ c.toNat ∧ c.toNat ≤ 90 := of_decide_eq_true upper
        omega
      · have inside : 97 ≤ c.toNat ∧ c.toNat ≤ 122 :=
          (Bool.and_eq_true_iff.mp lower).imp of_decide_eq_true of_decide_eq_true
        omega
    · have inside : 48 ≤ c.toNat ∧ c.toNat ≤ 57 :=
        (Bool.and_eq_true_iff.mp digit).imp of_decide_eq_true of_decide_eq_true
      omega
  · decide
  · decide

theorem visible_short {letter c : Char} (escape : (letter, c) ∈ shortEscapes) :
    IsVisible letter := by
  have known : ∀ escape ∈ shortEscapes, IsVisible escape.1 := by decide
  exact known _ escape

theorem visible_numbered {letter : Char} {width : Nat}
    (known : (letter, width) ∈ [('x', 2), ('u', 4), ('U', 8)]) : IsVisible letter := by
  have letters : ∀ entry ∈ [('x', 2), ('u', 4), ('U', 8)], IsVisible entry.1 := by decide
  exact letters _ known

theorem visible_of_isHexDigit {c : Char} {value : Nat} (digit : IsHexDigit c value) :
    IsVisible c := by
  have digits : ∀ c ∈ "0123456789abcdef".toList ++ "0123456789ABCDEF".toList, IsVisible c := by
    decide
  refine digits c (List.mem_append.mpr ?_)
  exact digit.imp List.mem_of_getElem? List.mem_of_getElem?

theorem HexNumber.visible {number : Nat} {digits : List Char} (denotes : HexNumber number digits) :
    ∀ c ∈ digits, IsVisible c := by
  induction denotes with
  | nothing => simp
  | more _ last ih =>
    rw [List.forall_mem_append, List.forall_mem_singleton]
    exact ⟨ih, visible_of_isHexDigit last⟩

theorem SpelledChar.visible {c : Char} {text : List Char} (spelled : SpelledChar c text) :
    ∀ d ∈ text, IsVisible d := by
  have backslash : IsVisible '\\' := by decide
  cases spelled with
  | raw visible => simpa using visible
  | short escape => simpa using ⟨backslash, visible_short escape⟩
  | numbered known _ number => simpa using ⟨backslash, visible_numbered known, number.visible⟩

theorem Spelled.visible {cs text : List Char} (spelled : Spelled cs text) :
    ∀ d ∈ text, IsVisible d := by
  induction spelled with
  | nothing => simp
  | more first _ ih =>
    rw [List.forall_mem_append]
    exact ⟨first.visible, ih⟩

/-- A plain word is written as it is. -/
theorem Scalar.Written.plainText {word : String} {text : List Char}
    (written : Scalar.Written ⟨word, .plain⟩ text) : text = word.toList := by
  cases written
  simp

theorem Scalar.Written.quotedText {value : String} {text : List Char}
    (written : Scalar.Written ⟨value, .double⟩ text) :
    ∃ inner, text = '"' :: (inner ++ ['"']) ∧ Spelled value.toList inner := by
  cases written with
  | quoted spelled => exact ⟨_, rfl, spelled⟩

theorem Scalar.Written.visible {scalar : Scalar} {text : List Char} (written : scalar.Written text) :
    ∀ c ∈ text, IsVisible c := by
  cases written with
  | plain isWord => exact fun c member => visible_of_isWordChar (isWord.chars c member)
  | quoted spelled =>
    have quote : IsVisible '"' := by decide
    simpa [List.forall_mem_append, quote, or_imp, forall_and] using spelled.visible

/-- Behind visible characters a line goes on if it does so behind what follows them. -/
theorem onLine_of_visible {text rest : List Char} (visible : ∀ c ∈ text, IsVisible c)
    (onLine : endsLine (rest.dropWhile isBlank) = false) :
    endsLine ((text ++ rest).dropWhile isBlank) = false := by
  induction text with
  | nil => exact onLine
  | cons c text ih =>
    obtain ⟨first, others⟩ := List.forall_mem_cons.mp visible
    by_cases blank : isBlank c = true
    · rw [List.cons_append, List.dropWhile_cons_of_pos blank]
      exact ih others
    · rw [List.cons_append, List.dropWhile_cons_of_neg blank]
      exact first.onLine

/-! ## Places -/

theorem byteCount_append (text rest : List Char) :
    byteCount (text ++ rest) = byteCount text + byteCount rest := by
  have shift (count : Nat) : ∀ text : List Char,
      text.foldl (fun count c => count + c.utf8Size) count = count + byteCount text := by
    intro text
    induction text generalizing count with
    | nil => rfl
    | cons c text ih =>
      rw [byteCount, List.foldl_cons, List.foldl_cons, ih, ih (0 + c.utf8Size)]
      omega
  rw [byteCount, List.foldl_append]
  exact shift _ rest

theorem Cursor.skip_zero (cursor : Cursor) : cursor.skip 0 = cursor := by
  simp [Cursor.skip, byteCount]

theorem Cursor.skip_skip (cursor : Cursor) (first second : Nat) :
    (cursor.skip first).skip second = cursor.skip (first + second) := by
  simp only [Cursor.skip, List.drop_drop, List.take_add, byteCount_append, Nat.add_assoc]

theorem Cursor.rest_skip {cursor : Cursor} {text rest : List Char} (here : cursor.rest = text ++ rest) :
    (cursor.skip text.length).rest = rest := by
  rw [Cursor.skip, here]
  exact List.drop_left

theorem Cursor.rest_skip_one {cursor : Cursor} {c : Char} {rest : List Char}
    (here : cursor.rest = c :: rest) : (cursor.skip 1).rest = rest := by
  rw [Cursor.skip, here]
  rfl

/-- The marks of documents stand at the start of a line only. -/
theorem Cursor.not_atDocumentMark {cursor : Cursor} (inside : cursor.mark.column ≠ 0) :
    cursor.atDocumentMark = false := by
  simp [Cursor.atDocumentMark, inside]

/-! ## Numbers -/

/-- Digits are read as the number that they denote. -/
theorem HexNumber.read {number : Nat} {digits : List Char} (denotes : HexNumber number digits) :
    digits.foldlM (fun n c => (digitValue? 16 c).map (n * 16 + ·)) 0 = some number := by
  induction denotes with
  | nothing => rfl
  | more _ last ih =>
    rw [List.foldlM_append, ih]
    simp [digitValue?_of_isHexDigit last]

/-- A letter of an escape that has one is read as the character it stands for. -/
theorem readEscape?_short {letter c : Char} (escape : (letter, c) ∈ shortEscapes)
    (rest : List Char) : readEscape? (letter :: rest) = some (c, 1) := by
  have known : ∀ escape ∈ shortEscapes,
      escapeWidth? escape.1 = none ∧ shortEscape? escape.1 = some escape.2 := by decide
  obtain ⟨noNumber, letter⟩ := known _ escape
  simp [readEscape?, noNumber, letter]

/-- An escape by number is read as the character with this number. -/
theorem readEscape?_numbered {c letter : Char} {width : Nat} {digits : List Char}
    (known : (letter, width) ∈ [('x', 2), ('u', 4), ('U', 8)]) (length : digits.length = width)
    (number : HexNumber c.toNat digits) (rest : List Char) :
    readEscape? (letter :: (digits ++ rest)) = some (c, width + 1) := by
  have widths : ∀ entry ∈ [('x', 2), ('u', 4), ('U', 8)],
      escapeWidth? entry.1 = some entry.2 ∧ 0 < entry.2 := by decide
  obtain ⟨numbered, some⟩ := widths _ known
  have notEmpty : digits ≠ [] := by
    rintro rfl
    exact absurd some (by simp [← length])
  have read : readNat? 16 digits = Option.some c.toNat := by
    simpa [readNat?, notEmpty] using number.read
  have isChar : ¬ (0x10FFFF < c.toNat ∨ (0xD800 ≤ c.toNat ∧ c.toNat ≤ 0xDFFF)) := by
    have valid : c.toNat.isValidChar := c.valid
    simp only [Nat.isValidChar] at valid
    omega
  simp [readEscape?, numbered, ← length, read, isChar]

/-! ## Quoted text -/

section Quoted

variable {cursor : Cursor} {fuel : Nat} {more : List Char}

theorem readDouble_quote (inside : cursor.mark.column ≠ 0) (here : cursor.rest = '"' :: more) :
    readDouble (fuel + 1) cursor = some ([], cursor.skip 1) := by
  simp [readDouble, Cursor.not_atDocumentMark inside, here]

/-- An escape stands for the character that it is read as. -/
theorem readDouble_escape {letter c : Char} {width : Nat} (inside : cursor.mark.column ≠ 0)
    (here : cursor.rest = '\\' :: letter :: more) (onLine : isBreak letter = false)
    (read : readEscape? (letter :: more) = some (c, width)) :
    readDouble (fuel + 1) cursor =
      (readDouble fuel (cursor.skip (width + 1))).map fun (text, after) => (c :: text, after) := by
  simp [readDouble, Cursor.not_atDocumentMark inside, here, endsLine, onLine, read]
  cases readDouble fuel _ <;> rfl

/-- An escape that stands for nothing ends the text without a result. -/
theorem readDouble_bad_escape {letter : Char} (inside : cursor.mark.column ≠ 0)
    (here : cursor.rest = '\\' :: letter :: more) (onLine : isBreak letter = false)
    (bad : readEscape? (letter :: more) = none) : readDouble (fuel + 1) cursor = none := by
  simp [readDouble, Cursor.not_atDocumentMark inside, here, endsLine, onLine, bad]

theorem readDouble_raw {c : Char} (inside : cursor.mark.column ≠ 0) (here : cursor.rest = c :: more)
    (noQuote : c ≠ '"') (noBackslash : c ≠ '\\') (noBlank : isBlank c = false)
    (onLine : isBreak c = false) :
    readDouble (fuel + 1) cursor =
      (readDouble fuel (cursor.skip 1)).map fun (text, after) => (c :: text, after) := by
  simp [readDouble, Cursor.not_atDocumentMark inside, here, noQuote, noBackslash, noBlank, onLine]

/-- A run of blanks before a character of the line is taken at once. -/
theorem readDouble_blanks (fuel : Nat) {c : Char} (inside : cursor.mark.column ≠ 0)
    (here : cursor.rest = c :: more) (blank : isBlank c = true)
    (onLine : endsLine (more.dropWhile isBlank) = false) :
    readDouble (fuel + 1) cursor =
      (readDouble fuel (cursor.skip ((more.takeWhile isBlank).length + 1))).map
        fun (text, after) => (c :: more.takeWhile isBlank ++ text, after) := by
  have noQuote : c ≠ '"' := by
    rintro rfl
    cases blank
  have noBackslash : c ≠ '\\' := by
    rintro rfl
    cases blank
  have run : cursor.taken isBlank = c :: more.takeWhile isBlank := by
    rw [Cursor.taken, here, List.takeWhile_cons_of_pos blank]
  have behind : (cursor.skip ((more.takeWhile isBlank).length + 1)).rest =
      more.dropWhile isBlank := by
    have whole : cursor.rest = (c :: more.takeWhile isBlank) ++ more.dropWhile isBlank := by
      rw [here, List.cons_append, List.takeWhile_append_dropWhile]
    exact Cursor.rest_skip whole
  have gap : readGap 0 cursor = some (⟨c :: more.takeWhile isBlank, []⟩,
      cursor.skip ((more.takeWhile isBlank).length + 1)) := by
    simp only [readGap, run, List.length_cons, behind, onLine, Bool.false_eq_true, if_false]
  simp [readDouble, Cursor.not_atDocumentMark inside, here, noQuote, noBackslash, blank, gap,
    Gap.folded]
  cases readDouble fuel _ <;> rfl

/-- So a blank may as well be taken alone. If it is not the last of a run, this saves no fuel. -/
theorem readDouble_blank {c : Char} (inside : cursor.mark.column ≠ 0)
    (here : cursor.rest = c :: more) (blank : isBlank c = true)
    (onLine : endsLine (more.dropWhile isBlank) = false) :
    ∃ left, fuel ≤ left ∧ readDouble (fuel + 1) cursor =
      (readDouble left (cursor.skip 1)).map fun (text, after) => (c :: text, after) := by
  have whole := readDouble_blanks fuel inside here blank onLine
  have alone (last : more.takeWhile isBlank = []) : readDouble (fuel + 1) cursor =
      (readDouble fuel (cursor.skip 1)).map fun (text, after) => (c :: text, after) := by
    rw [whole, last]
    rfl
  cases more with
  | nil => exact ⟨fuel, Nat.le_refl _, alone rfl⟩
  | cons next rest =>
    by_cases nextBlank : isBlank next = true
    · rw [List.dropWhile_cons_of_pos nextBlank] at onLine
      rw [List.takeWhile_cons_of_pos nextBlank] at whole
      have behind : (cursor.skip 1).rest = next :: rest := Cursor.rest_skip_one here
      refine ⟨fuel + 1, Nat.le_succ fuel, ?_⟩
      rw [whole, readDouble_blanks fuel (Nat.succ_ne_zero _) behind nextBlank onLine, Cursor.skip_skip,
        List.length_cons, Nat.add_comm 1]
      cases readDouble fuel _ <;> rfl
    · exact ⟨fuel, Nat.le_refl _, alone (List.takeWhile_cons_of_neg nextBlank)⟩

/-- A character is read in whichever way it is written, and put before the rest of the text. -/
theorem SpelledChar.read {c : Char} {text : List Char} (spelled : SpelledChar c text) (fuel : Nat)
    (inside : cursor.mark.column ≠ 0) (here : cursor.rest = text ++ more)
    (onLine : endsLine (more.dropWhile isBlank) = false) :
    ∃ left, fuel ≤ left ∧ readDouble (fuel + 1) cursor =
      (readDouble left (cursor.skip text.length)).map fun (text, after) => (c :: text, after) := by
  cases spelled with
  | raw visible noQuote noBackslash =>
    by_cases blank : isBlank c = true
    · exact readDouble_blank inside here blank onLine
    · refine ⟨fuel, Nat.le_refl _, ?_⟩
      exact readDouble_raw inside here noQuote noBackslash (by simpa using blank) visible.onLine
  | @short letter c escape =>
    exact ⟨fuel, Nat.le_refl _, readDouble_escape inside here (visible_short escape).onLine
      (readEscape?_short escape more)⟩
  | @numbered c letter width digits known length number =>
    rw [List.length_cons, List.length_cons, length]
    exact ⟨fuel, Nat.le_refl _, readDouble_escape inside here (visible_numbered known).onLine
      (readEscape?_numbered known length number more)⟩

theorem SpelledChar.text_ne_nil {c : Char} {text : List Char} (spelled : SpelledChar c text) :
    text ≠ [] := by
  cases spelled <;> exact List.cons_ne_nil _ _

/-- Spelled characters are read one after the other, and what follows them is left. Each of them takes
one step at most, and is written with one character at least. -/
theorem Spelled.read {cs text rest : List Char} (spelled : Spelled cs text)
    (onLine : endsLine (rest.dropWhile isBlank) = false) :
    ∀ (cursor : Cursor) (fuel : Nat), cursor.mark.column ≠ 0 → cursor.rest = text ++ rest →
      text.length ≤ fuel → ∃ left, fuel - text.length ≤ left ∧ readDouble fuel cursor =
        (readDouble left (cursor.skip text.length)).map fun (more, after) => (cs ++ more, after) := by
  induction spelled with
  | nothing =>
    intro cursor fuel _ _ _
    refine ⟨fuel, Nat.sub_le _ _, ?_⟩
    simp [Cursor.skip_zero]
  | @more c cs text others first spelled ih =>
    intro cursor fuel inside here enough
    have some := List.length_pos_iff.mpr first.text_ne_nil
    rw [List.length_append] at enough
    rw [List.append_assoc] at here
    obtain ⟨fuel, rfl⟩ := Nat.exists_eq_add_of_le' (show 1 ≤ fuel by omega)
    obtain ⟨middle, fewer, step⟩ := first.read fuel inside here
      (onLine_of_visible spelled.visible onLine)
    obtain ⟨left, enoughLeft, run⟩ := ih (cursor.skip text.length) middle
      (by simp [Cursor.skip, inside]) (Cursor.rest_skip here) (by omega)
    refine ⟨left, by rw [List.length_append]; omega, ?_⟩
    rw [step, run, Cursor.skip_skip, List.length_append, Option.map_map]
    rfl

/-- Spelled characters are read up to the closing quote. -/
theorem Spelled.read_quoted {cs text rest : List Char} (spelled : Spelled cs text)
    (inside : cursor.mark.column ≠ 0) (here : cursor.rest = text ++ '"' :: rest)
    (enough : text.length < fuel) :
    readDouble fuel cursor = some (cs, cursor.skip (text.length + 1)) := by
  obtain ⟨left, enoughLeft, run⟩ := spelled.read (by rfl) cursor fuel inside here (by omega)
  obtain ⟨left, rfl⟩ := Nat.exists_eq_add_of_le' (show 1 ≤ left by omega)
  rw [run, readDouble_quote (by simp [Cursor.skip, inside]) (Cursor.rest_skip here), Cursor.skip_skip]
  simp

/-- Spelled characters before an escape that stands for nothing are not read. -/
theorem Spelled.read_bad_escape {cs text rest : List Char} {letter : Char}
    (spelled : Spelled cs text) (inside : cursor.mark.column ≠ 0)
    (here : cursor.rest = text ++ '\\' :: letter :: rest) (onLine : isBreak letter = false)
    (bad : readEscape? (letter :: rest) = none) (enough : text.length < fuel) :
    readDouble fuel cursor = none := by
  obtain ⟨left, enoughLeft, run⟩ := spelled.read (by rfl) cursor fuel inside here (by omega)
  obtain ⟨left, rfl⟩ := Nat.exists_eq_add_of_le' (show 1 ≤ left by omega)
  rw [run, readDouble_bad_escape (by simp [Cursor.skip, inside]) (Cursor.rest_skip here) onLine bad]
  rfl

end Quoted

/-! ## Plain words -/

/-- A part of a word is not a character that is none. -/
theorem IsWordChar.ne {c : Char} (part : IsWordChar c) (other : Char)
    (outside : ¬ IsWordChar other) :
    c ≠ other := by
  rintro rfl
  exact outside part

theorem IsWordChar.notBlank {c : Char} (part : IsWordChar c) : isBlank c = false := by
  simp (disch := decide) [isBlank, part.ne]

theorem IsWordChar.noFlowIndicator {c : Char} (part : IsWordChar c) : isFlowIndicator c = false := by
  simp (disch := decide) [isFlowIndicator, part.ne]

/-- Plain text can start with a part of a word. -/
theorem IsWordChar.startsPlain {c : Char} (part : IsWordChar c) (inFlow : Bool) (rest : List Char) :
    startsPlain inFlow c rest = true := by
  simp (disch := decide) [Yaml.startsPlain, isIndicator, part.noFlowIndicator, part.notBlank, part.ne]

/-- The parts of a word are taken up to where no word can start. -/
theorem plainWord?_word {inFlow : Bool} {word rest : List Char}
    (chars : ∀ c ∈ word, IsWordChar c) (stops : plainWord? inFlow rest = some []) :
    plainWord? inFlow (word ++ rest) = some word := by
  induction word with
  | nil => exact stops
  | cons c word ih =>
    obtain ⟨part, others⟩ := List.forall_mem_cons.mp chars
    have onLine := (visible_of_isWordChar part).onLine
    have noColon := part.ne ':' (by decide)
    simp [plainWord?, part.notBlank, onLine, noColon, part.noFlowIndicator, ih others]

section Plain

variable {cursor : Cursor} {fuel column : Nat} {inFlow : Bool} {word rest : List Char}

theorem IsWord.starts (isWord : IsWord word) :
    ∃ c others, word = c :: others ∧ IsWordChar c := by
  cases word with
  | nil => exact absurd rfl isWord.notEmpty
  | cons c others => exact ⟨c, others, rfl, isWord.chars c List.mem_cons_self⟩

/-- A word alone is read if no blank and no line end stands behind it. -/
theorem readPlain_word (isWord : IsWord word) (notMark : cursor.atDocumentMark = false)
    (here : cursor.rest = word ++ rest) (stops : plainWord? inFlow rest = some [])
    (last : rest = [] ∨ endsWord rest = false) :
    readPlain inFlow column (fuel + 1) cursor = some (word, cursor.skip word.length, false) := by
  have behind := Cursor.rest_skip here
  have read := plainWord?_word isWord.chars stops
  obtain ⟨c, others, rfl, part⟩ := isWord.starts
  have noComment := part.ne '#' (by decide)
  rw [readPlain, here, read]
  simp [notMark, noComment, -List.length_cons, behind, last]

/-- A line end before something on the next line is a gap of its own. -/
theorem readGap_lineEnd (column : Nat) (here : cursor.rest = '\n' :: rest)
    (starts : ∀ c, rest.head? = some c → isBlank c = false ∧ isBreak c = false) :
    readGap column cursor = some (⟨[], ['\n']⟩, cursor.skipBreak) := by
  have noBlanks : cursor.taken isBlank = [] := by
    rw [Cursor.taken, here]
    rfl
  have one : rest.takeWhile (fun c => isBlank c || isBreak c) = [] := by
    cases rest with
    | nil => rfl
    | cons c rest =>
      obtain ⟨noBlank, noBreak⟩ := starts c rfl
      exact List.takeWhile_cons_of_neg (by simp [noBlank, noBreak])
  have single : cursor.taken (fun c => isBlank c || isBreak c) = ['\n'] := by
    rw [Cursor.taken, here, List.takeWhile_cons_of_pos (by decide), one]
  simp only [readGap, noBlanks, List.length_nil, Cursor.skip_zero, here, single,
    List.length_singleton, readBreaks]
  rfl

/-- Behind a word the line end is taken as well. What follows on the next line does not belong to it,
since it is indented less than the word may be. -/
theorem readPlain_line (fuel : Nat) (isWord : IsWord word) (notMark : cursor.atDocumentMark = false)
    (here : cursor.rest = word ++ '\n' :: rest)
    (starts : ∀ c, rest.head? = some c → isBlank c = false ∧ isBreak c = false)
    (indented : 0 < column) :
    readPlain false column (fuel + 1) cursor =
      some (word, (cursor.skip word.length).skipBreak, true) := by
  have behind := Cursor.rest_skip here
  have gap := readGap_lineEnd column behind starts
  have read : plainWord? false (word ++ '\n' :: rest) = some word :=
    plainWord?_word isWord.chars rfl
  obtain ⟨c, others, rfl, part⟩ := isWord.starts
  have noComment := part.ne '#' (by decide)
  have less : ((cursor.skip (c :: others).length).skipBreak).mark.column < column := indented
  have ends : endsWord ('\n' :: rest) = true := rfl
  rw [readPlain, here, read]
  simp [notMark, noComment, -List.length_cons, behind, ends, gap, less]

end Plain

end Codebook.Yaml
