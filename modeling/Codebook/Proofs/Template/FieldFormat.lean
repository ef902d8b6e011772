import Codebook.Proofs.Dialect
import Codebook.Proofs.Template.NamesBetweenBraces

/-!
# Line formats with fields between braces

A line format may be made of texts with fields of a definition between them, each field between two
braces on either side and with any number of spaces around its name. It has a plain reading: the texts
stay, and what the definition holds stands in place of the fields. This is what such a line format gives
for every definition, whatever its code and its name are made of. They are put in once the line format
has been read, so nothing in them is taken for a tag, and nothing is written in another way.

The texts must not open a tag, and a text before a field must not end with a brace, which would be taken
for the first one of the field. Apart from that they may hold braces, and line feeds also at the ends.
-/

namespace Codebook.Template

open Grammar

/-! ## How such a line format is written -/

/-- No tag is opened in the text. -/
def Tagless (text : List Char) : Prop :=
  ∀ mark ∈ ['{', '%', '#'], ¬ ['{', mark] <:+: text

/-- A field as it is written: with some spaces before and some after its name. -/
structure FieldTag where
  field : Field
  before : Nat
  after : Nat
  deriving Repr, DecidableEq

/-- What is written behind the opening braces of a field. -/
def FieldTag.inner (tag : FieldTag) : List Char :=
  List.replicate tag.before ' ' ++
    (tag.field.word.toList ++ (List.replicate tag.after ' ' ++ ['}', '}']))

/-- What is written for a field. -/
def FieldTag.text (tag : FieldTag) : List Char :=
  '{' :: '{' :: tag.inner

/-- The characters of some texts with a field behind each of them, and of a last text. -/
def partsText (parts : List (List Char × FieldTag)) (last : List Char) : List Char :=
  parts.flatMap (fun (text, tag) => text ++ tag.text) ++ last

/-- A line format of texts and fields: some texts with a field behind each of them, and a last text. -/
structure FieldFormat where
  parts : List (List Char × FieldTag)
  last : List Char
  clear : ∀ part ∈ parts, Tagless part.1 ∧ part.1.getLast? ≠ some '{'
  lastClear : Tagless last

/-- The line format as a text. -/
def FieldFormat.text (format : FieldFormat) : String :=
  String.ofList (partsText format.parts format.last)

/-- The texts of the line format with what the definition holds in place of the fields. -/
def FieldFormat.filled (format : FieldFormat) (definition : Definition) : String :=
  String.ofList
    (format.parts.flatMap (fun (text, tag) => text ++ (tag.field.value definition).toList) ++
      format.last)

/-! ## Up to the next tag -/

/-- Two characters that are no opening delimiter. -/
theorem tagKind?_eq_none_iff {first second : Char} :
    tagKind? first second = none ↔ ¬ (first = '{' ∧ second ∈ ['{', '%', '#']) := by
  unfold tagKind?
  split_ifs <;> simp_all

theorem Tagless.tail {c : Char} {text : List Char} (tagless : Tagless (c :: text)) :
    Tagless text := by
  intro mark member held
  exact tagless mark member (held.trans (List.suffix_cons c text).isInfix)

theorem Tagless.head {first second : Char} {text : List Char}
    (tagless : Tagless (first :: second :: text)) : tagKind? first second = none := by
  rw [tagKind?_eq_none_iff]
  rintro ⟨rfl, member⟩
  exact tagless second member ⟨[], text, rfl⟩

/-- Where no tag is opened, the search goes on with the next character. -/
theorem splitAtTag_of_none {c d : Char} (none : tagKind? c d = none) (after : List Char) :
    splitAtTag (c :: d :: after) =
      (c :: (splitAtTag (d :: after)).1, (splitAtTag (d :: after)).2) := by
  rw [splitAtTag, none]

/-- A text that opens no tag goes up to its end. -/
theorem splitAtTag_tagless {text : List Char} (tagless : Tagless text) :
    splitAtTag text = (text, none) := by
  induction text with
  | nil => rfl
  | cons c text ih =>
    cases text with
    | nil => rfl
    | cons d after => rw [splitAtTag_of_none tagless.head, ih tagless.tail]

/-- A text that opens no tag goes up to the braces behind it, unless its last character is a brace as
well. -/
theorem splitAtTag_output {text : List Char} (tagless : Tagless text)
    (apart : text.getLast? ≠ some '{') (after : List Char) :
    splitAtTag (text ++ '{' :: '{' :: after) = (text, some (.output, after)) := by
  induction text with
  | nil => rfl
  | cons c text ih =>
    cases text with
    | nil =>
      have other : tagKind? c '{' = none := by
        rw [tagKind?_eq_none_iff]
        rintro ⟨rfl, -⟩
        exact apart rfl
      exact splitAtTag_of_none other ('{' :: after)
    | cons d text =>
      have rest := ih tagless.tail (by simpa using apart)
      rw [List.cons_append] at rest
      rw [List.cons_append, List.cons_append, splitAtTag_of_none tagless.head, rest]

/-! ## Inside a tag -/

/-- Spaces inside a tag are skipped. -/
theorem tokensFrom_spaces (output : Bool) (nesting : Int) (line count fuel : Nat)
    (rest : List Char) :
    tokensFrom (fuel + count) (.inside output) nesting line (List.replicate count ' ' ++ rest) =
      tokensFrom fuel (.inside output) nesting line rest := by
  induction count with
  | zero => rfl
  | succ count ih => exact ih

/-- What stands behind the name of a field ends it, with spaces between them or without. -/
theorem stops_behind_name (count : Nat) (rest : List Char) :
    Stops isWordPart (List.replicate count ' ' ++ '}' :: '}' :: rest) := by
  cases count <;> exact stops_cons (by decide) _

/-- A word is read as a whole, if no other token starts as it does. -/
theorem readToken_name (first second : Char) (word : List Char) {rest : List Char}
    (all : (second :: word).all isWordPart = true) (letter : isWordStart first = true)
    (noDigit : first.isDigit = false) (noQuote : first ≠ '"' ∧ first ≠ '\'')
    (noPair : pairSymbol? first second = none) (noSymbol : singleSymbol? first = none)
    (stops : Stops isWordPart rest) :
    readToken (first :: second :: word ++ rest) =
      .ok (.word (String.ofList (first :: second :: word)), rest) := by
  have parts := List.all_eq_true.mp all
  have taken := takeWhile_run parts stops
  have left := dropWhile_run parts stops
  simp only [List.cons_append] at taken left
  simp only [List.cons_append, readToken, List.head?_cons, Option.bind_some, noPair, noSymbol,
    noDigit, letter, noQuote, taken, left]
  simp
  rfl

theorem readToken_field (field : Field) {rest : List Char} (stops : Stops isWordPart rest) :
    readToken (field.word.toList ++ rest) = .ok (.word field.word, rest) := by
  cases field with
  | code =>
    exact readToken_name 'c' 'o' ['d', 'e'] (by decide) (by decide) (by decide) (by decide)
      (by decide) (by decide) stops
  | name =>
    exact readToken_name 'n' 'a' ['m', 'e'] (by decide) (by decide) (by decide) (by decide)
      (by decide) (by decide) stops

/-- The name of a field is one token, on the line it stands on. -/
theorem tokensFrom_field (field : Field) {rest : List Char} (stops : Stops isWordPart rest)
    (fuel line : Nat) :
    tokensFrom (fuel + 1) (.inside true) 0 line (field.word.toList ++ rest) =
      (tokensFrom fuel (.inside true) 0 line rest).push (.word field.word) line := by
  have read := readToken_field field stops
  have passed : (field.word.toList ++ rest).take
      ((field.word.toList ++ rest).length - rest.length) = field.word.toList := by simp
  have noFeed : lineFeeds field.word.toList = 0 := by cases field <;> decide
  obtain ⟨first, others, starts, noBlank, noEnd⟩ : ∃ first others,
      field.word.toList ++ rest = first :: others ∧ isTagBlank first = false ∧
      tagEnd? '}' (first :: others) = none := by
    cases field with
    | code => exact ⟨'c', _, rfl, rfl, rfl⟩
    | name => exact ⟨'n', _, rfl, rfl, rfl⟩
  rw [starts] at read passed ⊢
  simp only [tokensFrom, noBlank, read, passed, noFeed]
  simp [noEnd]

theorem tokensFrom_end (fuel line : Nat) (rest : List Char) :
    tokensFrom (fuel + 1) (.inside true) 0 line ('}' :: '}' :: rest) =
      (tokensFrom fuel (.outside false) 0 line rest).push .outputEnd line := by
  rfl

/-- The spaces, the name and the closing braces of a field give two tokens. Every space takes a step, as
do the name and the braces. -/
theorem tokensFrom_tag (tag : FieldTag) (fuel line : Nat) (rest : List Char) :
    tokensFrom (fuel + 2 + tag.after + tag.before) (.inside true) 0 line (tag.inner ++ rest) =
      ((tokensFrom fuel (.outside false) 0 line rest).push .outputEnd line).push
        (.word tag.field.word) line := by
  have steps : fuel + 2 + tag.after = fuel + 1 + tag.after + 1 := by omega
  simp only [FieldTag.inner, List.append_assoc, List.cons_append, List.nil_append]
  rw [tokensFrom_spaces, steps, tokensFrom_field tag.field (stops_behind_name tag.after rest),
    tokensFrom_spaces, tokensFrom_end]

/-- No sign stands behind the opening braces of a field. -/
theorem readSign_inner (tag : FieldTag) (rest : List Char) :
    readSign (tag.inner ++ rest) = (.none, tag.inner ++ rest) := by
  have noSign {first : Char} (others : List Char) (noMinus : first ≠ '-') (noPlus : first ≠ '+') :
      readSign (first :: others) = (.none, first :: others) := by
    simp [readSign, noMinus, noPlus]
  obtain ⟨field, before, after⟩ := tag
  cases before with
  | zero =>
    cases field with
    | code =>
      have spelled : Field.code.word.toList = 'c' :: ['o', 'd', 'e'] := rfl
      simp only [FieldTag.inner, spelled]
      exact noSign _ (by decide) (by decide)
    | name =>
      have spelled : Field.name.word.toList = 'n' :: ['a', 'm', 'e'] := rfl
      simp only [FieldTag.inner, spelled]
      exact noSign _ (by decide) (by decide)
  | succ before => exact noSign _ (by decide) (by decide)

/-! ## The tokens of the whole -/

/-- The parts that a text on a line is read as, which are none if it is empty. -/
def textSlots (line : Nat) (text : List Char) : List (Slot × Nat) :=
  if text.isEmpty then [] else [(.text (String.ofList text), line)]

/-- The parts that some texts with fields behind them and a last text are read as. A text may have line
feeds, which move the line on. -/
def slotsFrom (last : List Char) (line : Nat) : List (List Char × FieldTag) → List (Slot × Nat)
  | [] => textSlots line last
  | (text, tag) :: parts =>
    textSlots line text ++
      (.field tag.field, line + lineFeeds text) :: slotsFrom last (line + lineFeeds text) parts

/-- A text that opens no tag is one token, or none if it is empty. -/
theorem tokensFrom_text {text : List Char} (tagless : Tagless text) (fuel line : Nat) :
    tokensFrom (fuel + 1) (.outside false) 0 line text =
      ⟨tokensOf (textSlots line text), none⟩ := by
  have split := splitAtTag_tagless tagless
  simp only [tokensFrom, split]
  cases text <;> simp [textSlots, tokensOf, lineFeeds, TokenStream.push, Slot.tokens]

/-- A text and the field behind it give their tokens, and then come those of the rest. -/
theorem tokensFrom_part {text : List Char} (tagless : Tagless text)
    (apart : text.getLast? ≠ some '{') (tag : FieldTag) (fuel line : Nat) {rest : List Char}
    {others : List Placed}
    (behind : tokensFrom fuel (.outside false) 0 (line + lineFeeds text) rest = ⟨others, none⟩) :
    tokensFrom (fuel + 3 + tag.after + tag.before) (.outside false) 0 line
        (text ++ (tag.text ++ rest)) =
      ⟨tokensOf (textSlots line text ++ [(.field tag.field, line + lineFeeds text)]) ++ others,
        none⟩ := by
  have split := splitAtTag_output tagless apart (tag.inner ++ rest)
  have steps : fuel + 3 + tag.after + tag.before = fuel + 2 + tag.after + tag.before + 1 := by
    omega
  rw [steps]
  simp only [FieldTag.text, List.cons_append, tokensFrom, split, readSign_inner, tokensFrom_tag,
    behind]
  cases text <;> simp [textSlots, tokensOf, lineFeeds, TokenStream.push, Slot.tokens]

/-- A text with a field behind it is at least as long as the steps that it takes. -/
theorem steps_le_length (text : List Char) (tag : FieldTag) :
    tag.before + tag.after + 4 ≤ (text ++ tag.text).length := by
  simp only [FieldTag.text, FieldTag.inner, List.length_append, List.length_cons,
    List.length_replicate, List.length_nil]
  omega

/-- The tokens of texts and fields are those of the parts that they are read as, if as many steps may be
taken as there are characters and one more. The induction goes through the parts: each one leaves
enough steps for those behind it. -/
theorem tokensFrom_parts {last : List Char} (lastClear : Tagless last)
    (parts : List (List Char × FieldTag)) :
    ∀ fuel line : Nat, (∀ part ∈ parts, Tagless part.1 ∧ part.1.getLast? ≠ some '{') →
      (partsText parts last).length < fuel →
      tokensFrom fuel (.outside false) 0 line (partsText parts last) =
        ⟨tokensOf (slotsFrom last line parts), none⟩ := by
  induction parts with
  | nil =>
    intro fuel line _ enough
    obtain ⟨fuel, rfl⟩ := Nat.exists_eq_add_of_lt enough
    exact tokensFrom_text lastClear _ line
  | cons part parts ih =>
    intro fuel line clear enough
    obtain ⟨text, tag⟩ := part
    obtain ⟨⟨tagless, apart⟩, others⟩ := List.forall_mem_cons.mp clear
    have whole : partsText ((text, tag) :: parts) last =
        text ++ (tag.text ++ partsText parts last) := by
      simp only [partsText, List.flatMap_cons, List.append_assoc]
    have taken := steps_le_length text tag
    rw [whole, ← List.append_assoc, List.length_append] at enough
    obtain ⟨fuel, rfl⟩ := Nat.exists_eq_add_of_le' (show 3 + tag.after + tag.before ≤ fuel by omega)
    have behind := ih fuel (line + lineFeeds text) others (by omega)
    rw [whole, ← Nat.add_assoc, ← Nat.add_assoc, tokensFrom_part tagless apart tag fuel line behind]
    simp [slotsFrom, tokensOf]

/-- A line format of texts and fields is read as these. -/
theorem FieldFormat.readTemplate_text (format : FieldFormat) :
    readTemplate format.text = .ok
      ((slotsFrom format.last 1 format.parts).map fun (slot, line) => slot.statement line) := by
  apply readTemplate_of_tokens
  rw [tokens, FieldFormat.text, String.toList_ofList]
  exact tokensFrom_parts format.lastClear format.parts _ 1 format.clear (Nat.lt_succ_self _)

/-! ## What is put out -/

theorem shown_textSlots (definition : Definition) (line : Nat) (text : List Char) :
    (textSlots line text).flatMap (fun (slot, _) => (slot.shown definition).toList) = text := by
  cases text <;> simp [textSlots, Slot.shown]

/-- The parts show the texts as they are, and what the definition holds in the fields. -/
theorem shown_slotsFrom (definition : Definition) (last : List Char)
    (parts : List (List Char × FieldTag)) (line : Nat) :
    (slotsFrom last line parts).flatMap (fun (slot, _) => (slot.shown definition).toList) =
      parts.flatMap (fun (text, tag) => text ++ (tag.field.value definition).toList) ++ last := by
  induction parts generalizing line with
  | nil => exact shown_textSlots definition line last
  | cons part parts ih =>
    obtain ⟨text, tag⟩ := part
    simp only [slotsFrom, List.flatMap_append, List.flatMap_cons, shown_textSlots, ih,
      List.append_assoc]
    rfl

/-! ## Every definition -/

/-- A text without opening braces opens no tag, and leaves the braces behind it alone. -/
theorem tagless_of_no_brace {text : List Char} (noBrace : '{' ∉ text) :
    Tagless text ∧ text.getLast? ≠ some '{' := by
  constructor
  · intro mark _ held
    exact noBrace (held.subset List.mem_cons_self)
  · intro last
    exact noBrace (List.mem_of_getLast? last)

/-- The line format of a dialect as texts and fields. -/
def dialectFormat (dialect : Dialect) : FieldFormat where
  parts := [(dialect.opening.toList, ⟨.name, 1, 1⟩), (dialect.between.toList, ⟨.code, 1, 1⟩)]
  last := dialect.closing.toList
  clear := by
    have opening : '{' ∉ dialect.opening.toList := by cases dialect <;> decide
    have between : '{' ∉ dialect.between.toList := by cases dialect <;> decide
    simpa using ⟨tagless_of_no_brace opening, tagless_of_no_brace between⟩
  lastClear := by
    have closing : '{' ∉ dialect.closing.toList := by cases dialect <;> decide
    exact (tagless_of_no_brace closing).1

theorem text_dialectFormat (dialect : Dialect) :
    (dialectFormat dialect).text = dialect.lineFormat := by
  rw [← String.toList_inj, FieldFormat.text, String.toList_ofList]
  cases dialect <;> rfl

/-- A line format of texts and fields gives, for every definition, its texts with what the definition
holds in place of the fields. The line formats of the dialects are of this form, so they cannot fail. -/
theorem fields_are_put_in_verbatim :
    (∀ (format : FieldFormat) (definition : Definition),
      declarationLine format.text definition = .ok (format.filled definition)) ∧
    ∀ dialect : Dialect, ∃ format : FieldFormat, format.text = dialect.lineFormat ∧
      ∀ definition : Definition,
        declarationLine dialect.lineFormat definition = .ok (format.filled definition) := by
  have verbatim (format : FieldFormat) (definition : Definition) :
      declarationLine format.text definition = .ok (format.filled definition) := by
    rw [declarationLine, render, format.readTemplate_text]
    refine (renderStatements_slots _ definition).trans (congrArg Except.ok ?_)
    rw [← String.toList_inj, String.toList_join, FieldFormat.filled, String.toList_ofList,
      ← shown_slotsFrom definition format.last format.parts 1, List.flatMap_map]
  refine ⟨verbatim, fun dialect => ⟨dialectFormat dialect, text_dialectFormat dialect, ?_⟩⟩
  intro definition
  rw [← text_dialectFormat]
  exact verbatim (dialectFormat dialect) definition

/-- Braces that open nothing stay, and so do the braces that a name is made of. -/
example : declarationLine "\n\x7bx\x7d\x7d\x7b\x7bname\x7d\x7d\x7d%\x7d\n"
    ⟨"1", "\x7b\x7b code \x7d\x7d"⟩ =
      .ok "\n\x7bx\x7d\x7d\x7b\x7b code \x7d\x7d\x7d%\x7d\n" := by
  decide +kernel

end Codebook.Template
