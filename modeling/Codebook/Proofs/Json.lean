import Codebook.Json

/-!
# The ways a JSON text can be written

A value has many texts. Every character of a string can be written in up to three ways, raw, by a short
escape or by its number, and blanks may stand around every token. The relations here say which texts
there are for a value, without regard to how they are read, and every one of them is read as the value.

They cover strings, truth values and null, and the arrays and objects of these. Numbers are left out, and
so are arrays and objects within others. Each reader is given some text behind the one it has to read,
and leaves it as it is.
-/

namespace Codebook.Json

open Decimal

/-! ## Written forms -/

/-- A hexadecimal digit and its value. Letters may be small or capital. -/
def IsHexDigit (c : Char) (value : Nat) : Prop :=
  "0123456789abcdef".toList[value]? = some c ∨ "0123456789ABCDEF".toList[value]? = some c

/-- Four hexadecimal digits and the number they denote. -/
inductive FourDigits : Nat → List Char → Prop where
  | digits {a b c d : Char} {i j k l : Nat} (first : IsHexDigit a i) (second : IsHexDigit b j)
      (third : IsHexDigit c k) (fourth : IsHexDigit d l) :
      FourDigits (((i * 16 + j) * 16 + k) * 16 + l) [a, b, c, d]

/-- The letters of the short escapes and the characters that they stand for. -/
def shortEscapes : List (Char × Char) :=
  [('"', '"'), ('\\', '\\'), ('/', '/'), ('b', '\x08'), ('f', '\x0c'), ('n', '\n'), ('r', '\r'),
    ('t', '\t')]

/-- The ways to write a character in a string: as it is, unless it is a quote, a backslash or a control
character; by a short escape; by its number, if this has at most sixteen bits; or by the numbers of the
two halves that a character beyond them is split into. -/
inductive SpelledChar : Char → List Char → Prop where
  | raw {c : Char} (noQuote : c ≠ '"') (noBackslash : c ≠ '\\') (noControl : ¬ c < ' ') :
      SpelledChar c [c]
  | short {letter c : Char} (escape : (letter, c) ∈ shortEscapes) : SpelledChar c ['\\', letter]
  | numbered {c : Char} {digits : List Char} (number : FourDigits c.toNat digits) :
      SpelledChar c ('\\' :: 'u' :: digits)
  | halves {c : Char} {high low : Nat} {highDigits lowDigits : List Char}
      (highNumber : FourDigits high highDigits) (lowNumber : FourDigits low lowDigits)
      (isHigh : 0xD800 ≤ high ∧ high ≤ 0xDBFF) (isLow : 0xDC00 ≤ low ∧ low ≤ 0xDFFF)
      (joined : c.toNat = 0x10000 + (high - 0xD800) * 0x400 + (low - 0xDC00)) :
      SpelledChar c ('\\' :: 'u' :: (highDigits ++ '\\' :: 'u' :: lowDigits))

/-- The ways to write the characters between the quotes of a string. -/
inductive Spelled : List Char → List Char → Prop where
  | nothing : Spelled [] []
  | more {c : Char} {cs text rest : List Char} (first : SpelledChar c text) (others : Spelled cs rest) :
      Spelled (c :: cs) (text ++ rest)

/-- The ways to write a string. -/
inductive WrittenText : String → List Char → Prop where
  | quoted {value : String} {inner : List Char} (spelled : Spelled value.toList inner) :
      WrittenText value ('"' :: (inner ++ ['"']))

/-- Blanks that may stand around a token. -/
def Blanks (text : List Char) : Prop :=
  ∀ c ∈ text, c = ' ' ∨ c = '\t' ∨ c = '\n' ∨ c = '\r'

/-- The ways to write a value that is neither a number nor made of others. -/
inductive WrittenScalar : Json → List Char → Prop where
  | null : WrittenScalar .null ['n', 'u', 'l', 'l']
  | isTrue : WrittenScalar (.bool true) ['t', 'r', 'u', 'e']
  | isFalse : WrittenScalar (.bool false) ['f', 'a', 'l', 's', 'e']
  | text {value : String} {text : List Char} (written : WrittenText value text) :
      WrittenScalar (.text value) text

/-- The ways to write a member of an object. -/
inductive WrittenMember : String × Json → List Char → Prop where
  | pair {name : String} {value : Json} {key behindKey beforeValue text : List Char}
      (nameWritten : WrittenText name key) (behind : Blanks behindKey) (before : Blanks beforeValue)
      (valueWritten : WrittenScalar value text) :
      WrittenMember (name, value) (key ++ (behindKey ++ ':' :: (beforeValue ++ text)))

/-- The ways to write some things with commas between them, one at least, each written as `written`
says. Blanks may stand behind each of them, and before each but the first. -/
inductive Listed {α : Type} (written : α → List Char → Prop) : List α → List Char → Prop where
  | last {item : α} {text behind : List Char} (itemWritten : written item text)
      (blank : Blanks behind) : Listed written [item] (text ++ behind)
  | more {item : α} {items : List α} {text behind before rest : List Char}
      (itemWritten : written item text) (blankBehind : Blanks behind) (blankBefore : Blanks before)
      (others : Listed written items rest) :
      Listed written (item :: items) (text ++ (behind ++ ',' :: (before ++ rest)))

/-- The ways to write an object or an array of scalars, with blanks around it. -/
inductive WrittenWhole : Json → List Char → Prop where
  | emptyObject {before inside behind : List Char} (blankBefore : Blanks before)
      (blankInside : Blanks inside) (blankBehind : Blanks behind) :
      WrittenWhole (.object []) (before ++ '{' :: (inside ++ '}' :: behind))
  | object {members : List (String × Json)} {before inside text behind : List Char}
      (blankBefore : Blanks before) (blankInside : Blanks inside)
      (written : Listed WrittenMember members text) (blankBehind : Blanks behind) :
      WrittenWhole (.object members) (before ++ '{' :: (inside ++ (text ++ '}' :: behind)))
  | array {items : List Json} {before inside text behind : List Char}
      (blankBefore : Blanks before) (blankInside : Blanks inside)
      (written : Listed WrittenScalar items text) (blankBehind : Blanks behind) :
      WrittenWhole (.array items) (before ++ '[' :: (inside ++ (text ++ ']' :: behind)))

/-! ## Strings -/

/-- A hexadecimal digit is read as its value. -/
theorem digitValue?_of_isHexDigit {c : Char} {value : Nat} (digit : IsHexDigit c value) :
    digitValue? 16 c = some value := by
  have small : ∀ value < 16,
      "0123456789abcdef".toList[value]?.bind (digitValue? 16) = some value := by decide +kernel
  have capital : ∀ value < 16,
      "0123456789ABCDEF".toList[value]?.bind (digitValue? 16) = some value := by decide +kernel
  rcases digit with found | found
  · have read := small value (List.getElem?_eq_some_iff.mp found).1
    rwa [found, Option.bind_some] at read
  · have read := capital value (List.getElem?_eq_some_iff.mp found).1
    rwa [found, Option.bind_some] at read

theorem FourDigits.read {number : Nat} {digits : List Char} (four : FourDigits number digits)
    (rest : List Char) : fourHexDigits? (digits ++ rest) = some (number, rest) := by
  obtain ⟨first, second, third, fourth⟩ := four
  simp [fourHexDigits?, readNat?, digitValue?_of_isHexDigit first, digitValue?_of_isHexDigit second,
    digitValue?_of_isHexDigit third, digitValue?_of_isHexDigit fourth]

/-- The number of a character is no half of another one. -/
theorem numberedEscape?_number {c : Char} {digits : List Char} (number : FourDigits c.toNat digits)
    (rest : List Char) : numberedEscape? (digits ++ rest) = some (c, rest) := by
  have valid : c.toNat < 0xD800 ∨ 0xDFFF < c.toNat := by
    have := c.valid
    unfold UInt32.isValidChar Nat.isValidChar at this
    simp only [Char.toNat]
    omega
  have noHigh : ¬ (0xD800 ≤ c.toNat ∧ c.toNat ≤ 0xDBFF) := by omega
  have noLow : ¬ (0xDC00 ≤ c.toNat ∧ c.toNat ≤ 0xDFFF) := by omega
  simp only [numberedEscape?, number.read, Option.bind_eq_bind, Option.bind_some, noHigh, noLow,
    if_false, Char.ofNat_toNat]
  rfl

/-- The numbers of two halves are read as the character that they were split from. -/
theorem numberedEscape?_halves {c : Char} {high low : Nat} {highDigits lowDigits : List Char}
    (highNumber : FourDigits high highDigits) (lowNumber : FourDigits low lowDigits)
    (isHigh : 0xD800 ≤ high ∧ high ≤ 0xDBFF) (isLow : 0xDC00 ≤ low ∧ low ≤ 0xDFFF)
    (joined : c.toNat = 0x10000 + (high - 0xD800) * 0x400 + (low - 0xDC00)) (rest : List Char) :
    numberedEscape? (highDigits ++ '\\' :: 'u' :: (lowDigits ++ rest)) = some (c, rest) := by
  have same : Char.ofNat (0x10000 + (high - 0xD800) * 0x400 + (low - 0xDC00)) = c := by
    rw [← joined, Char.ofNat_toNat]
  simp only [numberedEscape?, highNumber.read, lowNumber.read, Option.bind_eq_bind,
    Option.bind_some, isHigh, isLow, same]
  rfl

/-- A short escape is read as the character that it stands for, and its letter is not the one that a
number follows. -/
theorem jsonEscape?_of_short {letter c : Char} (escape : (letter, c) ∈ shortEscapes) :
    jsonEscape? letter = some c ∧ letter ≠ 'u' := by
  simp only [shortEscapes, List.mem_cons, List.not_mem_nil, or_false, Prod.mk.injEq] at escape
  rcases escape with ⟨rfl, rfl⟩ | ⟨rfl, rfl⟩ | ⟨rfl, rfl⟩ | ⟨rfl, rfl⟩ | ⟨rfl, rfl⟩ | ⟨rfl, rfl⟩ |
    ⟨rfl, rfl⟩ | ⟨rfl, rfl⟩ <;> exact ⟨rfl, by decide⟩

/-- The character of an escape by number is put before the rest of the string. -/
theorem readJsonString?_numbered {c : Char} {text rest : List Char}
    (read : numberedEscape? text = some (c, rest)) (fuel : Nat) :
    readJsonString? (fuel + 1) ('\\' :: 'u' :: text) =
      (readJsonString? fuel rest).map fun (inner, rest) => (c :: inner, rest) := by
  simp [readJsonString?, read]
  cases readJsonString? fuel rest <;> rfl

/-- A character is read in whichever way it is written, and put before the rest of the string. -/
theorem SpelledChar.read {c : Char} {text : List Char} (spelled : SpelledChar c text) (fuel : Nat)
    (rest : List Char) :
    readJsonString? (fuel + 1) (text ++ rest) =
      (readJsonString? fuel rest).map fun (inner, rest) => (c :: inner, rest) := by
  cases spelled with
  | raw noQuote noBackslash noControl =>
    simp only [List.cons_append, List.nil_append, readJsonString?, noQuote, noBackslash, noControl,
      if_false]
    cases readJsonString? fuel rest <;> rfl
  | short escape =>
    obtain ⟨read, noNumber⟩ := jsonEscape?_of_short escape
    simp only [List.cons_append, List.nil_append, readJsonString?]
    simp [read]
    cases readJsonString? fuel rest <;> rfl
  | numbered number => exact readJsonString?_numbered (numberedEscape?_number number rest) fuel
  | halves highNumber lowNumber isHigh isLow joined =>
    have read := numberedEscape?_halves highNumber lowNumber isHigh isLow joined rest
    simp only [List.cons_append, List.append_assoc]
    exact readJsonString?_numbered read fuel

theorem SpelledChar.text_ne_nil {c : Char} {text : List Char} (spelled : SpelledChar c text) :
    text ≠ [] := by
  cases spelled <;> exact List.cons_ne_nil _ _

/-- The characters of a string are read up to its closing quote. Each of them takes one step, and is
written with one character at least. -/
theorem Spelled.read {cs inner : List Char} (spelled : Spelled cs inner) (rest : List Char) :
    ∀ fuel : Nat, inner.length < fuel →
      readJsonString? fuel (inner ++ '"' :: rest) = some (cs, rest) := by
  induction spelled with
  | nothing =>
    intro fuel enough
    obtain ⟨fuel, rfl⟩ := Nat.exists_eq_add_of_lt enough
    rfl
  | more first others ih =>
    intro fuel enough
    have some := List.length_pos_iff.mpr first.text_ne_nil
    rw [List.length_append] at enough
    obtain ⟨fuel, rfl⟩ := Nat.exists_eq_add_of_le' (show 1 ≤ fuel by omega)
    rw [List.append_assoc, first.read fuel, ih fuel (by omega)]
    rfl

/-- Spellings of the parts of a string are put together as they are. -/
theorem Spelled.append {cs others text rest : List Char} (spelled : Spelled cs text)
    (behind : Spelled others rest) : Spelled (cs ++ others) (text ++ rest) := by
  induction spelled with
  | nothing => exact behind
  | more first _ ih =>
    rw [List.append_assoc]
    exact .more first ih

/-- Characters that need no escape may stand as they are. -/
theorem spelled_raw {cs : List Char}
    (plain : cs.all (fun c => c ≠ '"' ∧ c ≠ '\\' ∧ ¬ c < ' ') = true) : Spelled cs cs := by
  induction cs with
  | nil => exact .nothing
  | cons c cs ih =>
    simp only [List.all_cons, Bool.and_eq_true, decide_eq_true_eq] at plain
    obtain ⟨⟨noQuote, noBackslash, noControl⟩, others⟩ := plain
    exact .more (.raw noQuote noBackslash noControl) (ih others)

/-- A string is read behind its opening quote. -/
theorem WrittenText.read {value : String} {text : List Char} (written : WrittenText value text)
    (rest : List Char) :
    ∃ inner, text ++ rest = '"' :: inner ∧
      readJsonString? (inner.length + 1) inner = some (value.toList, rest) := by
  obtain ⟨spelled⟩ := written
  refine ⟨_, rfl, ?_⟩
  simp only [List.append_eq, List.append_assoc]
  exact spelled.read rest _ (by simp only [List.length_append]; omega)

/-! ## Blanks -/

theorem Blanks.areBlank {text : List Char} (blank : Blanks text) :
    ∀ c ∈ text, isJsonBlank c = true := by
  intro c member
  rcases blank c member with rfl | rfl | rfl | rfl <;> rfl

/-- Blanks before a token are skipped. -/
theorem Blanks.skip {blanks : List Char} (blank : Blanks blanks) {c : Char}
    (token : isJsonBlank c = false) (rest : List Char) :
    skipJsonBlanks (blanks ++ c :: rest) = c :: rest := by
  rw [skipJsonBlanks, List.dropWhile_append_of_pos blank.areBlank,
    List.dropWhile_cons_of_neg (by simp [token])]

/-- Blanks at the end are skipped. -/
theorem Blanks.skip_all {blanks : List Char} (blank : Blanks blanks) : skipJsonBlanks blanks = [] := by
  rw [skipJsonBlanks, ← List.append_nil blanks, List.dropWhile_append_of_pos blank.areBlank,
    List.dropWhile_nil]

/-! ## Scalars -/

/-- A scalar starts with a character that is no blank. -/
theorem WrittenScalar.starts {value : Json} {text : List Char} (written : WrittenScalar value text) :
    ∃ c rest, text = c :: rest ∧ isJsonBlank c = false ∧ c ≠ ']' := by
  cases written with
  | null => exact ⟨'n', _, rfl, rfl, by decide⟩
  | isTrue => exact ⟨'t', _, rfl, rfl, by decide⟩
  | isFalse => exact ⟨'f', _, rfl, rfl, by decide⟩
  | text written =>
    obtain ⟨spelled⟩ := written
    exact ⟨'"', _, rfl, rfl, by decide⟩

/-- A scalar is read behind any blanks. -/
theorem WrittenScalar.read {value : Json} {text blanks : List Char}
    (written : WrittenScalar value text) (blank : Blanks blanks) (fuel : Nat) (rest : List Char) :
    readJsonValue? (fuel + 1) (blanks ++ (text ++ rest)) = some (value, rest) := by
  obtain ⟨c, more, rfl, token, -⟩ := written.starts
  have skipped := blank.skip token (more ++ rest)
  rw [List.cons_append]
  cases written with
  | null =>
    rw [readJsonValue?, skipped]
    rfl
  | isTrue =>
    rw [readJsonValue?, skipped]
    rfl
  | isFalse =>
    rw [readJsonValue?, skipped]
    rfl
  | text written =>
    obtain ⟨inner, starts, read⟩ := written.read rest
    rw [List.cons_append] at starts
    rw [readJsonValue?, skipped]
    simp [starts, read]

/-! ## Items and members -/

section Listed

variable {α : Type} {written : α → List Char → Prop}

/-- Things that are all written with some character each are not more than the characters. -/
theorem Listed.length_le {items : List α} {text : List Char} (listed : Listed written items text)
    (some : ∀ item text, written item text → text ≠ []) : items.length ≤ text.length := by
  induction listed with
  | last itemWritten _ =>
    have present := List.length_pos_iff.mpr (some _ _ itemWritten)
    simp only [List.length_append, List.length_singleton]
    omega
  | more _ _ _ _ ih =>
    simp only [List.length_append, List.length_cons]
    omega

/-- The first of some things is written first. -/
theorem Listed.starts {items : List α} {text : List Char} (listed : Listed written items text) :
    ∃ item first rest, written item first ∧ text = first ++ rest := by
  cases listed with
  | last itemWritten _ => exact ⟨_, _, _, itemWritten, rfl⟩
  | more itemWritten _ _ _ => exact ⟨_, _, _, itemWritten, rfl⟩

/-- A reader of things with commas between them up to a closing character. It takes a thing with the
blanks around it, and what stands behind it tells whether there is another one. -/
structure ReadsListed (reader : Nat → List Char → Option (List α × List Char))
    (written : α → List Char → Prop) (closing : Char) : Prop where
  last : ∀ {item : α} {text before behind : List Char}, written item text → Blanks before →
    Blanks behind → ∀ (fuel : Nat) (rest : List Char),
      reader (fuel + 2) (before ++ (text ++ (behind ++ closing :: rest))) = some ([item], rest)
  more : ∀ {item : α} {text before behind : List Char}, written item text → Blanks before →
    Blanks behind → ∀ (fuel : Nat) (rest : List Char),
      reader (fuel + 2) (before ++ (text ++ (behind ++ ',' :: rest))) =
        (reader (fuel + 1) rest).map fun (items, rest) => (item :: items, rest)

/-- Things are read up to the closing character, each with one call. -/
theorem Listed.read {reader : Nat → List Char → Option (List α × List Char)} {closing : Char}
    (reads : ReadsListed reader written closing) {items : List α} {text : List Char}
    (listed : Listed written items text) (rest : List Char) :
    ∀ (fuel : Nat) (blanks : List Char), Blanks blanks → items.length < fuel →
      reader fuel (blanks ++ (text ++ closing :: rest)) = some (items, rest) := by
  induction listed with
  | last itemWritten blankBehind =>
    intro fuel blanks blank enough
    obtain ⟨fuel, rfl⟩ := Nat.exists_eq_add_of_le' (show 2 ≤ fuel from enough)
    rw [List.append_assoc]
    exact reads.last itemWritten blank blankBehind fuel rest
  | more itemWritten blankBehind blankBefore others ih =>
    intro fuel blanks blank enough
    rw [List.length_cons] at enough
    obtain ⟨fuel, rfl⟩ := Nat.exists_eq_add_of_le' (show 2 ≤ fuel by omega)
    have others := ih (fuel + 1) _ blankBefore (by omega)
    simp only [List.append_assoc, List.cons_append]
    rw [reads.more itemWritten blank blankBehind, others]
    rfl

end Listed

/-- An item is read before what stands behind it is looked at. -/
theorem readJsonItems?_item {item : Json} {text before : List Char}
    (written : WrittenScalar item text) (blank : Blanks before) (fuel : Nat) (rest : List Char) :
    readJsonItems? (fuel + 2) (before ++ (text ++ rest)) =
      match skipJsonBlanks rest with
      | ',' :: rest => do
        let (items, rest) ← readJsonItems? (fuel + 1) rest
        return (item :: items, rest)
      | ']' :: rest => return ([item], rest)
      | _ => none := by
  rw [readJsonItems?, written.read blank fuel]
  rfl

theorem readsListed_items : ReadsListed readJsonItems? WrittenScalar ']' where
  last itemWritten blankBefore blankBehind fuel rest := by
    rw [readJsonItems?_item itemWritten blankBefore, blankBehind.skip rfl]
    rfl
  more itemWritten blankBefore blankBehind fuel rest := by
    rw [readJsonItems?_item itemWritten blankBefore, blankBehind.skip rfl]
    change (readJsonItems? (fuel + 1) rest).bind _ = _
    cases readJsonItems? (fuel + 1) rest <;> rfl

/-- The name, the colon and the value of a member are read before what stands behind it is looked at. -/
theorem readJsonMembers?_member {name : String} {value : Json} {text before : List Char}
    (written : WrittenMember (name, value) text) (blank : Blanks before) (fuel : Nat)
    (rest : List Char) :
    readJsonMembers? (fuel + 2) (before ++ (text ++ rest)) =
      match skipJsonBlanks rest with
      | ',' :: rest => do
        let (members, rest) ← readJsonMembers? (fuel + 1) rest
        return ((name, value) :: members, rest)
      | '}' :: rest => return ([(name, value)], rest)
      | _ => none := by
  obtain ⟨nameWritten, behind, beforeValue, valueWritten⟩ := written
  simp only [List.append_assoc, List.cons_append]
  obtain ⟨inner, starts, read⟩ := nameWritten.read _
  rw [starts, readJsonMembers?, blank.skip rfl]
  simp only [read, Option.bind_eq_bind, Option.bind_some]
  rw [behind.skip rfl]
  change (readJsonValue? (fuel + 1) _).bind _ = _
  rw [valueWritten.read beforeValue fuel, String.ofList_toList]
  rfl

theorem readsListed_members : ReadsListed readJsonMembers? WrittenMember '}' where
  last memberWritten blankBefore blankBehind fuel rest := by
    rw [readJsonMembers?_member memberWritten blankBefore, blankBehind.skip rfl]
    rfl
  more memberWritten blankBefore blankBehind fuel rest := by
    rw [readJsonMembers?_member memberWritten blankBefore, blankBehind.skip rfl]
    change (readJsonMembers? (fuel + 1) rest).bind _ = _
    cases readJsonMembers? (fuel + 1) rest <;> rfl

/-! ## The whole text -/

theorem WrittenScalar.text_ne_nil {value : Json} {text : List Char}
    (written : WrittenScalar value text) : text ≠ [] := by
  obtain ⟨c, rest, rfl, -⟩ := written.starts
  exact List.cons_ne_nil c rest

/-- A member starts with the quote of its name. -/
theorem WrittenMember.starts {member : String × Json} {text : List Char}
    (written : WrittenMember member text) : ∃ rest, text = '"' :: rest := by
  obtain ⟨⟨spelled⟩, -, -, -⟩ := written
  exact ⟨_, rfl⟩

theorem WrittenMember.text_ne_nil {member : String × Json} {text : List Char}
    (written : WrittenMember member text) : text ≠ [] := by
  obtain ⟨rest, rfl⟩ := written.starts
  exact List.cons_ne_nil '"' rest

/-- An object is read from the blanks before it up to its closing brace. -/
theorem readJsonValue?_object {members : List (String × Json)} {before inside text : List Char}
    (blankBefore : Blanks before) (blankInside : Blanks inside)
    (written : Listed WrittenMember members text) {fuel : Nat} (enough : text.length < fuel)
    (rest : List Char) :
    readJsonValue? (fuel + 1) (before ++ '{' :: (inside ++ (text ++ '}' :: rest))) =
      some (.object members, rest) := by
  have few := written.length_le fun _ _ member => member.text_ne_nil
  have read := written.read readsListed_members rest fuel [] (by simp [Blanks]) (by omega)
  obtain ⟨member, first, others, memberWritten, rfl⟩ := written.starts
  obtain ⟨more, rfl⟩ := memberWritten.starts
  rw [readJsonValue?, blankBefore.skip rfl]
  simp only [List.cons_append, List.nil_append] at read ⊢
  rw [blankInside.skip rfl]
  exact congrArg (Option.map fun (members, rest) => (Json.object members, rest)) read

/-- An array is read from the blanks before it up to its closing bracket. -/
theorem readJsonValue?_array {items : List Json} {before inside text : List Char}
    (blankBefore : Blanks before) (blankInside : Blanks inside)
    (written : Listed WrittenScalar items text) {fuel : Nat} (enough : text.length < fuel)
    (rest : List Char) :
    readJsonValue? (fuel + 1) (before ++ '[' :: (inside ++ (text ++ ']' :: rest))) =
      some (.array items, rest) := by
  have few := written.length_le fun _ _ item => item.text_ne_nil
  have read := written.read readsListed_items rest fuel [] (by simp [Blanks]) (by omega)
  obtain ⟨item, first, others, itemWritten, rfl⟩ := written.starts
  obtain ⟨c, more, rfl, token, noBracket⟩ := itemWritten.starts
  rw [readJsonValue?, blankBefore.skip rfl]
  simp only [List.cons_append, List.nil_append, List.append_assoc] at read ⊢
  rw [blankInside.skip token]
  simp [noBracket, read]

/-- A text of an object or an array of scalars is read as this. -/
theorem WrittenWhole.read {value : Json} {text : String} (written : WrittenWhole value text.toList) :
    Json.read? text = some value := by
  obtain ⟨rest, blank, read⟩ : ∃ rest, Blanks rest ∧
      readJsonValue? (2 * text.length + 2) text.toList = some (value, rest) := by
    rw [← String.length_toList]
    generalize text.toList = characters at written
    cases written with
    | @emptyObject before inside behind blankBefore blankInside blankBehind =>
      refine ⟨behind, blankBehind, ?_⟩
      rw [readJsonValue?, blankBefore.skip rfl]
      simp only
      rw [blankInside.skip rfl]
      rfl
    | @object members before inside text behind blankBefore blankInside written blankBehind =>
      refine ⟨behind, blankBehind, readJsonValue?_object blankBefore blankInside written ?_ behind⟩
      simp only [List.length_append, List.length_cons]
      omega
    | @array items before inside text behind blankBefore blankInside written blankBehind =>
      refine ⟨behind, blankBehind, readJsonValue?_array blankBefore blankInside written ?_ behind⟩
      simp only [List.length_append, List.length_cons]
      omega
  simp only [Json.read?, read, Option.bind_eq_bind, Option.bind_some, blank.skip_all]
  rfl

end Codebook.Json
