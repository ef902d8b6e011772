import Codebook.Proofs.Yaml.Braces

/-!
# JSON texts of visible characters as YAML

A string that is written for JSON with visible characters only is written for YAML as well: the short
escapes and those by number have the same letters and stand for the same characters. The one difference
is with characters beyond sixteen bits. Their numbers are split in two halves, and a half is the number
of no character, so YAML has no such escape.
-/

namespace Codebook.Yaml

open Json (FourDigits WrittenScalar WrittenText)

/-- Four digits denote the same number in both. -/
theorem hexNumber_of_fourDigits {number : Nat} {digits : List Char}
    (four : FourDigits number digits) : HexNumber number digits ∧ digits.length = 4 := by
  obtain ⟨first, second, third, fourth⟩ := four
  have one := HexNumber.more .nothing first
  rw [Nat.zero_mul, Nat.zero_add] at one
  exact ⟨((one.more second).more third).more fourth, rfl⟩

/-- The number of a half stands for no character. -/
theorem readEscape?_half {number : Nat} {digits : List Char} (four : FourDigits number digits)
    (isHalf : 0xD800 ≤ number ∧ number ≤ 0xDFFF) (rest : List Char) :
    readEscape? ('u' :: (digits ++ rest)) = none := by
  obtain ⟨denotes, length⟩ := hexNumber_of_fourDigits four
  have notEmpty : digits ≠ [] := by
    rintro rfl
    cases length
  have read : Decimal.readNat? 16 digits = some number := by
    simpa [Decimal.readNat?, notEmpty] using denotes.read
  simp [readEscape?, escapeWidth?, ← length, read, isHalf]

/-- A character in front does not change that an escape stands for nothing. -/
theorem HasBadEscape.behind {c : Char} {text rest : List Char} (first : SpelledChar c text)
    (bad : HasBadEscape rest) : HasBadEscape (text ++ rest) := by
  obtain ⟨spelled, onLine, bad⟩ := bad
  rw [← List.append_assoc]
  exact .here (.more first spelled) onLine bad

/-- Neither does text that follows. -/
theorem HasBadEscape.append {text : List Char} (bad : HasBadEscape text) (rest : List Char) :
    HasBadEscape (text ++ rest) := by
  obtain ⟨spelled, onLine, bad⟩ := bad
  rw [List.append_assoc]
  exact .here spelled onLine fun more => by simpa using bad (rest ++ more)

/-- A visible character of a JSON string is spelled for YAML too, if it has no halves. -/
theorem spelledChar_or_bad {c : Char} {text : List Char} (spelled : Json.SpelledChar c text)
    (visible : ∀ c ∈ text, IsVisible c) :
    SpelledChar c text ∨ ∀ rest, HasBadEscape (text ++ rest) := by
  cases spelled with
  | raw noQuote noBackslash => exact .inl (.raw (visible c (by simp)) noQuote noBackslash)
  | short escape => exact .inl (.short escape)
  | numbered number =>
    obtain ⟨denotes, length⟩ := hexNumber_of_fourDigits number
    exact .inl (.numbered (by decide) length denotes)
  | @halves c high low highDigits lowDigits highNumber _ isHigh =>
    refine .inr fun rest => HasBadEscape.here .nothing rfl fun more => ?_
    have half := readEscape?_half highNumber (by omega)
      ('\\' :: 'u' :: (lowDigits ++ (rest ++ more)))
    simpa using half

/-- Visible characters of a JSON string are spelled for YAML too, up to the first half of one. -/
theorem spelled_or_bad {cs text : List Char} (spelled : Json.Spelled cs text)
    (visible : ∀ c ∈ text, IsVisible c) : Spelled cs text ∨ HasBadEscape text := by
  induction spelled with
  | nothing => exact .inl .nothing
  | @more c cs text rest first others ih =>
    obtain ⟨visibleFirst, visibleRest⟩ := List.forall_mem_append.mp visible
    rcases spelledChar_or_bad first visibleFirst with spelled | bad
    · exact (ih visibleRest).imp (.more spelled) (.behind spelled)
    · exact .inr (bad rest)

/-- A JSON string of visible characters is a quoted text, if it is any. -/
theorem tried_of_writtenText {value : String} {text : List Char} (written : WrittenText value text)
    (visible : ∀ c ∈ text, IsVisible c) : Scalar.Tried ⟨value, .double⟩ text := by
  obtain ⟨spelled⟩ := written
  simp only [List.forall_mem_cons, List.forall_mem_append] at visible
  rcases spelled_or_bad spelled visible.2.1 with spelled | bad
  · exact .written (.quoted spelled)
  · exact .unreadable (bad.append ['"'])

/-- A JSON scalar of visible characters is a scalar, if it is any. -/
theorem tried_of_writtenScalar {value : Json} {text : List Char} (written : WrittenScalar value text)
    (visible : ∀ c ∈ text, IsVisible c) : ∃ scalar : Scalar, scalar.Tried text := by
  cases written with
  | null => exact ⟨_, .written (.plain ⟨by decide, by decide⟩)⟩
  | isTrue => exact ⟨_, .written (.plain ⟨by decide, by decide⟩)⟩
  | isFalse => exact ⟨_, .written (.plain ⟨by decide, by decide⟩)⟩
  | text written => exact ⟨_, tried_of_writtenText written visible⟩

end Codebook.Yaml
