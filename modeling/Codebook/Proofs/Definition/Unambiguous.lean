import Codebook.Proofs.Definition.Pattern

/-!
# No choice in definition texts

What may follow a part of an entry never starts as the part could go on, and of two alternatives inside of
it the next two characters allow one at most. So an entry is found in one pass or not at all. Comments of
both kinds and entries are told apart by their first two characters.

The readers of definition texts then find what a search for the pattern finds first.
-/

namespace Codebook.Grammar

open Text Pattern

variable {follows : List Char → Prop}

/-! ## First characters -/

theorem opens_line : linePattern.Opens (· = '/') :=
  (opens_sign '/').seq _

theorem opens_block : blockPattern.Opens (· = '/') :=
  (opens_sign '/').seq _

theorem opens_group : groupPattern.Opens (isDecimalDigit · = true) :=
  (opens_one isDecimalDigit).seq _

theorem opens_entry : entryPattern.Opens (isDecimalDigit · = true) :=
  ((opens_group.seq _).labelled .code).seq _

/-- The second character tells a line comment from a block comment. -/
theorem line_apart_block : linePattern.Apart blockPattern := by
  refine Apart.behind_one (Opens.apart ((opens_sign '/').seq _) ((opens_sign '*').seq _) ?_) _
  rintro c rfl
  decide

theorem line_apart_entry : linePattern.Apart entryPattern :=
  opens_line.apart opens_entry fun c same isDigit => ne_of_class isDigit (by decide) same

theorem block_apart_entry : blockPattern.Apart entryPattern :=
  opens_block.apart opens_entry fun c same isDigit => ne_of_class isDigit (by decide) same

/-! ## Where the parts of an entry end -/

theorem sure_code : codePattern.Sure (StartsWith (isBlank · = true)) := by
  have opens : ((sign '_').seq groupPattern).Opens (· = '_') := (opens_sign '_').seq _
  have groupEnds : ∀ c, isDecimalDigit c = true → ¬ (c = '_' ∨ isBlank c = true) := by
    rintro c isDigit (same | blank)
    · exact ne_of_class isDigit (by decide) same
    · rw [not_digit_of_blank blank] at isDigit
      cases isDigit
  have sureGroup : groupPattern.Sure (StartsWith fun c => c = '_' ∨ isBlank c = true) :=
    Sure.seq (sure_one _) (sure_many_one groupEnds)
  have codeEnds : ∀ c, c = '_' → ¬ isBlank c = true := by
    rintro c rfl
    decide
  exact opens.sure_seq_many sureGroup (opens.sure_many (Sure.seq (sure_one _) sureGroup) codeEnds)

theorem sure_name : namePattern.Sure (StartsWith fun c => isBlank c = true ∨ c = '=') := by
  refine Sure.seq (sure_one _) (sure_many_one ?_)
  rintro c part (blank | rfl)
  · rw [not_name_part_of_blank blank] at part
    cases part
  · revert part
    decide

theorem sure_blanks {c : Char} (notBlank : isBlank c = false) :
    (one isBlank : Pattern Label).many.Sure (StartsWith (· = c)) :=
  sure_many_one fun _ blank same => ne_of_class blank notBlank same

/-- The letters of long escapes form no short escape. -/
theorem short_apart_long (letter : Char) (count : Nat) (unknown : isShortEscape letter = false) :
    shortEscapePattern.Apart (longEscapePattern letter count) :=
  Apart.behind_one ((opens_one isShortEscape).apart ((opens_sign letter).seq _)
    fun _ known same => ne_of_class known unknown same) _

theorem long_apart_long (letter other : Char) (count more : Nat) (different : letter ≠ other) :
    (longEscapePattern letter count).Apart (longEscapePattern other more) :=
  Apart.behind_one (((opens_sign letter).seq _).apart ((opens_sign other).seq _)
    fun _ same otherSame => different (same.symm.trans otherSame)) _

theorem escape_apart_plain (escaped : Pattern Label) : ((sign '\\').seq escaped).Apart (one isPlain) :=
  ((opens_sign '\\').seq escaped).apart (opens_one isPlain) fun _ same plain =>
    ne_of_class plain (by decide) same

theorem sure_item : itemPattern.Sure follows := by
  have sureShort : shortEscapePattern.Sure follows := Sure.seq (sure_one _) (sure_one _)
  have sureLong (letter : Char) (count : Nat) : (longEscapePattern letter count).Sure follows :=
    Sure.seq (sure_one _) (Sure.seq (sure_one _) (sure_times_one _ count))
  have shortApart := (short_apart_long 'u' 4 (by decide)).either
    ((short_apart_long 'U' 8 (by decide)).either (escape_apart_plain _))
  have longApart := (long_apart_long 'u' 'U' 4 8 (by decide)).either (escape_apart_plain _)
  exact sureShort.either
    ((sureLong 'u' 4).either ((sureLong 'U' 8).either (sure_one _) (escape_apart_plain _)) longApart)
    shortApart

/-- What an item starts with is no quote. -/
theorem opens_item : itemPattern.Opens (· ≠ '"') := by
  have escape (behind : Pattern Label) : ((sign '\\').seq behind).Opens (· ≠ '"') :=
    ((opens_sign '\\').seq behind).mono (by rintro c rfl; decide)
  have plain : (one isPlain : Pattern Label).Opens (· ≠ '"') :=
    (opens_one isPlain).mono fun c inside => ne_of_class inside (by decide)
  exact (escape _).either ((escape _).either ((escape _).either plain))

theorem sure_items : itemPattern.many.Sure (StartsWith (· = '"')) :=
  opens_item.sure_many sure_item fun _ notQuote same => notQuote same

/-- An entry is found in one pass, whatever follows it. Every part is sure before what the next one starts
with. -/
theorem sure_entry : entryPattern.Sure follows := by
  have sureEnd : ((one isBlank).many.seq (sign ';') : Pattern Label).Sure follows :=
    Sure.seq_opens (sure_blanks (by decide)) (opens_sign ';') (sure_one _)
  have sureClose := Sure.seq (sure_one (· == '"')) sureEnd
  have sureMessage := Sure.seq_opens sure_items ((opens_sign '"').seq _) sureClose
  have sureQuote := Sure.seq_opens (sure_blanks (by decide)) ((opens_sign '"').seq _)
    (Sure.seq (sure_one (· == '"')) sureMessage)
  have sureEquals := Sure.seq_opens (sure_blanks (by decide)) ((opens_sign '=').seq _)
    (Sure.seq (sure_one (· == '=')) sureQuote)
  have sureName := Sure.seq_opens (sure_name.labelled Label.name)
    ((opens_one isBlank).many_seq ((opens_sign '=').seq _)) sureEquals
  have sureGap : (one isBlank : Pattern Label).oneOrMore.Sure (StartsWith (isNameStart · = true)) :=
    Sure.seq (sure_one _) <| sure_many_one fun _ blank start =>
      Bool.eq_false_iff.mp (not_name_part_of_blank blank) (name_part_of_start start)
  exact Sure.seq_opens (sure_code.labelled Label.code) (((opens_one isBlank).seq _).seq _)
    (Sure.seq_opens sureGap ((((opens_one isNameStart).seq _).labelled Label.name).seq _) sureName)

/-! ## What is found at a place -/

/-- Where an entry stands, a search finds its code and its name. -/
theorem entry_first?_eq_some_iff {text : List Char} {way : Way Label} :
    entryPattern.first? text = some way ↔
      ∃ entry : Entry, text = entry.text ++ way.rest ∧
        way.kept = [(.code, entry.code), (.name, entry.name)] :=
  sure_entry.first?_eq_some_iff.trans mem_ways_entry

/-- An entry stands at the start of a text in one way at most. -/
theorem Entry.unique {entry other : Entry} {rest behind : List Char}
    (same : entry.text ++ rest = other.text ++ behind) :
    entry.code = other.code ∧ entry.name = other.name ∧ rest = behind := by
  have found : (⟨[(.code, entry.code), (.name, entry.name)], rest⟩ : Way Label) ∈
      entryPattern.ways (entry.text ++ rest) :=
    mem_ways_entry.mpr ⟨entry, rfl, rfl⟩
  have again : (⟨[(.code, other.code), (.name, other.name)], behind⟩ : Way Label) ∈
      entryPattern.ways (entry.text ++ rest) :=
    mem_ways_entry.mpr ⟨other, same, rfl⟩
  simpa [and_assoc] using sure_entry.unique found again

theorem line_starts {text : List Char} {way : Way Label} (member : way ∈ linePattern.ways text) :
    ∃ rest, text = '/' :: '/' :: rest := by
  obtain ⟨_, _, rfl, rfl, inside⟩ := (spells_sign '/').mem_seq.mp member
  obtain ⟨_, rest, rfl, rfl, -⟩ := (spells_sign '/').mem_seq.mp inside
  exact ⟨rest, rfl⟩

theorem block_starts {text : List Char} {way : Way Label} (member : way ∈ blockPattern.ways text) :
    ∃ rest, text = '/' :: '*' :: rest := by
  obtain ⟨_, _, rfl, rfl, inside⟩ := (spells_sign '/').mem_seq.mp member
  obtain ⟨_, rest, rfl, rfl, -⟩ := (spells_sign '*').mem_seq.mp inside
  exact ⟨rest, rfl⟩

theorem first?_sign_seq (c : Char) (second : Pattern Label) (text : List Char) :
    ((sign c).seq second).first? text = (expect? c text).bind second.first? := by
  cases text with
  | nil => rfl
  | cons d rest =>
    rw [sign, first?_one_seq, expect?]
    by_cases same : d = c <;> simp [same]

theorem first?_sign (c : Char) (text : List Char) :
    (sign c : Pattern Label).first? text = (expect? c text).map (⟨[], ·⟩) := by
  cases text with
  | nil => rfl
  | cons d rest => by_cases same : d = c <;> simp [sign, first?, ways, expect?, same]

/-- The end of a block comment stands at the start of a text, or it is looked for behind a character. -/
theorem afterBlockEnd?_cons (c : Char) (rest : List Char) :
    afterBlockEnd? (c :: rest) =
      ((expect? '*' (c :: rest)).bind (expect? '/')).or (afterBlockEnd? rest) := by
  rw [afterBlockEnd?, expect?]
  by_cases star : c = '*'
  · cases rest with
    | nil => simp [star, expect?]
    | cons d behind => by_cases slash : d = '/' <;> simp [star, slash, expect?]
  · simp [star]

/-- As little as possible before `*/` is all that stands before the first one. -/
theorem first?_few_blockEnd (text : List Char) :
    ((one fun _ => true).few.seq ((sign '*').seq (sign '/')) : Pattern Label).first? text =
      (afterBlockEnd? text).map (⟨[], ·⟩) := by
  have ending (text : List Char) : ((sign '*').seq (sign '/') : Pattern Label).first? text =
      ((expect? '*' text).bind (expect? '/')).map (⟨[], ·⟩) := by
    rw [first?_sign_seq, Option.map_bind]
    exact congrArg _ (funext (first?_sign '/'))
  induction text with
  | nil => rw [first?_few_seq_nil]; rfl
  | cons c rest ih => rw [first?_few_seq, if_pos rfl, ih, ending, afterBlockEnd?_cons, Option.map_or]

theorem line_first? (rest : List Char) :
    linePattern.first? ('/' :: '/' :: rest) = some ⟨[], rest.dropWhile (· ≠ '\n')⟩ := by
  rw [linePattern, first?_sign_seq]
  exact (first?_sign_seq '/' _ _).trans (first?_many_one _ rest)

theorem block_first? (rest : List Char) :
    blockPattern.first? ('/' :: '*' :: rest) = (afterBlockEnd? rest).map (⟨[], ·⟩) := by
  rw [blockPattern, first?_sign_seq]
  exact (first?_sign_seq '*' _ _).trans (first?_few_blockEnd rest)

/-- What a search finds where a comment stands is what the reader of comments leaves behind it. -/
theorem comment_first? (text : List Char) :
    (linePattern.either blockPattern).first? text = (comment? text).map (⟨[], ·⟩) := by
  rw [first?_either]
  unfold comment?
  split
  · next rest =>
    rw [line_first?]
    rfl
  · next rest =>
    have noLine : linePattern.first? ('/' :: '*' :: rest) = none :=
      first?_eq_none_iff.mpr fun way member => by
        obtain ⟨_, same⟩ := line_starts member
        cases same
    rw [noLine, block_first?]
    rfl
  · next notLine notBlock =>
    have noLine : linePattern.first? text = none := first?_eq_none_iff.mpr fun way member => by
      obtain ⟨rest, same⟩ := line_starts member
      exact notLine rest same
    have noBlock : blockPattern.first? text = none := first?_eq_none_iff.mpr fun way member => by
      obtain ⟨rest, same⟩ := block_starts member
      exact notBlock rest same
    rw [noLine, noBlock]
    rfl

end Codebook.Grammar
