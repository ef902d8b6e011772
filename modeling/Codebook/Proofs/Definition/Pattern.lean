import Codebook.Proofs.Definition.Scanning
import Codebook.Proofs.Pattern.OnePass

/-!
# The pattern of definition texts

The grammar of definition texts as one pattern: a comment, or an entry, or a character that is no blank.
Every repetition in it is eager but the one inside of block comments, and of two alternatives the first one
is preferred.

What the parts of an entry take is what the grammar says. Where one part ends and the next one starts is
seen at a single character, so an entry is found in one pass or not at all, and there is one way at most
to find it.
-/

namespace Codebook.Grammar

open Text Pattern

/-- The labels of the parts that are kept. -/
inductive Label where
  | comment
  | code
  | name
  | stray
  deriving Repr, DecidableEq

/-- The rest of a line, behind two slashes. -/
def linePattern : Pattern Label :=
  (sign '/').seq ((sign '/').seq (one (· ≠ '\n')).many)

/-- Anything between `/*` and `*/`, but as little as possible. -/
def blockPattern : Pattern Label :=
  (sign '/').seq ((sign '*').seq ((one fun _ => true).few.seq ((sign '*').seq (sign '/'))))

def groupPattern : Pattern Label :=
  (one isDecimalDigit).oneOrMore

/-- Digits in groups, with underscores between them. -/
def codePattern : Pattern Label :=
  groupPattern.seq ((sign '_').seq groupPattern).many

def namePattern : Pattern Label :=
  (one isNameStart).seq (one isNamePart).many

/-- The characters of a message that stand for themselves. -/
def isPlain (c : Char) : Bool :=
  c ≠ '\\' && c ≠ '"'

def shortEscapePattern : Pattern Label :=
  (sign '\\').seq (one isShortEscape)

/-- An escape of a certain letter and a certain number of hexadecimal digits. -/
def longEscapePattern (letter : Char) (count : Nat) : Pattern Label :=
  (sign '\\').seq ((sign letter).seq ((one isHexDigit).times count))

/-- An escape in a message, or a character that stands for itself. -/
def itemPattern : Pattern Label :=
  shortEscapePattern.either
    ((longEscapePattern 'u' 4).either ((longEscapePattern 'U' 8).either (one isPlain)))

def entryPattern : Pattern Label :=
  (codePattern.labelled .code).seq <| (one isBlank).oneOrMore.seq <|
  (namePattern.labelled .name).seq <| (one isBlank).many.seq <| (sign '=').seq <|
  (one isBlank).many.seq <| (sign '"').seq <| itemPattern.many.seq <| (sign '"').seq <|
  (one isBlank).many.seq (sign ';')

def commentPattern : Pattern Label :=
  (linePattern.either blockPattern).labelled .comment

/-- A character that has no place in a definition text. It is the last thing to be looked for. -/
def strayPattern : Pattern Label :=
  (one (!isBlank ·)).labelled .stray

def definitionPattern : Pattern Label :=
  commentPattern.either (entryPattern.either strayPattern)

/-! ## What the parts take -/

theorem spells_sign (c : Char) : (sign c : Pattern Label).Spells (· = [c]) := by
  refine (spells_one _).congr fun taken => ?_
  simp

/-- A group and more groups with underscores before them are groups with underscores between them. -/
theorem intercalate_groups (group : List Char) (groups : List (List Char)) :
    List.intercalate ['_'] (group :: groups) = group ++ (groups.map ('_' :: ·)).flatten := by
  induction groups generalizing group with
  | nil => simp
  | cons next groups ih => simp [List.intercalate_cons_cons, ih]

/-- The groups without the underscores before them. -/
theorem groups_of_parts {isGroup : List Char → Prop} {parts : List (List Char)}
    (allParts : ∀ part ∈ parts, ∃ mark group, mark = ['_'] ∧ isGroup group ∧ part = mark ++ group) :
    ∃ groups : List (List Char), parts = groups.map ('_' :: ·) ∧ ∀ group ∈ groups, isGroup group := by
  induction parts with
  | nil => exact ⟨[], rfl, by simp⟩
  | cons part parts ih =>
    obtain ⟨⟨_, group, rfl, here, rfl⟩, others⟩ := List.forall_mem_cons.mp allParts
    obtain ⟨groups, rfl, allGroups⟩ := ih others
    exact ⟨group :: groups, rfl, List.forall_mem_cons.mpr ⟨here, allGroups⟩⟩

theorem spells_code : codePattern.Spells IsCode := by
  have spellsGroup : groupPattern.Spells _ := spells_oneOrMore_one isDecimalDigit
  have spellsFurther := (spells_sign '_').seq spellsGroup
  have notEmpty : ¬ ∃ front behind : List Char, front = ['_'] ∧
      (behind ≠ [] ∧ ∀ c ∈ behind, isDecimalDigit c = true) ∧ [] = front ++ behind := by
    rintro ⟨_, behind, rfl, -, same⟩
    cases same
  refine (spellsGroup.seq (spellsFurther.repeated notEmpty true)).congr fun taken => ?_
  constructor
  · rintro ⟨group, _, isGroup, ⟨parts, allParts, rfl⟩, rfl⟩
    obtain ⟨groups, rfl, allGroups⟩ := groups_of_parts allParts
    exact ⟨group :: groups, List.cons_ne_nil _ _, List.forall_mem_cons.mpr ⟨isGroup, allGroups⟩,
      (intercalate_groups group groups).symm⟩
  · rintro ⟨groups, groupsNotEmpty, allGroups, rfl⟩
    obtain ⟨group, groups, rfl⟩ := List.exists_cons_of_ne_nil groupsNotEmpty
    obtain ⟨isGroup, others⟩ := List.forall_mem_cons.mp allGroups
    refine ⟨group, _, isGroup, ⟨groups.map ('_' :: ·), ?_, rfl⟩, intercalate_groups group groups⟩
    intro part member
    obtain ⟨other, inGroups, rfl⟩ := List.mem_map.mp member
    exact ⟨['_'], other, rfl, others other inGroups, rfl⟩

theorem spells_name : namePattern.Spells IsName := by
  refine ((spells_one isNameStart).seq (spells_repeated_one isNamePart true)).congr fun taken => ?_
  constructor
  · rintro ⟨_, rest, ⟨first, start, rfl⟩, all, rfl⟩
    exact ⟨first, rest, rfl, start, all⟩
  · rintro ⟨first, rest, rfl, start, all⟩
    exact ⟨[first], rest, ⟨first, start, rfl⟩, all, rfl⟩

/-- An item of a message is an escape or a plain character. -/
theorem spells_item :
    itemPattern.Spells fun taken => IsEscape taken ∨ ∃ c, isPlain c = true ∧ taken = [c] := by
  have short : shortEscapePattern.Spells _ := (spells_sign '\\').seq (spells_one isShortEscape)
  have long (letter : Char) (count : Nat) : (longEscapePattern letter count).Spells _ :=
    (spells_sign '\\').seq ((spells_sign letter).seq (spells_times_one isHexDigit count))
  refine (short.either ((long 'u' 4).either ((long 'U' 8).either (spells_one isPlain)))).congr
    fun taken => ?_
  constructor
  · rintro (⟨_, _, rfl, ⟨c, known, rfl⟩, rfl⟩ | ⟨_, _, rfl, ⟨_, digits, rfl, ⟨count, all⟩, rfl⟩, rfl⟩ |
      ⟨_, _, rfl, ⟨_, digits, rfl, ⟨count, all⟩, rfl⟩, rfl⟩ | plain)
    · exact .inl (.short c known)
    · exact .inl (.four digits count all)
    · exact .inl (.eight digits count all)
    · exact .inr plain
  · rintro (escape | plain)
    · cases escape with
      | short c known => exact .inl ⟨_, _, rfl, ⟨c, known, rfl⟩, rfl⟩
      | four digits count all => exact .inr (.inl ⟨_, _, rfl, ⟨_, digits, rfl, ⟨count, all⟩, rfl⟩, rfl⟩)
      | eight digits count all =>
        exact .inr (.inr (.inl ⟨_, _, rfl, ⟨_, digits, rfl, ⟨count, all⟩, rfl⟩, rfl⟩))
    · exact .inr (.inr (.inr plain))

theorem spells_message : itemPattern.many.Spells IsMessage := by
  have notEmpty : ¬ (IsEscape [] ∨ ∃ c, isPlain c = true ∧ ([] : List Char) = [c]) := by
    rintro (escape | ⟨c, -, same⟩)
    · cases escape
    · cases same
  refine (spells_item.repeated notEmpty true).congr fun taken => ?_
  constructor
  · rintro ⟨parts, allParts, rfl⟩
    induction parts with
    | nil => exact .empty
    | cons part parts ih =>
      obtain ⟨isItem, others⟩ := List.forall_mem_cons.mp allParts
      rcases isItem with escape | ⟨c, plain, rfl⟩
      · exact .escaped part _ escape (ih others)
      · simp only [isPlain, Bool.and_eq_true, decide_eq_true_eq] at plain
        exact .plain c _ plain.1 plain.2 (ih others)
  · intro isMessage
    induction isMessage with
    | empty => exact ⟨[], by simp, rfl⟩
    | plain c body notBackslash notQuote tail ih =>
      obtain ⟨parts, allParts, rfl⟩ := ih
      have plain : isPlain c = true := by simp [isPlain, notBackslash, notQuote]
      exact ⟨[c] :: parts, List.forall_mem_cons.mpr ⟨.inr ⟨c, plain, rfl⟩, allParts⟩, rfl⟩
    | escaped escape body isEscape tail ih =>
      obtain ⟨parts, allParts, rfl⟩ := ih
      exact ⟨escape :: parts, List.forall_mem_cons.mpr ⟨.inl isEscape, allParts⟩, rfl⟩

/-- The ways of the pattern of entries are the entries that stand at the start of a text. -/
theorem mem_ways_entry {text : List Char} {way : Way Label} :
    way ∈ entryPattern.ways text ↔
      ∃ entry : Entry, text = entry.text ++ way.rest ∧
        way.kept = [(.code, entry.code), (.name, entry.name)] := by
  have blanks := spells_repeated_one (γ := Label) isBlank true
  constructor
  · intro inEntry
    obtain ⟨code, _, isCode, rfl, _, inGap, rfl⟩ := (spells_code.mem_labelled_seq _).mp inEntry
    obtain ⟨afterCode, _, ⟨gap, blankAfterCode⟩, rfl, inName⟩ :=
      (spells_oneOrMore_one isBlank).mem_seq.mp inGap
    obtain ⟨name, _, isName, rfl, _, inBlanks, rfl⟩ := (spells_name.mem_labelled_seq _).mp inName
    obtain ⟨afterName, _, blankAfterName, rfl, inEquals⟩ := blanks.mem_seq.mp inBlanks
    obtain ⟨_, _, rfl, rfl, behindEquals⟩ := (spells_sign '=').mem_seq.mp inEquals
    obtain ⟨afterEquals, _, blankAfterEquals, rfl, inQuote⟩ := blanks.mem_seq.mp behindEquals
    obtain ⟨_, _, rfl, rfl, inMessage⟩ := (spells_sign '"').mem_seq.mp inQuote
    obtain ⟨message, _, isMessage, rfl, inClose⟩ := spells_message.mem_seq.mp inMessage
    obtain ⟨_, _, rfl, rfl, behindClose⟩ := (spells_sign '"').mem_seq.mp inClose
    obtain ⟨afterMessage, _, blankAfterMessage, rfl, inEnd⟩ := blanks.mem_seq.mp behindClose
    obtain ⟨keptNothing, _, rfl, same⟩ := (spells_sign ';' _ _).mp inEnd
    subst same
    refine ⟨⟨code, afterCode, name, afterName, afterEquals, message, afterMessage, isCode, isName,
      isMessage, gap, blankAfterCode, blankAfterName, blankAfterEquals, blankAfterMessage⟩, ?_, ?_⟩
    · simp [Entry.text_append]
    · simp [keptNothing]
  · rintro ⟨entry, rfl, kept⟩
    rw [Entry.text_append]
    have inEnd : (⟨[], way.rest⟩ : Way Label) ∈ (sign ';').ways (';' :: way.rest) :=
      (spells_sign ';' _ _).mpr ⟨rfl, _, rfl, rfl⟩
    have inClose := (spells_sign '"').mem_seq.mpr ⟨_, _, rfl, rfl,
      blanks.mem_seq.mpr ⟨entry.afterMessage, _, entry.blankAfterMessage, rfl, inEnd⟩⟩
    have inQuote := (spells_sign '"').mem_seq.mpr ⟨_, _, rfl, rfl,
      spells_message.mem_seq.mpr ⟨entry.message, _, entry.isMessage, rfl, inClose⟩⟩
    have inEquals := (spells_sign '=').mem_seq.mpr ⟨_, _, rfl, rfl,
      blanks.mem_seq.mpr ⟨entry.afterEquals, _, entry.blankAfterEquals, rfl, inQuote⟩⟩
    have inName := (spells_name.mem_labelled_seq Label.name).mpr ⟨entry.name, _, entry.isName, rfl, _,
      blanks.mem_seq.mpr ⟨entry.afterName, _, entry.blankAfterName, rfl, inEquals⟩, rfl⟩
    have inGap := (spells_oneOrMore_one isBlank).mem_seq.mpr
      ⟨entry.afterCode, _, ⟨entry.gap, entry.blankAfterCode⟩, rfl, inName⟩
    exact (spells_code.mem_labelled_seq _).mpr
      ⟨entry.code, _, entry.isCode, rfl, _, inGap, Way.ext kept rfl⟩

end Codebook.Grammar
