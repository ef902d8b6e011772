import Codebook.Proofs.Definition.Unambiguous

/-!
# The longest match

What may stand at a place of a definition text are comments, entries and stray characters. The longest of
them counts. That is what a search for the pattern finds there, although it knows nothing of lengths and
takes the first alternative that is there: no two alternatives are, other than the stray character, and
each of them takes as much as it can.

So the order of the alternatives does not matter, as long as the stray character is the last one.
-/

namespace Codebook.Grammar

open Text Pattern

/-- What may stand at a place: a comment to the end of its line or up to the first `*/`, an entry, or a
character that is no blank. -/
inductive Token where
  | comment (piece : Piece) (isComment : piece.IsComment)
  | entry (held : Entry)
  | stray (c : Char) (notBlank : isBlank c = false)

def Token.text : Token → List Char
  | .comment piece _ => piece.text
  | .entry held => held.text
  | .stray c _ => [c]

/-- What is kept of a token. -/
def Token.kept : Token → List (Label × List Char)
  | .comment piece _ => [(.comment, piece.text)]
  | .entry held => [(.code, held.code), (.name, held.name)]
  | .stray c _ => [(.stray, [c])]

/-- A token stands at the start of a text, and no longer one does. -/
structure Token.Longest (token : Token) (here : List Char) : Prop where
  starts : token.text <+: here
  longest : ∀ other : Token, other.text <+: here → other.text.length ≤ token.text.length

variable {here rest : List Char} {way : Way Label}

/-! ## What a search finds -/

theorem definition_first? (here : List Char) :
    definitionPattern.first? here =
      ((comment? here).map fun rest =>
        ⟨[(.comment, here.take (here.length - rest.length))], rest⟩).or
      ((entryPattern.first? here).or (strayPattern.first? here)) := by
  rw [definitionPattern, first?_either, first?_either, commentPattern, first?_labelled,
    comment_first?, Option.map_map]
  rfl

theorem first?_of_comment {piece : Piece} (isComment : piece.IsComment) (fits : piece.Fits rest) :
    definitionPattern.first? (piece.text ++ rest) = some ⟨[(.comment, piece.text)], rest⟩ := by
  have found : comment? (piece.text ++ rest) = some rest :=
    comment?_eq_some_iff.mpr ⟨piece, isComment, rfl, fits⟩
  rw [definition_first?, found]
  simp

theorem first?_of_entry (entry : Entry) (rest : List Char) :
    definitionPattern.first? (entry.text ++ rest) =
      some ⟨[(.code, entry.code), (.name, entry.name)], rest⟩ := by
  have found : entryPattern.first? (entry.text ++ rest) =
      some ⟨[(.code, entry.code), (.name, entry.name)], rest⟩ :=
    entry_first?_eq_some_iff.mpr ⟨entry, rfl, rfl⟩
  rw [definition_first?, entry.no_comment, found]
  rfl

theorem entry_first?_eq_none (noEntry : ∀ entry : Entry, ¬ entry.text <+: here) :
    entryPattern.first? here = none := by
  refine first?_eq_none_iff.mpr fun way member => ?_
  obtain ⟨entry, same, -⟩ := mem_ways_entry.mp member
  exact noEntry entry ⟨way.rest, same.symm⟩

/-- A stray character is found where nothing else is. -/
theorem first?_of_neither (noComment : comment? here = none)
    (noEntry : ∀ entry : Entry, ¬ entry.text <+: here) :
    definitionPattern.first? here = some way ↔
      ∃ c, isBlank c = false ∧ here = c :: way.rest ∧ way.kept = [(.stray, [c])] := by
  have sure : strayPattern.Sure fun _ => True := (sure_one _).labelled Label.stray
  rw [definition_first?, noComment, entry_first?_eq_none noEntry, Option.map_none, Option.none_or,
    Option.none_or, sure.first?_eq_some_iff, strayPattern, (spells_one _).mem_labelled]
  constructor
  · rintro ⟨_, ⟨c, notBlank, rfl⟩, same, kept⟩
    exact ⟨c, Bool.not_eq_true' _ |>.mp notBlank, same, kept⟩
  · rintro ⟨c, notBlank, same, kept⟩
    exact ⟨[c], ⟨c, Bool.not_eq_true' _ |>.mpr notBlank, rfl⟩, same, kept⟩

/-! ## What is longest -/

theorem Piece.two_le_length {piece : Piece} (isComment : piece.IsComment) :
    2 ≤ piece.text.length := by
  cases piece with
  | blank | entry => exact isComment.elim
  | lineComment | blockComment => simp [Piece.text]

theorem Entry.two_le_length (entry : Entry) : 2 ≤ entry.text.length := by
  simp only [Entry.text, List.length_append, List.length_cons]
  omega

/-- No comment at the start of a text goes on behind the one that is read there. -/
theorem comment_length_le (found : comment? here = some rest) {piece : Piece}
    (isComment : piece.IsComment) (starts : piece.text <+: here) :
    piece.text.length + rest.length ≤ here.length := by
  obtain ⟨behind, rfl⟩ := starts
  have shorter : rest.length ≤ behind.length := by
    cases piece with
    | blank | entry => exact isComment.elim
    | lineComment body oneLine =>
      have all : ∀ c ∈ body, decide (c ≠ '\n') = true := fun c member =>
        decide_eq_true fun same => oneLine (same ▸ member)
      have left : rest = behind.dropWhile (· ≠ '\n') := by
        rw [← List.dropWhile_append_of_pos all]
        exact (Option.some.inj found).symm
      exact left ▸ length_dropWhile_le _ behind
    | blockComment body notClosed =>
      have ends : comment? ((Piece.blockComment body notClosed).text ++ behind) = some behind :=
        comment?_eq_some_iff.mpr ⟨.blockComment body notClosed, trivial, rfl, trivial⟩
      exact (congrArg List.length (Option.some.inj (found.symm.trans ends))).le
  rw [List.length_append]
  omega

theorem longest_comment {piece : Piece} (isComment : piece.IsComment) (fits : piece.Fits rest) :
    (Token.comment piece isComment).Longest (piece.text ++ rest) := by
  have found : comment? (piece.text ++ rest) = some rest :=
    comment?_eq_some_iff.mpr ⟨piece, isComment, rfl, fits⟩
  refine ⟨List.prefix_append _ _, ?_⟩
  rintro (⟨other, alsoComment⟩ | other | ⟨c, notBlank⟩) starts
  · have notLonger := comment_length_le found alsoComment starts
    rw [List.length_append] at notLonger
    exact Nat.le_of_add_le_add_right notLonger
  · obtain ⟨behind, same⟩ := starts
    have noComment : comment? (piece.text ++ rest) = none := same ▸ other.no_comment behind
    rw [found] at noComment
    cases noComment
  · exact le_of_lt (Piece.two_le_length isComment)

theorem longest_entry (entry : Entry) (rest : List Char) :
    (Token.entry entry).Longest (entry.text ++ rest) := by
  refine ⟨List.prefix_append _ _, ?_⟩
  rintro (⟨piece, isComment⟩ | other | ⟨c, notBlank⟩) starts
  · exact absurd starts <| no_comment_prefix (entry.no_comment rest) piece isComment
  · obtain ⟨behind, same⟩ := starts
    obtain ⟨-, -, rfl⟩ := Entry.unique same
    exact (congrArg List.length (List.append_cancel_right same)).le
  · exact le_of_lt entry.two_le_length

theorem longest_stray {c : Char} (notBlank : isBlank c = false) (noComment : comment? (c :: rest) = none)
    (noEntry : ∀ entry : Entry, ¬ entry.text <+: c :: rest) :
    (Token.stray c notBlank).Longest (c :: rest) := by
  refine ⟨⟨rest, rfl⟩, ?_⟩
  rintro (⟨piece, isComment⟩ | other | _) starts
  · exact absurd starts <| no_comment_prefix noComment piece isComment
  · exact absurd starts (noEntry other)
  · exact le_rfl

/-- What is found first is a token, and no longer one stands there. -/
theorem longest_of_first? (found : definitionPattern.first? here = some way) :
    ∃ token : Token, token.Longest here ∧ here = token.text ++ way.rest ∧ way.kept = token.kept := by
  cases comment : comment? here with
  | some rest =>
    obtain ⟨piece, isComment, rfl, fits⟩ := comment?_eq_some_iff.mp comment
    obtain rfl := Option.some.inj (found.symm.trans (first?_of_comment isComment fits))
    exact ⟨.comment piece isComment, longest_comment isComment fits, rfl, rfl⟩
  | none =>
    by_cases hasEntry : ∃ entry : Entry, entry.text <+: here
    · obtain ⟨entry, rest, rfl⟩ := hasEntry
      obtain rfl := Option.some.inj (found.symm.trans (first?_of_entry entry rest))
      exact ⟨.entry entry, longest_entry entry rest, rfl, rfl⟩
    · have noEntry := not_exists.mp hasEntry
      obtain ⟨c, notBlank, rfl, kept⟩ := (first?_of_neither comment noEntry).mp found
      exact ⟨.stray c notBlank, longest_stray notBlank comment noEntry, rfl, kept⟩

/-- The longest token is what is found first. A comment that is longest ends where the reader of comments
ends it, and nothing else is there beside a stray character, since all else is longer. -/
theorem first?_of_longest {token : Token} (longest : token.Longest here)
    (cut : here = token.text ++ rest) : definitionPattern.first? here = some ⟨token.kept, rest⟩ := by
  cases token with
  | comment piece isComment =>
    obtain ⟨left, comment⟩ := Option.ne_none_iff_exists'.mp fun none =>
      no_comment_prefix none piece isComment longest.starts
    have notLonger := comment_length_le comment isComment longest.starts
    obtain ⟨read, readIsComment, rfl, fits⟩ := comment?_eq_some_iff.mp comment
    have notShorter := longest.longest (.comment read readIsComment) (List.prefix_append _ _)
    have sameLength : read.text.length = piece.text.length := by
      rw [List.length_append] at notLonger
      exact Nat.le_antisymm notShorter (Nat.le_of_add_le_add_right notLonger)
    obtain ⟨same, rfl⟩ := List.append_inj cut sameLength
    rw [first?_of_comment readIsComment fits, same]
    rfl
  | entry held =>
    rw [cut]
    exact first?_of_entry held rest
  | stray c notBlank =>
    have noComment : comment? here = none := by
      refine Option.eq_none_iff_forall_ne_some.mpr fun left comment => ?_
      obtain ⟨read, isComment, rfl, -⟩ := comment?_eq_some_iff.mp comment
      have short := longest.longest (.comment read isComment) (List.prefix_append _ _)
      exact absurd (Piece.two_le_length isComment) (Nat.not_le_of_lt (Nat.lt_succ_of_le short))
    have noEntry : ∀ entry : Entry, ¬ entry.text <+: here := by
      intro entry starts
      have short := longest.longest (.entry entry) starts
      exact absurd entry.two_le_length (Nat.not_le_of_lt (Nat.lt_succ_of_le short))
    exact (first?_of_neither noComment noEntry).mpr ⟨c, notBlank, cut, rfl⟩

/-- The reader of entries finds one exactly where the search does, with the same end, code and name. -/
theorem entryAt?_eq_some_iff_first? {definition : Definition} :
    entryAt? here = some (definition, rest) ↔
      definitionPattern.first? here =
        some ⟨[(.code, definition.code.toList), (.name, definition.name.toList)], rest⟩ := by
  rw [entryAt?_eq_some_iff]
  constructor
  · rintro ⟨entry, rfl, rfl⟩
    rw [first?_of_entry]
    simp [Entry.definition]
  · intro found
    obtain ⟨token, -, cut, kept⟩ := longest_of_first? found
    cases token with
    | comment | stray => simp [Token.kept] at kept
    | entry held =>
      refine ⟨held, ?_, cut⟩
      simp only [Token.kept, List.cons.injEq, Prod.mk.injEq, true_and, and_true] at kept
      obtain ⟨sameCode, sameName⟩ := kept
      simp [Entry.definition, ← sameCode, ← sameName]

/-! ## A whole scan -/

/-- The definitions that are kept of a search, up to the first stray character. -/
def definitionsFound : List (Way Label) → Except (List Char) (List Definition)
  | [] => .ok []
  | ⟨[(.stray, taken)], rest⟩ :: _ => .error (taken ++ rest)
  | ⟨[(.code, code), (.name, name)], _⟩ :: ways =>
    (definitionsFound ways).map (⟨String.ofList code, String.ofList name⟩ :: ·)
  | _ :: ways => definitionsFound ways

/-- A scan is a search for all that the pattern finds. The induction follows the scan. -/
theorem scanFrom_eq_definitionsFound (text : List Char) :
    scanFrom text = definitionsFound (definitionPattern.findAll text) := by
  fun_induction scanFrom text with
  | case1 => simp [findAll, definitionsFound]
  | case2 c rest after comment ih =>
    obtain ⟨piece, isComment, same, fits⟩ := comment?_eq_some_iff.mp comment
    have found := first?_of_comment isComment fits
    rw [← same] at found
    rw [findAll_of_first? found (comment?_length comment), ih]
    rfl
  | case3 c rest noComment definition after entry ih =>
    have found := entryAt?_eq_some_iff_first?.mp entry
    rw [findAll_of_first? found (entryAt?_length entry), ih]
    simp [definitionsFound]
  | case4 c rest noComment noEntry blank ih =>
    have nothing : definitionPattern.first? (c :: rest) = none := by
      refine Option.eq_none_iff_forall_ne_some.mpr fun way found => ?_
      obtain ⟨d, notBlank, same, -⟩ :=
        (first?_of_neither noComment (no_entry_prefix_iff.mp noEntry)).mp found
      obtain ⟨rfl, -⟩ := List.cons.inj same
      rw [blank] at notBlank
      cases notBlank
    rw [findAll_of_none nothing, ih]
  | case5 c rest noComment noEntry notBlank =>
    have found : definitionPattern.first? (c :: rest) = some ⟨[(.stray, [c])], rest⟩ :=
      (first?_of_neither noComment (no_entry_prefix_iff.mp noEntry)).mpr
        ⟨c, Bool.not_eq_true _ |>.mp notBlank, rfl, rfl⟩
    rw [findAll_of_first? found (Nat.lt_succ_self _)]
    rfl

/-! ## The order of the alternatives -/

/-- All alternatives but the stray character. -/
def alternatives : List (Pattern Label) :=
  [linePattern.labelled .comment, blockPattern.labelled .comment, entryPattern]

theorem alternatives_apart : alternatives.Pairwise Apart := by
  have lineBlock := (line_apart_block.labelled Label.comment).labelled_right Label.comment
  simp only [alternatives, List.pairwise_cons, List.forall_mem_cons]
  exact ⟨⟨lineBlock, line_apart_entry.labelled _, by simp⟩, ⟨block_apart_entry.labelled _, by simp⟩,
    by simp⟩

theorem first?_alternatives_eq (here : List Char) :
    (alternatives.foldr Pattern.either strayPattern).first? here = definitionPattern.first? here := by
  simp only [alternatives, List.foldr, definitionPattern, commentPattern, first?_either,
    first?_labelled, Option.map_or, Option.or_assoc]

/-- The grammar leaves no choice. At each place of a text one of the two kinds of comments and of entries is
there at most, and an entry has one end, one code and one name. So a search that prefers the first
alternative, and each part of it as the pattern says, finds the longest of all that may stand there. The
order of the alternatives does not matter, and the reader that goes through the text once and never goes
back finds the same entries. -/
theorem one_pass_finds_longest_match (text : String) (position : Nat) :
    let here := text.toList.drop position
    ([linePattern, blockPattern, entryPattern].Pairwise fun pattern other =>
      pattern.ways here = [] ∨ other.ways here = []) ∧
    (∀ way ∈ entryPattern.ways here, ∀ other ∈ entryPattern.ways here, way = other) ∧
    (∀ entry other : Entry, other.text <+: entry.text → other.text = entry.text) ∧
    (∀ way, definitionPattern.first? here = some way ↔
      ∃ token : Token, token.Longest here ∧ here = token.text ++ way.rest ∧ way.kept = token.kept) ∧
    (∀ order : List (Pattern Label), order.Perm alternatives →
      (order.foldr Pattern.either strayPattern).first? here = definitionPattern.first? here) ∧
    entryPattern.once? here = entryPattern.first? here ∧
    (∀ definition rest, entryAt? here = some (definition, rest) ↔
      definitionPattern.first? here =
        some ⟨[(.code, definition.code.toList), (.name, definition.name.toList)], rest⟩) := by
  intro here
  refine ⟨?_, fun way member other again => sure_entry.unique member again, ?_, fun way => ?_,
    fun order perm => ?_, sure_entry.once?_eq_first? here, fun definition rest => ?_⟩
  · simp [line_apart_block here, line_apart_entry here, block_apart_entry here]
  · rintro entry other ⟨behind, same⟩
    obtain ⟨-, -, rfl⟩ := Entry.unique (same.trans (List.append_nil _).symm)
    rw [← same, List.append_nil]
  · constructor
    · exact longest_of_first?
    · rintro ⟨token, longest, cut, kept⟩
      rw [first?_of_longest longest cut, ← kept]
  · rw [first?_of_perm alternatives_apart perm, first?_alternatives_eq]
  · exact entryAt?_eq_some_iff_first?

end Codebook.Grammar
