import Codebook.Proofs.Yaml.Steps

/-!
# Mappings with an entry on every line

A mapping can be written with one line for each entry: a key, a colon, one blank and a value. A line
takes three steps, and every line starts in the same state, whatever the value of the line before was
written like: behind quotes the line end is still to be skipped, and behind a word it is already.

A key is found at its colon, which must not be more than 1024 bytes away. If a key is longer, the text
is not cut to its end.
-/

namespace Codebook.Yaml

/-! ## Entries -/

/-- An entry of a mapping: its key and its value, and how they are written. A key must not look like the
end of a document. -/
structure Entry where
  key : Scalar
  value : Scalar
  keyText : List Char
  valueText : List Char
  keyWritten : key.Written keyText
  valueWritten : value.Written valueText
  notMark : keyText.head? ≠ some '.'

/-- The line of an entry without its end. -/
def Entry.line (entry : Entry) : List Char :=
  entry.keyText ++ ':' :: ' ' :: entry.valueText

/-- The lines of some entries. The last one may do without a line end. -/
def linesText (closed : Bool) : List Entry → List Char
  | [] => []
  | [entry] => entry.line ++ if closed then ['\n'] else []
  | entry :: entries => entry.line ++ '\n' :: linesText closed entries

/-- An entry with a key that is found at its colon. -/
def Entry.Found (entry : Entry) : Prop :=
  byteCount entry.keyText ≤ 1024

/-- The tokens of an entry. -/
def Entry.tokens (entry : Entry) : List Token :=
  [.key, .scalar entry.key.text entry.key.style, .value, .scalar entry.value.text entry.value.style]

/-- The first character of a line. -/
theorem Entry.starts (entry : Entry) : ∃ c rest, entry.line = c :: rest ∧ StartsToken c := by
  obtain ⟨c, rest, same, token⟩ := entry.keyWritten.starts
  exact ⟨c, rest ++ ':' :: ' ' :: entry.valueText, by simp [Entry.line, same], token⟩

theorem linesText_cons (closed : Bool) (entry : Entry) (entries : List Entry) :
    ∃ rest, linesText closed (entry :: entries) = entry.line ++ rest := by
  cases entries with
  | nil => exact ⟨_, rfl⟩
  | cons next entries => exact ⟨_, rfl⟩

theorem linesText_starts (closed : Bool) (entries : List Entry) :
    ∀ c, (linesText closed entries).head? = some c → StartsToken c := by
  cases entries with
  | nil => simp [linesText]
  | cons entry entries =>
    intro first head
    obtain ⟨rest, text⟩ := linesText_cons closed entry entries
    obtain ⟨c, others, starts, token⟩ := entry.starts
    rw [text, starts, List.cons_append, List.head?_cons, Option.some.injEq] at head
    exact head ▸ token

/-! ## The start of a line -/

/-- A state in which a line is about to start, or the text to end. -/
structure Cutting.StartsLine (cutting : Cutting) (tokens : List Placed) (columns : List Nat)
    (text : List Char) : Prop where
  running : cutting.ended = false
  held : cutting.tokens = tokens
  arrives : ∀ bound, 1 ≤ bound → ∃ cursor allowed, cursor.rest = text ∧
    cutting.arrived bound = some (state cursor tokens columns [none] allowed) ∧
      (text ≠ [] → cursor.mark.column = 0 ∧ allowed = true)

section StartsLine

variable {cursor : Cursor} {tokens : List Placed} {columns : List Nat} {allowed : Bool}

/-- In a block at the left margin a state without a possible key arrives where it gets to. -/
theorem arrived_state {cutting : Cutting} (bound : Nat)
    (outermost : ∀ column ∈ columns.head?, column = 0)
    (reached : cutting.toNextToken (bound + 1) = state cursor tokens columns [none] allowed) :
    cutting.arrived bound = some (state cursor tokens columns [none] allowed) := by
  refine arrived_of reached (by simp [state]) fun column member => ?_
  rw [outermost column member]
  exact Nat.zero_le _

/-- A state that stands at a line, or at the end of the text, does not move. -/
theorem toNextToken_here (starts : ∀ c, cursor.rest.head? = some c → StartsToken c) (fuel : Nat) :
    (state cursor tokens columns [none] allowed).toNextToken (fuel + 1) =
      state cursor tokens columns [none] allowed := by
  cases here : cursor.rest with
  | nil => exact toNextToken_end (state cursor tokens columns [none] allowed) here fuel
  | cons c rest =>
    exact toNextToken_token (state cursor tokens columns [none] allowed) here
      (starts c (by rw [here]; rfl)) fuel

/-- A line starts at its first character. -/
theorem startsLine_here {text : List Char} (outermost : ∀ column ∈ columns.head?, column = 0)
    (here : cursor.rest = text) (starts : ∀ c, text.head? = some c → StartsToken c)
    (margin : text ≠ [] → cursor.mark.column = 0 ∧ allowed = true) :
    (state cursor tokens columns [none] allowed).StartsLine tokens columns text where
  running := rfl
  held := rfl
  arrives bound _ :=
    ⟨cursor, allowed, here,
      arrived_state bound outermost (toNextToken_here (here ▸ starts) bound), margin⟩

/-- A line may also start behind a line end that is still to be skipped. -/
theorem startsLine_lineEnd {rest : List Char} (outermost : ∀ column ∈ columns.head?, column = 0)
    (here : cursor.rest = '\n' :: rest) (starts : ∀ c, rest.head? = some c → StartsToken c) :
    (state cursor tokens columns [none] allowed).StartsLine tokens columns rest where
  running := rfl
  held := rfl
  arrives bound some := by
    have behind : cursor.skipBreak.rest = rest := by simp [Cursor.skipBreak, here]
    obtain ⟨fuel, rfl⟩ := Nat.exists_eq_add_of_le' some
    refine ⟨cursor.skipBreak, true, behind, arrived_state _ outermost ?_, fun _ => ⟨rfl, rfl⟩⟩
    rw [toNextToken_lineEnd (state cursor tokens columns [none] allowed) here rfl]
    exact toNextToken_here (behind ▸ starts) fuel

end StartsLine

/-! ## One line -/

section Steps

variable {cutting : Cutting} {cursor : Cursor} {tokens : List Placed} {columns : List Nat}
  {bound fuel : Nat} {rest : List Char}

/-- The colon makes a key of the scalar before it, and opens a block if none is open. -/
theorem value_key {placed : Placed} {mark : Mark} {required : Bool} (margin : mark.column = 0)
    (outermost : columns = [] ∨ columns = [0]) :
    (state cursor (placed :: tokens) columns [some ⟨tokens.length, mark, required⟩] false).value =
      some (state (cursor.skip 1)
        (⟨.value, cursor.mark, (cursor.skip 1).mark⟩ :: placed :: ⟨.key, mark, mark⟩ ::
          (if columns = [] then ⟨.blockMappingStart, mark, mark⟩ :: tokens else tokens))
        [0] [none] false) := by
  have second : tokens.length + 1 + 1 - tokens.length = 2 := by omega
  rcases outermost with rfl | rfl
  · simp [Cutting.value, state, Cutting.insert, Cutting.opens, Cutting.inFlow, margin, Cutting.sign,
      Cutting.push, second]
  · simp [Cutting.value, state, Cutting.insert, Cutting.opens, Cutting.inFlow, margin, Cutting.sign,
      Cutting.push]

/-- The first step of a line takes its key. -/
theorem Cutting.StartsLine.step_key (bound : Nat) {key : Scalar} {text : List Char}
    (start : cutting.StartsLine tokens columns (text ++ ':' :: ' ' :: rest))
    (written : key.Written text) (notMark : text.head? ≠ some '.') (enough : text.length ≤ bound) :
    ∃ cursor : Cursor, cursor.rest = text ++ ':' :: ' ' :: rest ∧ cursor.mark.column = 0 ∧
      cutting.step bound = some (state (cursor.skip text.length)
        (⟨.scalar key.text key.style, cursor.mark, (cursor.skip text.length).mark⟩ :: tokens) columns
        [some ⟨tokens.length, cursor.mark, columns.head? = some cursor.mark.column⟩] false) := by
  obtain ⟨c, others, rfl, -⟩ := written.starts
  obtain ⟨cursor, allowed, here, arrived, margin⟩ :=
    start.arrives bound (Nat.le_trans (Nat.le_add_left 1 _) enough)
  obtain ⟨column, rfl⟩ := margin (by simp)
  refine ⟨cursor, here, column, ?_⟩
  rw [step_scalar written arrived here (fun _ => notMark) rfl (.inr rfl) enough, keyToken_key]
  rfl

/-- The second step takes the colon, if the key is near enough. -/
theorem step_behind_key (bound : Nat) (tokens : List Placed) (placed : Placed) {mark : Mark}
    (required : Bool)
    (margin : mark.column = 0) (outermost : columns = [] ∨ columns = [0])
    (here : cursor.rest = ':' :: ' ' :: rest) (near : tooFarBack mark cursor.mark = false) :
    (state cursor (placed :: tokens) columns [some ⟨tokens.length, mark, required⟩] false).step bound =
      some (state (cursor.skip 1)
        (⟨.value, cursor.mark, (cursor.skip 1).mark⟩ :: placed :: ⟨.key, mark, mark⟩ ::
          (if columns = [] then ⟨.blockMappingStart, mark, mark⟩ :: tokens else tokens))
        [0] [none] false) := by
  have arrived : (state cursor (placed :: tokens) columns [some ⟨tokens.length, mark, required⟩]
      false).arrived bound = some (state cursor (placed :: tokens) columns
        [some ⟨tokens.length, mark, required⟩] false) := by
    refine arrived_of (toNextToken_token _ here (by decide) bound) ?_ ?_
    · intro key member
      obtain rfl : key = ⟨tokens.length, mark, required⟩ := by simpa [state] using member
      exact near
    · rcases outermost with rfl | rfl <;> simp [state]
  rw [step_colon arrived here (.inr rfl), value_key margin outermost]

/-- The value of a line stands behind a blank. -/
theorem arrived_value (tokens : List Placed) (bound : Nat) {value : Scalar}
    {text tail : List Char} (written : value.Written text)
    (here : cursor.rest = ' ' :: (text ++ tail)) :
    (state cursor tokens [0] [none] false).arrived bound =
      some (state (cursor.skip 1) tokens [0] [none] false) := by
  obtain ⟨c, others, rfl, token⟩ := written.starts
  exact arrived_state bound (by simp)
    (toNextToken_blank (state cursor tokens [0] [none] false) here token bound)

/-- The third step takes the value, here at the end of the text. -/
theorem step_value_end {value : Scalar} {text : List Char} (written : value.Written text)
    (here : cursor.rest = ' ' :: text) (enough : text.length ≤ bound) :
    ∃ next stop, (state cursor tokens [0] [none] false).step bound = some next ∧
      next.keys = [none] ∧ next.StartsLine
        (⟨.scalar value.text value.style, (cursor.skip 1).mark, stop⟩ :: tokens) [0] [] := by
  rw [← List.append_nil text] at here
  have arrived := arrived_value tokens bound written here
  have behind : (cursor.skip 1).rest = text ++ [] := Cursor.rest_skip_one here
  have ended : ((cursor.skip 1).skip text.length).rest = [] := Cursor.rest_skip behind
  have column : (cursor.skip 1).mark.column ≠ 0 := Nat.succ_ne_zero _
  have step := step_scalar written arrived behind (absurd · column) rfl (.inl rfl) enough
  rw [keyToken_noKey] at step
  exact ⟨_, _, step, rfl, startsLine_here (by simp) ended (by simp) (by simp)⟩

/-- The third step takes the value, here before a line end. -/
theorem step_value_line {value : Scalar} {text more : List Char} (written : value.Written text)
    (here : cursor.rest = ' ' :: (text ++ '\n' :: more))
    (starts : ∀ c, more.head? = some c → StartsToken c) (enough : text.length ≤ bound) :
    ∃ next stop, (state cursor tokens [0] [none] false).step bound = some next ∧
      next.keys = [none] ∧ next.StartsLine
        (⟨.scalar value.text value.style, (cursor.skip 1).mark, stop⟩ :: tokens) [0] more := by
  have arrived := arrived_value tokens bound written here
  have behind : (cursor.skip 1).rest = text ++ '\n' :: more := Cursor.rest_skip_one here
  have ended : ((cursor.skip 1).skip text.length).rest = '\n' :: more := Cursor.rest_skip behind
  cases written with
  | @plain word isWord =>
    have column : (cursor.skip 1).mark.column ≠ 0 := Nat.succ_ne_zero _
    have outside := Cursor.not_atDocumentMark column
    obtain ⟨c, others, rfl, part⟩ := isWord.starts
    obtain ⟨fuel, rfl⟩ := Nat.exists_eq_add_of_le' (Nat.le_trans (Nat.le_add_left 1 _) enough)
    have read := readPlain_line fuel isWord outside behind
      (fun c first => ⟨(starts c first).1, (starts c first).2.1⟩) Nat.zero_lt_one
    have plain : (state (cursor.skip 1) tokens [0] [none] false).plain (fuel + 1) =
        some (state ((cursor.skip 1).skip (c :: others).length).skipBreak
          (⟨.scalar (String.ofList (c :: others)) .plain, (cursor.skip 1).mark,
            ((cursor.skip 1).skip (c :: others).length).skipBreak.mark⟩ :: tokens) [0] [none] true) := by
      change (readPlain false 1 (fuel + 1) (cursor.skip 1)).bind _ = _
      rw [read]
      rfl
    have step := (step_word arrived behind part outside).trans plain
    have next : ((cursor.skip 1).skip (c :: others).length).skipBreak.rest = more := by
      simp only [Cursor.skipBreak, ended]
      rfl
    exact ⟨_, _, step, rfl, startsLine_here (by simp) next starts fun _ => ⟨rfl, rfl⟩⟩
  | @quoted value inner spelled =>
    rw [List.length_cons, List.length_append, List.length_singleton] at enough ended
    have step := step_quoted spelled arrived (by simpa [state] using behind) (by omega)
    rw [keyToken_noKey] at step
    exact ⟨_, _, step, rfl, startsLine_lineEnd (by simp) ended starts⟩

/-- What stands behind a line, and what of it remains for the lines to follow. -/
inductive Behind : List Char → List Char → Prop where
  | nothing : Behind [] []
  | lineEnd {rest : List Char} (starts : ∀ c, rest.head? = some c → StartsToken c) :
      Behind ('\n' :: rest) rest

theorem Behind.length_le {tail : List Char} (behind : Behind tail rest) :
    rest.length ≤ tail.length := by
  cases behind <;> simp

/-- The third step takes the value, and the next line is about to start. -/
theorem step_value (tokens : List Placed) (bound : Nat) {value : Scalar}
    {text tail : List Char} (written : value.Written text)
    (behind : Behind tail rest) (here : cursor.rest = ' ' :: (text ++ tail))
    (enough : text.length ≤ bound) :
    ∃ next stop, (state cursor tokens [0] [none] false).step bound = some next ∧
      next.keys = [none] ∧ next.StartsLine
        (⟨.scalar value.text value.style, (cursor.skip 1).mark, stop⟩ :: tokens) [0] rest := by
  cases behind with
  | nothing => exact step_value_end written (by simpa using here) enough
  | lineEnd starts => exact step_value_line written here starts enough

/-- A line of which the key is found is cut in three steps. -/
theorem Cutting.StartsLine.run_line (fuel : Nat) {entry : Entry} {tail : List Char}
    (start : cutting.StartsLine tokens columns (entry.line ++ tail)) (found : entry.Found)
    (outermost : columns = [] ∨ columns = [0]) (behind : Behind tail rest)
    (enough : entry.line.length ≤ fuel + 1) :
    ∃ (next : Cutting) (after : List Placed), cutting.run (fuel + 3) = next.run fuel ∧
      next.StartsLine after [0] rest ∧
      after.reverse.map Placed.token = tokens.reverse.map Placed.token ++
        ((if columns = [] then [.blockMappingStart] else []) ++ entry.tokens) := by
  have text : entry.line ++ tail = entry.keyText ++ ':' :: ' ' :: (entry.valueText ++ tail) := by
    simp [Entry.line]
  simp only [Entry.line, List.length_append, List.length_cons] at enough
  rw [text] at start
  obtain ⟨cursor, here, margin, step⟩ :=
    start.step_key (fuel + 3) entry.keyWritten entry.notMark (by omega)
  have near : tooFarBack cursor.mark (cursor.skip entry.keyText.length).mark = false := by
    rw [tooFarBack_skip here]
    exact decide_eq_false (Nat.not_lt.mpr found)
  have colon : (cursor.skip entry.keyText.length).rest = ':' :: ' ' :: (entry.valueText ++ tail) :=
    Cursor.rest_skip here
  have stepColon := step_behind_key (fuel + 2) tokens ⟨.scalar entry.key.text entry.key.style,
    cursor.mark, (cursor.skip entry.keyText.length).mark⟩ (columns.head? = some cursor.mark.column)
    margin outermost colon near
  have blank : ((cursor.skip entry.keyText.length).skip 1).rest = ' ' :: (entry.valueText ++ tail) :=
    Cursor.rest_skip_one colon
  obtain ⟨next, stop, stepValue, keys, starts⟩ := step_value _ (fuel + 1)
    entry.valueWritten behind blank (by omega)
  refine ⟨next, _, ?_, starts, ?_⟩
  · rw [run_step start.running step (dropStale_near (by simpa [state] using near)),
      run_step rfl stepColon (dropStale_near (by simp [state])),
      run_step rfl stepValue (dropStale_near (by simp [keys]))]
  · split <;> simp [Entry.tokens]

/-- A line of which the key is not found is where cutting ends. If a block is open the key has to be
one; else its colon stands alone. -/
theorem Cutting.StartsLine.run_lost (fuel : Nat) {entry : Entry} {tail : List Char}
    (start : cutting.StartsLine tokens columns (entry.line ++ tail)) (lost : ¬ entry.Found)
    (outermost : columns = [] ∨ columns = [0]) (enough : entry.line.length ≤ fuel + 1)
    (noEnd : .streamEnd ∉ tokens.map Placed.token) : (cutting.run (fuel + 2)).Broken := by
  have text : entry.line ++ tail = entry.keyText ++ ':' :: ' ' :: (entry.valueText ++ tail) := by
    simp [Entry.line]
  simp only [Entry.line, List.length_append, List.length_cons] at enough
  rw [text] at start
  obtain ⟨cursor, here, margin, step⟩ :=
    start.step_key (fuel + 2) entry.keyWritten entry.notMark (by omega)
  have far : tooFarBack cursor.mark (cursor.skip entry.keyText.length).mark = true := by
    rw [tooFarBack_skip here]
    exact decide_eq_true (Nat.lt_of_not_le lost)
  have colon : (cursor.skip entry.keyText.length).rest = ':' :: ' ' :: (entry.valueText ++ tail) :=
    Cursor.rest_skip here
  rcases outermost with rfl | rfl
  · have dropped : (state (cursor.skip entry.keyText.length)
        (⟨.scalar entry.key.text entry.key.style, cursor.mark,
          (cursor.skip entry.keyText.length).mark⟩ :: tokens) []
        [some ⟨tokens.length, cursor.mark, false⟩] false).dropStale =
          some (state (cursor.skip entry.keyText.length)
            (⟨.scalar entry.key.text entry.key.style, cursor.mark,
              (cursor.skip entry.keyText.length).mark⟩ :: tokens) [] [none] false) := by
      simp [Cutting.dropStale, state, far]
    have arrived := arrived_state (fuel + 1) (by simp)
      (toNextToken_token (state (cursor.skip entry.keyText.length)
        (⟨.scalar entry.key.text entry.key.style, cursor.mark,
          (cursor.skip entry.keyText.length).mark⟩ :: tokens) [] [none] false) colon (by decide)
        (fuel + 1))
    rw [run_step start.running step dropped]
    refine run_fault rfl ?_ ?_
    · rw [step_colon arrived colon (.inr rfl)]
      rfl
    · simpa [state] using noEnd
  · refine run_fault start.running ?_ (start.held ▸ noEnd)
    rw [step]
    simp [Cutting.dropStale, state, margin, far]

end Steps

/-! ## All lines -/

/-- Behind the last line the block ends, and then the text. -/
theorem Cutting.StartsLine.run_end {cutting : Cutting} {tokens : List Placed} {fuel : Nat}
    (start : cutting.StartsLine tokens [0] []) :
    (cutting.run (fuel + 1)).Holds
      (tokens.reverse.map Placed.token ++ [.blockEnd, .streamEnd]) := by
  obtain ⟨cursor, allowed, here, arrived, -⟩ := start.arrives (fuel + 1) (Nat.succ_pos fuel)
  obtain ⟨after, finished⟩ : ∃ after : Cursor, (state cursor tokens [0] [none] allowed).finish =
      some (endState after (⟨.streamEnd, after.mark, after.mark⟩ ::
        ⟨.blockEnd, after.mark, after.mark⟩ :: tokens)) := ⟨_, rfl⟩
  simpa using run_finish start.running arrived here finished

/-- A line is at least a key, a colon, a blank and a value. -/
theorem Entry.length_line (entry : Entry) : 4 ≤ entry.line.length := by
  obtain ⟨c, others, key, -⟩ := entry.keyWritten.starts
  obtain ⟨d, more, value, -⟩ := entry.valueWritten.starts
  simp only [Entry.line, key, value, List.length_append, List.length_cons]
  omega

theorem linesText_cons_behind (closed : Bool) (entry : Entry) (entries : List Entry) :
    ∃ tail, linesText closed (entry :: entries) = entry.line ++ tail ∧
      Behind tail (linesText closed entries) := by
  cases entries with
  | nil =>
    cases closed with
    | true => exact ⟨_, rfl, .lineEnd (by simp)⟩
    | false => exact ⟨_, rfl, .nothing⟩
  | cons next entries => exact ⟨_, rfl, .lineEnd (linesText_starts closed (next :: entries))⟩

/-- Lines of which the keys are found are cut into the tokens of a block. -/
theorem Cutting.StartsLine.run_lines {closed : Bool} {entries : List Entry} :
    ∀ {cutting : Cutting} {tokens : List Placed} {columns : List Nat} {fuel : Nat},
      cutting.StartsLine tokens columns (linesText closed entries) → columns = [] ∨ columns = [0] →
      (columns = [] → entries ≠ []) → (∀ entry ∈ entries, entry.Found) →
      (linesText closed entries).length + 2 ≤ fuel →
      (cutting.run fuel).Holds (tokens.reverse.map Placed.token ++
        ((if columns = [] then [.blockMappingStart] else []) ++
          (entries.flatMap Entry.tokens ++ [.blockEnd, .streamEnd]))) := by
  induction entries with
  | nil =>
    intro cutting tokens columns fuel start outermost opened _ enough
    obtain rfl : columns = [0] := outermost.resolve_left fun none => opened none rfl
    obtain ⟨fuel, rfl⟩ := Nat.exists_eq_add_of_le' (Nat.le_trans (Nat.le_add_left 1 _) enough)
    exact start.run_end
  | cons entry entries ih =>
    intro cutting tokens columns fuel start outermost _ found enough
    obtain ⟨foundFirst, foundRest⟩ := List.forall_mem_cons.mp found
    obtain ⟨tail, text, behind⟩ := linesText_cons_behind closed entry entries
    have some := entry.length_line
    rw [text] at start enough
    rw [List.length_append] at enough
    obtain ⟨fuel, rfl⟩ := Nat.exists_eq_add_of_le' (show 3 ≤ fuel by omega)
    obtain ⟨next, after, run, starts, cut⟩ :=
      start.run_line fuel foundFirst outermost behind (by omega)
    have holds := ih starts (.inr rfl) (by simp) foundRest
      (show (linesText closed entries).length + 2 ≤ fuel by have := behind.length_le; omega)
    rw [run]
    simpa [cut] using holds

/-- Lines of which some key is not found are not cut to the end. -/
theorem Cutting.StartsLine.run_lines_lost {closed : Bool} {entries : List Entry} :
    ∀ {cutting : Cutting} {tokens : List Placed} {columns : List Nat} {fuel : Nat},
      cutting.StartsLine tokens columns (linesText closed entries) → columns = [] ∨ columns = [0] →
      (∃ entry ∈ entries, ¬ entry.Found) → .streamEnd ∉ tokens.map Placed.token →
      (linesText closed entries).length + 2 ≤ fuel → (cutting.run fuel).Broken := by
  induction entries with
  | nil =>
    rintro _ _ _ _ _ _ ⟨entry, member, -⟩
    cases member
  | cons entry entries ih =>
    intro cutting tokens columns fuel start outermost lost noEnd enough
    obtain ⟨tail, text, behind⟩ := linesText_cons_behind closed entry entries
    have some := entry.length_line
    rw [text] at start enough
    rw [List.length_append] at enough
    obtain ⟨fuel, rfl⟩ := Nat.exists_eq_add_of_le' (show 3 ≤ fuel by omega)
    by_cases found : entry.Found
    · obtain ⟨next, after, run, starts, cut⟩ :=
        start.run_line fuel found outermost behind (by omega)
      have lostThen : ∃ entry ∈ entries, ¬ entry.Found := by
        obtain ⟨other, member, lost⟩ := lost
        rcases List.mem_cons.mp member with rfl | later
        · exact absurd found lost
        · exact ⟨other, later, lost⟩
      rw [run]
      refine ih starts (.inr rfl) lostThen ?_ (by have := behind.length_le; omega)
      rw [← List.mem_reverse, ← List.map_reverse, cut]
      simpa [Entry.tokens] using noEnd
    · exact start.run_lost (fuel + 1) found outermost (by omega) noEnd

/-! ## The whole text -/

theorem Entry.printable (entry : Entry) : entry.line.all isPrintable = true := by
  have signs : IsVisible ':' ∧ IsVisible ' ' := by decide
  have visible : ∀ c ∈ entry.line, IsVisible c := by
    simp only [Entry.line, List.forall_mem_append, List.forall_mem_cons]
    exact ⟨entry.keyWritten.visible, signs.1, signs.2, entry.valueWritten.visible⟩
  exact List.all_eq_true.mpr fun c member => (visible c member).printable

theorem Behind.printable {tail rest : List Char} (behind : Behind tail rest)
    (printable : rest.all isPrintable = true) : tail.all isPrintable = true := by
  cases behind with
  | nothing => rfl
  | lineEnd => simpa [isPrintable] using printable

theorem linesText_printable (closed : Bool) (entries : List Entry) :
    (linesText closed entries).all isPrintable = true := by
  induction entries with
  | nil => rfl
  | cons entry entries ih =>
    obtain ⟨tail, text, behind⟩ := linesText_cons_behind closed entry entries
    rw [text, List.all_append, entry.printable, Bool.true_and]
    exact behind.printable ih

/-- Cutting starts with the first line. -/
theorem start_startsLine (closed : Bool) (entries : List Entry) :
    (Cutting.start (linesText closed entries)).StartsLine [] [] (linesText closed entries) :=
  startsLine_here (by simp) rfl (linesText_starts closed entries) fun _ => ⟨rfl, rfl⟩

/-- A text of lines is cut into the tokens of its entries if each of its keys is found. -/
theorem tokens_linesText (closed : Bool) {entries : List Entry} (notEmpty : entries ≠ [])
    (found : ∀ entry ∈ entries, entry.Found) :
    (tokens (linesText closed entries)).Holds
      (.blockMappingStart :: (entries.flatMap Entry.tokens ++ [.blockEnd, .streamEnd])) := by
  rw [tokens, if_pos (linesText_printable closed entries)]
  exact (start_startsLine closed entries).run_lines (.inl rfl) (fun _ => notEmpty) found (Nat.le_refl _)

theorem tokens_linesText_lost (closed : Bool) {entries : List Entry}
    (lost : ∃ entry ∈ entries, ¬ entry.Found) : (tokens (linesText closed entries)).Broken := by
  rw [tokens, if_pos (linesText_printable closed entries)]
  exact (start_startsLine closed entries).run_lines_lost (.inl rfl) lost (by simp)
    (Nat.le_refl _)

end Codebook.Yaml
