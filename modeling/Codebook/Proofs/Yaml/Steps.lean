import Codebook.Proofs.Yaml.Scalars

/-!
# Single steps of cutting a YAML text

A step goes to the next token, gives up keys that are too far back and closes blocks, and then takes
the token that its first character tells. The laws say so for the characters that the mappings of this
theory are made of: quotes, words, colons, commas and braces, and the end of the text.
-/

namespace Codebook.Yaml

/-- A state in the middle of a text. -/
def state (cursor : Cursor) (tokens : List Placed) (columns : List Nat)
    (keys : List (Option PossibleKey)) (keyAllowed : Bool) : Cutting where
  cursor
  tokens
  count := tokens.length
  columns
  keys
  keyAllowed
  ended := false

/-- A state behind the end of a text. -/
def endState (cursor : Cursor) (tokens : List Placed) : Cutting :=
  { state cursor tokens [] [none] false with ended := true }

/-- The state in which the next token is looked at. -/
def Cutting.arrived (bound : Nat) (cutting : Cutting) : Option Cutting :=
  (cutting.toNextToken (bound + 1)).dropStale.map Cutting.unindent

/-! ## Getting to a token -/

section Arriving

variable (cutting : Cutting) {rest : List Char}

/-- The characters that tokens start with here: no blanks, no line ends, and nothing that is skipped. -/
def StartsToken (c : Char) : Prop :=
  isBlank c = false ∧ isBreak c = false ∧ c ≠ '#' ∧ c ≠ '\ufeff'

instance : DecidablePred StartsToken := fun c =>
  inferInstanceAs (Decidable (isBlank c = false ∧ isBreak c = false ∧ c ≠ '#' ∧ c ≠ '\ufeff'))

theorem Scalar.Written.starts {scalar : Scalar} {text : List Char} (written : scalar.Written text) :
    ∃ c rest, text = c :: rest ∧ StartsToken c := by
  cases written with
  | plain isWord =>
    obtain ⟨c, others, rfl, part⟩ := isWord.starts
    refine ⟨c, others, rfl, part.notBlank, (visible_of_isWordChar part).onLine, ?_, ?_⟩
    · exact part.ne _ (by decide)
    · exact part.ne _ (by decide)
  | quoted spelled => exact ⟨'"', _, rfl, by decide⟩

theorem Cursor.skipOrderMark_of_head {cursor : Cursor} {c : Char} (here : cursor.rest = c :: rest)
    (noMark : c ≠ '\ufeff') : cursor.skipOrderMark = cursor := by
  simp [Cursor.skipOrderMark, here, noMark]

/-- A run of characters that ends at once is skipped without a move. -/
theorem Cursor.skipWhile_none {cursor : Cursor} {p : Char → Bool}
    (stops : ∀ c, cursor.rest.head? = some c → p c = false) : cursor.skipWhile p = cursor := by
  have nothing : cursor.taken p = [] := by
    unfold Cursor.taken
    cases here : cursor.rest with
    | nil => rfl
    | cons c rest => exact List.takeWhile_cons_of_neg (by simp [stops c (by rw [here]; rfl)])
  rw [Cursor.skipWhile, nothing]
  exact cursor.skip_zero

theorem StartsToken.notSkipped {c : Char} (token : StartsToken c) (tabs : Bool) :
    (c == ' ' || (tabs && c == '\t')) = false := by
  obtain ⟨noBlank, -⟩ := token
  simp only [isBlank, Bool.or_eq_false_iff] at noBlank
  simp [noBlank]

/-- At a token there is nothing to be skipped. -/
theorem toNextToken_token {c : Char} (here : cutting.cursor.rest = c :: rest) (token : StartsToken c)
    (fuel : Nat) : cutting.toNextToken (fuel + 1) = cutting := by
  have stays : cutting.cursor.skipWhile
      (fun c => c == ' ' || ((cutting.inFlow || !cutting.keyAllowed) && c == '\t')) =
        cutting.cursor := by
    refine Cursor.skipWhile_none fun d first => ?_
    rw [here, List.head?_cons, Option.some.injEq] at first
    rw [← first]
    exact token.notSkipped _
  obtain ⟨-, onLine, noComment, noMark⟩ := token
  rw [Cutting.toNextToken]
  simp only [Cursor.skipOrderMark_of_head here noMark, stays]
  simp [here, endsLine, onLine, noComment]

theorem toNextToken_end (here : cutting.cursor.rest = []) (fuel : Nat) :
    cutting.toNextToken (fuel + 1) = cutting := by
  have noMark : cutting.cursor.skipOrderMark = cutting.cursor := by
    simp [Cursor.skipOrderMark, here]
  have stays : cutting.cursor.skipWhile
      (fun c => c == ' ' || ((cutting.inFlow || !cutting.keyAllowed) && c == '\t')) =
        cutting.cursor := Cursor.skipWhile_none (by simp [here])
  rw [Cutting.toNextToken]
  simp only [noMark, stays]
  simp [here]

/-- A blank before a token is skipped. -/
theorem toNextToken_blank {c : Char} (here : cutting.cursor.rest = ' ' :: c :: rest)
    (token : StartsToken c) (fuel : Nat) :
    cutting.toNextToken (fuel + 1) = { cutting with cursor := cutting.cursor.skip 1 } := by
  have moves : cutting.cursor.skipWhile
      (fun c => c == ' ' || ((cutting.inFlow || !cutting.keyAllowed) && c == '\t')) =
        cutting.cursor.skip 1 := by
    have one : cutting.cursor.taken
        (fun c => c == ' ' || ((cutting.inFlow || !cutting.keyAllowed) && c == '\t')) = [' '] := by
      rw [Cursor.taken, here, List.takeWhile_cons_of_pos (by simp),
        List.takeWhile_cons_of_neg (by simp [token.notSkipped])]
    rw [Cursor.skipWhile, one]
    rfl
  obtain ⟨-, onLine, noComment, -⟩ := token
  have behind : (cutting.cursor.skip 1).rest = c :: rest := Cursor.rest_skip_one here
  rw [Cutting.toNextToken]
  simp only [Cursor.skipOrderMark_of_head here (by decide), moves]
  simp [behind, endsLine, onLine, noComment]

/-- Outside of braces a key is allowed behind a line end. -/
theorem toNextToken_lineEnd (here : cutting.cursor.rest = '\n' :: rest)
    (outside : cutting.inFlow = false) (fuel : Nat) :
    cutting.toNextToken (fuel + 1) =
      Cutting.toNextToken fuel
        { cutting with cursor := cutting.cursor.skipBreak, keyAllowed := true } := by
  have stays : cutting.cursor.skipWhile
      (fun c => c == ' ' || ((cutting.inFlow || !cutting.keyAllowed) && c == '\t')) =
        cutting.cursor := Cursor.skipWhile_none (by simp [here])
  rw [Cutting.toNextToken]
  simp only [Cursor.skipOrderMark_of_head here (by decide), stays]
  simp [here, endsLine, isBreak, outside]

/-- A key is near its colon if it is not too long. -/
theorem tooFarBack_skip {cursor : Cursor} {text : List Char} (here : cursor.rest = text ++ rest) :
    tooFarBack cursor.mark (cursor.skip text.length).mark = decide (1024 < byteCount text) := by
  simp [tooFarBack, Cursor.skip, here]

variable {cutting}

/-- Possible keys that are near enough are kept. -/
theorem dropStale_near
    (near : ∀ key, some key ∈ cutting.keys → tooFarBack key.mark cutting.cursor.mark = false) :
    cutting.dropStale = some cutting := by
  have kept : cutting.keys.map (·.filter fun key => !tooFarBack key.mark cutting.cursor.mark) =
      cutting.keys := by
    refine (List.map_congr_left fun key member => ?_).trans (List.map_id cutting.keys)
    cases key with
    | none => rfl
    | some key => simp [near key member]
  have noFault : (cutting.keys.any fun key =>
      key.any fun key => key.required && tooFarBack key.mark cutting.cursor.mark) = false := by
    refine List.any_eq_false.mpr fun key member => ?_
    cases key with
    | none => simp
    | some key => simp [near key member]
  rw [Cutting.dropStale]
  simp only [noFault, kept]
  rfl

/-- Blocks that are not indented further than the cursor stay open. -/
theorem unindent_inside (inside : ∀ column ∈ cutting.columns.head?, column ≤ cutting.here) :
    cutting.unindent = cutting := by
  unfold Cutting.unindent
  split
  · rfl
  · cases columns : cutting.columns with
    | nil => rfl
    | cons inner outer =>
      have notLess : ¬ cutting.here < inner := by
        simpa using inside inner (by rw [columns]; rfl)
      simp [Cutting.closeBlocks, notLess]

theorem arrived_of {next : Cutting} {bound : Nat} (reached : cutting.toNextToken (bound + 1) = next)
    (near : ∀ key, some key ∈ next.keys → tooFarBack key.mark next.cursor.mark = false)
    (inside : ∀ column ∈ next.columns.head?, column ≤ next.here) :
    cutting.arrived bound = some next := by
  rw [Cutting.arrived, reached, dropStale_near near, Option.map_some, unindent_inside inside]

end Arriving

/-! ## The first character of a token -/

theorem Cursor.notMark {cursor : Cursor} {c : Char} {rest : List Char}
    (here : cursor.rest = c :: rest) (noDash : c ≠ '-') (noPoint : c ≠ '.') :
    cursor.atDocumentMark = false := by
  unfold Cursor.atDocumentMark
  rw [here]
  split <;> simp_all

section Dispatch

variable {cutting next : Cutting} {bound : Nat} {rest : List Char}

theorem step_end (arrived : cutting.arrived bound = some next) (here : next.cursor.rest = []) :
    cutting.step bound = next.finish := by
  obtain ⟨fresh, dropped, rfl⟩ := Option.map_eq_some_iff.mp arrived
  simp [Cutting.step, dropped, here]

theorem step_quote (arrived : cutting.arrived bound = some next)
    (here : next.cursor.rest = '"' :: rest) :
    cutting.step bound = (do
      let (text, after) ← readDouble bound (next.cursor.skip 1)
      next.keyToken (.scalar (String.ofList text) .double) after) := by
  obtain ⟨fresh, dropped, rfl⟩ := Option.map_eq_some_iff.mp arrived
  have notMark := Cursor.notMark here (by decide) (by decide)
  simp [Cutting.step, dropped, here, notMark]

/-- A word is plain text. It must not be a mark of documents at the start of a line. -/
theorem step_word {c : Char} (arrived : cutting.arrived bound = some next)
    (here : next.cursor.rest = c :: rest) (part : IsWordChar c)
    (notMark : next.cursor.atDocumentMark = false) :
    cutting.step bound = next.plain bound := by
  obtain ⟨fresh, dropped, rfl⟩ := Option.map_eq_some_iff.mp arrived
  have other (d : Char) (outside : ¬ IsWordChar d) : c ≠ d := part.ne d outside
  have starts := part.startsPlain fresh.unindent.inFlow rest
  simp [Cutting.step, dropped, here, notMark, starts, other '-' (by decide),
    other '?' (by decide), other ':' (by decide), other '&' (by decide), other '*' (by decide),
    other '!' (by decide), other '|' (by decide), other '>' (by decide), other '\'' (by decide),
    other '"' (by decide), other '%' (by decide), other '[' (by decide), other ']' (by decide),
    other '\x7b' (by decide), other '\x7d' (by decide), other ',' (by decide)]

/-- A colon stands before a value if a blank follows it, or between braces. -/
theorem step_colon (arrived : cutting.arrived bound = some next)
    (here : next.cursor.rest = ':' :: rest) (ends : next.inFlow = true ∨ endsWord rest = true) :
    cutting.step bound = next.value := by
  obtain ⟨fresh, dropped, rfl⟩ := Option.map_eq_some_iff.mp arrived
  have notMark := Cursor.notMark here (by decide) (by decide)
  simp [Cutting.step, dropped, here, notMark, ends]

theorem step_comma (arrived : cutting.arrived bound = some next)
    (here : next.cursor.rest = ',' :: rest) : cutting.step bound = next.flowEntry := by
  obtain ⟨fresh, dropped, rfl⟩ := Option.map_eq_some_iff.mp arrived
  have notMark := Cursor.notMark here (by decide) (by decide)
  simp [Cutting.step, dropped, here, notMark]

theorem step_openBrace (arrived : cutting.arrived bound = some next)
    (here : next.cursor.rest = '\x7b' :: rest) :
    cutting.step bound = next.openFlow .flowMappingStart := by
  obtain ⟨fresh, dropped, rfl⟩ := Option.map_eq_some_iff.mp arrived
  have notMark := Cursor.notMark here (by decide) (by decide)
  simp [Cutting.step, dropped, here, notMark]

theorem step_closeBrace (arrived : cutting.arrived bound = some next)
    (here : next.cursor.rest = '\x7d' :: rest) :
    cutting.step bound = next.closeFlow .flowMappingEnd := by
  obtain ⟨fresh, dropped, rfl⟩ := Option.map_eq_some_iff.mp arrived
  have notMark := Cursor.notMark here (by decide) (by decide)
  simp [Cutting.step, dropped, here, notMark]

end Dispatch

/-! ## Scalars -/

section Scalars

variable {cutting next : Cutting} {bound : Nat} {rest : List Char}

/-- A token that may be a key, where none is allowed. -/
theorem keyToken_noKey (cursor after : Cursor) (tokens : List Placed) (columns : List Nat)
    (keys : List (Option PossibleKey)) (token : Token) :
    (state cursor tokens columns keys false).keyToken token after =
      some (state after (⟨token, cursor.mark, after.mark⟩ :: tokens) columns keys false) :=
  rfl

/-- A token that may be a key is noted where one is allowed. -/
theorem keyToken_key (cursor after : Cursor) (tokens : List Placed) (columns : List Nat)
    (outer : List (Option PossibleKey)) (token : Token) :
    (state cursor tokens columns (none :: outer) true).keyToken token after =
      some (state after (⟨token, cursor.mark, after.mark⟩ :: tokens) columns
        (some ⟨tokens.length, cursor.mark,
          outer.isEmpty && columns.head? = some cursor.mark.column⟩ :: outer) false) := by
  cases outer <;> rfl

/-- Quoted text is one token. -/
theorem step_quoted {value : String} {inner : List Char} (spelled : Spelled value.toList inner)
    (arrived : cutting.arrived bound = some next)
    (here : next.cursor.rest = '"' :: (inner ++ '"' :: rest)) (enough : inner.length < bound) :
    cutting.step bound =
      next.keyToken (.scalar value .double) (next.cursor.skip (inner.length + 2)) := by
  have inside : (next.cursor.skip 1).mark.column ≠ 0 := Nat.succ_ne_zero _
  have behind : (next.cursor.skip 1).rest = inner ++ '"' :: rest :=
    Cursor.rest_skip_one here
  rw [step_quote arrived here, spelled.read_quoted inside behind enough, Cursor.skip_skip,
    Nat.add_comm 1]
  simp

/-- Quoted text with an escape that stands for nothing is no token. -/
theorem step_bad_escape {cs text : List Char} {letter : Char} (spelled : Spelled cs text)
    (arrived : cutting.arrived bound = some next)
    (here : next.cursor.rest = '"' :: (text ++ '\\' :: letter :: rest))
    (onLine : isBreak letter = false) (bad : readEscape? (letter :: rest) = none)
    (enough : text.length < bound) : cutting.step bound = none := by
  have inside : (next.cursor.skip 1).mark.column ≠ 0 := Nat.succ_ne_zero _
  have behind : (next.cursor.skip 1).rest = text ++ '\\' :: letter :: rest :=
    Cursor.rest_skip_one here
  rw [step_quote arrived here, spelled.read_bad_escape inside behind onLine bad enough]
  rfl

/-- A plain word that no line end belongs to is a token like any other. -/
theorem plain_eq_keyToken {cursor after : Cursor} {tokens : List Placed} {columns : List Nat}
    {outer : List (Option PossibleKey)} {allowed : Bool} {word : List Char}
    (read : ∀ column, readPlain (1 < outer.length + 1) column bound cursor =
      some (word, after, false)) :
    (state cursor tokens columns (none :: outer) allowed).plain bound =
      (state cursor tokens columns (none :: outer) allowed).keyToken
        (.scalar (String.ofList word) .plain) after := by
  cases allowed with
  | false =>
    change (readPlain (1 < outer.length + 1) _ bound cursor).bind _ = _
    rw [read]
    rfl
  | true =>
    rw [keyToken_key]
    change (readPlain (1 < outer.length + 1) _ bound cursor).bind _ = _
    rw [read]
    cases outer <;> rfl

/-- A scalar is one token, if a plain word cannot go on behind it. -/
theorem step_scalar {scalar : Scalar} {text : List Char} (written : scalar.Written text)
    {cursor : Cursor} {tokens : List Placed} {columns : List Nat}
    {outer : List (Option PossibleKey)} {allowed : Bool}
    (arrived : cutting.arrived bound = some (state cursor tokens columns (none :: outer) allowed))
    (here : cursor.rest = text ++ rest)
    (notMark : cursor.mark.column = 0 → text.head? ≠ some '.')
    (stops : plainWord? (1 < outer.length + 1) rest = some [])
    (last : rest = [] ∨ endsWord rest = false) (enough : text.length ≤ bound) :
    cutting.step bound = (state cursor tokens columns (none :: outer) allowed).keyToken
      (.scalar scalar.text scalar.style) (cursor.skip text.length) := by
  cases written with
  | @plain word isWord =>
    obtain ⟨c, others, rfl, part⟩ := isWord.starts
    have outside : cursor.atDocumentMark = false := by
      by_cases start : cursor.mark.column = 0
      · refine Cursor.notMark here (part.ne _ (by decide)) ?_
        simpa using notMark start
      · exact Cursor.not_atDocumentMark start
    obtain ⟨fuel, rfl⟩ := Nat.exists_eq_add_of_le' (Nat.le_trans (Nat.le_add_left 1 _) enough)
    rw [step_word arrived here part outside]
    exact plain_eq_keyToken fun column => readPlain_word isWord outside here stops last
  | @quoted value inner spelled =>
    simp only [List.length_cons, List.length_append, List.length_nil] at enough ⊢
    exact step_quoted spelled arrived (by simpa [state] using here) (by omega)

end Scalars

/-! ## Runs -/

/-- A text that was cut to its end into some tokens. -/
structure TokenStream.Holds (stream : TokenStream) (tokens : List Token) : Prop where
  complete : stream.complete = true
  tokens : stream.tokens.map Placed.token = tokens

/-- A text that was not cut to its end. -/
structure TokenStream.Broken (stream : TokenStream) : Prop where
  incomplete : stream.complete = false
  noEnd : .streamEnd ∉ stream.tokens.map Placed.token

section Runs

variable {cutting next after : Cutting} {fuel : Nat}

theorem run_step (running : cutting.ended = false) (step : cutting.step (fuel + 1) = some next)
    (kept : next.dropStale = some after) : cutting.run (fuel + 1) = after.run fuel := by
  simp [Cutting.run, running, step, kept]

/-- A step that fails leaves the text broken. -/
theorem run_fault (running : cutting.ended = false)
    (fault : (cutting.step (fuel + 1)).bind Cutting.dropStale = none)
    (noEnd : .streamEnd ∉ cutting.tokens.map Placed.token) :
    (cutting.run (fuel + 1)).Broken := by
  simp only [Cutting.run, running, fault, Bool.false_eq_true, if_false]
  refine ⟨rfl, fun member => noEnd ?_⟩
  rw [List.map_take, List.map_reverse] at member
  exact List.mem_reverse.mp (List.mem_of_mem_take member)

/-- A text is cut to its end where its end is reached. -/
theorem run_finish {cursor : Cursor} {tokens : List Placed} (running : cutting.ended = false)
    (arrived : cutting.arrived (fuel + 1) = some next) (here : next.cursor.rest = [])
    (finished : next.finish = some (endState cursor tokens)) :
    (cutting.run (fuel + 1)).Holds (tokens.reverse.map Placed.token) := by
  rw [run_step running ((step_end arrived here).trans finished) rfl]
  cases fuel <;> exact ⟨rfl, rfl⟩

end Runs

end Codebook.Yaml
