import Codebook.Proofs.Template.Slots

/-!
# Reading names between braces

A name that stands alone between braces goes through every level of expressions before it is taken. None
of the levels has anything to do with it: in front of it no reader finds a sign or a `not`, and behind it
none finds an operator, because the closing delimiter comes next. So what is said here is said twice, of
readers that take the name, and of readers that leave the closing delimiter where it is; a level is one
of the first kind with one of the second kind behind it.

The tokens of some texts and fields are then read as their statements, one for each. How many calls a
reader may make is given to it as a number, and how much is enough is part of what is shown.
-/

namespace Codebook.Template

/-! ## Single steps of a reader -/

section Steps

variable {α β : Type} {reading after : Reading} {token : Token} {line : Nat} {rest : List Placed}

/-- What is read next starts where the reader before it has ended. -/
theorem run_bind_ok {first : Reader α} {result : α} (read : first.run reading = .ok (result, after))
    (next : α → Reader β) : (first >>= next).run reading = (next result).run after := by
  rw [StateT.run_bind, read]
  rfl

theorem run_peek? (ahead : reading.tokens = ⟨token, line⟩ :: rest) :
    peek?.run reading = .ok (some token, reading) := by
  simp [peek?, ahead]
  rfl

theorem run_nextLine (ahead : reading.tokens = ⟨token, line⟩ :: rest) :
    nextLine.run reading = .ok (line, reading) := by
  simp [nextLine, ahead]
  rfl

theorem run_take? (ahead : reading.tokens = ⟨token, line⟩ :: rest) :
    take?.run reading = .ok (some token, { reading with tokens := rest, lastLine := line }) := by
  rw [take?, run_bind_ok (run_peek? ahead)]
  simp [ahead]
  rfl

theorem run_take (ahead : reading.tokens = ⟨token, line⟩ :: rest) :
    take.run reading = .ok (token, { reading with tokens := rest, lastLine := line }) := by
  rw [take, run_bind_ok (run_take? ahead)]
  rfl

/-- Behind the last token nothing is taken, if no fault was met there. -/
theorem run_take?_nothing (ahead : reading.tokens = []) (whole : reading.fault = none) :
    take?.run reading = .ok (none, reading) := by
  have seen : peek?.run reading = .ok (none, reading) := by
    simp [peek?, ahead, whole]
    rfl
  rw [take?, run_bind_ok seen]
  simp [ahead]
  rfl

/-- A name is skipped only if it is one of the words that are looked for. -/
theorem run_skipWord_name {word : String} (ahead : reading.tokens = ⟨.word word, line⟩ :: rest)
    {words : List String} (other : words.contains word = false) :
    (skipWord words).run reading = .ok (false, reading) := by
  have found : (atWord words).run reading = .ok (false, reading) := by
    rw [atWord, run_bind_ok (run_peek? ahead)]
    exact congrArg (fun found => Except.ok (found, reading)) other
  rw [skipWord, run_bind_ok found]
  rfl

/-- A closing delimiter is no word. -/
theorem run_skipWord_end (ahead : reading.tokens = ⟨.outputEnd, line⟩ :: rest) (words : List String) :
    (skipWord words).run reading = .ok (false, reading) := by
  have found : (atWord words).run reading = .ok (false, reading) := by
    rw [atWord, run_bind_ok (run_peek? ahead)]
    rfl
  rw [skipWord, run_bind_ok found]
  rfl

/-- What is no symbol is not skipped as one. -/
theorem run_skipSymbol_other (ahead : reading.tokens = ⟨token, line⟩ :: rest)
    (other : ∀ found, token ≠ .symbol found) (symbol : Symbol) :
    (skipSymbol symbol).run reading = .ok (false, reading) := by
  have found : (atSymbol symbol).run reading = .ok (false, reading) := by
    rw [atSymbol, run_bind_ok (run_peek? ahead)]
    cases token with
    | symbol found => exact absurd rfl (other found)
    | _ => rfl
  rw [skipSymbol, run_bind_ok found]
  rfl

/-- What can be read one level further in can be read there, and the level is left again. -/
theorem run_nested {inner : Reader α} {result : α} (room : reading.nesting + 1 ≤ nestingLimit)
    (read : inner.run { reading with nesting := reading.nesting + 1 } = .ok (result, after)) :
    (nested inner).run reading = .ok (result, { after with nesting := after.nesting - 1 }) := by
  have known : (get : Reader Reading).run reading = .ok (reading, reading) := rfl
  have deeper : (set { reading with nesting := reading.nesting + 1 } : Reader PUnit).run reading =
      .ok (⟨⟩, { reading with nesting := reading.nesting + 1 }) := rfl
  rw [nested, run_bind_ok known, if_neg (Nat.not_lt.mpr room), run_bind_ok deeper, run_bind_ok read]
  rfl

end Steps

/-! ## Behind a name -/

/-- A reader that leaves a closing delimiter where it is, and gives this result there. -/
def Leaves {α : Type} (reader : Reader α) (result : α) : Prop :=
  ∀ (reading : Reading) (line : Nat) (rest : List Placed),
    reading.tokens = ⟨.outputEnd, line⟩ :: rest → reader.run reading = .ok (result, reading)

theorem Leaves.bind {α β : Type} {first : Reader α} {result : α} {next : α → Reader β} {answer : β}
    (leaves : Leaves first result) (behind : Leaves (next result) answer) :
    Leaves (first >>= next) answer := by
  intro reading line rest ahead
  rw [run_bind_ok (leaves reading line rest ahead)]
  exact behind reading line rest ahead

theorem leaves_binaryTail (fuel : Nat) (level : Level) (line : Nat) (left : Expression) :
    Leaves (readBinaryTail (fuel + 1) level line left) left := by
  intro reading closing rest ahead
  rw [readBinaryTail, run_bind_ok (run_peek? ahead)]
  cases level <;> rfl

theorem leaves_comparisons (fuel : Nat) : Leaves (readComparisons (fuel + 1)) [] := by
  intro reading closing rest ahead
  rw [readComparisons, run_bind_ok (run_skipWord_end ahead ["not"])]
  exact run_bind_ok (run_peek? ahead) _

theorem leaves_choices (fuel : Nat) (yes : Expression) : Leaves (readChoices (fuel + 1) yes) yes := by
  intro reading closing rest ahead
  rw [readChoices, run_bind_ok (run_skipWord_end ahead ["if"])]
  rfl

theorem leaves_attributes (fuel : Nat) (operand : Expression) (line : Nat) :
    Leaves (readPostfix (fuel + 1) operand line) operand := by
  intro reading closing rest ahead
  rw [readPostfix, run_bind_ok (run_nextLine ahead), run_bind_ok (run_peek? ahead)]
  rfl

theorem leaves_filters (fuel : Nat) (operand : Expression) :
    Leaves (readFilters (fuel + 1) operand) operand := by
  intro reading closing rest ahead
  have noSymbol : ∀ found, Token.outputEnd ≠ .symbol found := by simp
  rw [readFilters, run_bind_ok (run_skipSymbol_other ahead noSymbol .pipe)]
  exact run_bind_ok (run_skipWord_end ahead ["is"]) _

/-! ## Through the levels of expressions -/

/-- A reader that takes a name with a closing delimiter behind it, and goes this many levels of nesting
further in on the way. -/
def TakesName (reader : Reader Expression) (word : String) (depth : Nat) : Prop :=
  ∀ (reading : Reading) (line closing : Nat) (rest : List Placed),
    reading.tokens = ⟨.word word, line⟩ :: ⟨.outputEnd, closing⟩ :: rest →
    reading.nesting + depth ≤ nestingLimit →
    reader.run reading = .ok (.name word line,
      { reading with tokens := ⟨.outputEnd, closing⟩ :: rest, lastLine := line })

section Levels

variable {word : String} {depth fuel : Nat}

theorem TakesName.nested {reader : Reader Expression} (takes : TakesName reader word depth) :
    TakesName (Template.nested reader) word (depth + 1) := by
  intro reading line closing rest ahead room
  have inner := takes { reading with nesting := reading.nesting + 1 } line closing rest ahead
    (by simp only; omega)
  exact run_nested (by omega) inner

/-- What leaves the closing delimiter where it is may stand behind a reader that takes the name. -/
theorem TakesName.bind {first : Reader Expression} (takes : TakesName first word depth)
    {next : Expression → Reader Expression}
    (leaves : ∀ expression, Leaves (next expression) expression) :
    TakesName (first >>= next) word depth := by
  intro reading line closing rest ahead room
  rw [run_bind_ok (takes reading line closing rest ahead room)]
  exact leaves _ _ closing rest rfl

/-- A level whose operands can be the name can be the name. -/
theorem TakesName.binary {level : Level}
    (takes : TakesName (readOperandOf (fuel + 1) level) word depth) :
    TakesName (readBinary (fuel + 2) level) word depth := by
  intro reading line closing rest ahead room
  rw [readBinary, run_bind_ok (run_nextLine ahead)]
  exact takes.bind (leaves_binaryTail fuel level line) reading line closing rest ahead room

theorem takesName_primary (ordinary : namedConstant? word = none) :
    TakesName (readPrimary (fuel + 1)) word 0 := by
  intro reading line closing rest ahead _
  rw [readPrimary, run_bind_ok (run_nextLine ahead), run_bind_ok (run_take ahead)]
  simp only [ordinary]
  rfl

theorem takesName_signed (ordinary : namedConstant? word = none) :
    TakesName (readSigned (fuel + 2)) word 1 := by
  intro reading line closing rest ahead room
  have noSymbol : ∀ found, Token.word word ≠ .symbol found := by simp
  rw [readSigned, run_bind_ok (run_nextLine ahead),
    run_bind_ok (run_skipSymbol_other ahead noSymbol .minus)]
  exact (takesName_primary ordinary).nested reading line closing rest ahead room

theorem takesName_unary (ordinary : namedConstant? word = none) :
    TakesName (readUnary (fuel + 3)) word 1 := by
  intro reading line closing rest ahead room
  have behind : ∀ operand, Leaves (do
      let operand ← readPostfix (fuel + 2) operand line
      readFilters (fuel + 2) operand) operand := by
    intro operand
    exact (leaves_attributes (fuel + 1) operand line).bind (leaves_filters (fuel + 1) operand)
  rw [readUnary, run_bind_ok (run_nextLine ahead)]
  exact (takesName_signed ordinary).bind behind reading line closing rest ahead room

theorem takesName_sum (ordinary : namedConstant? word = none) :
    TakesName (readBinary (fuel + 11) .sum) word 1 := by
  have power : TakesName (readOperandOf (fuel + 4) .power) word 1 := by
    rw [readOperandOf]
    exact takesName_unary ordinary
  have product : TakesName (readOperandOf (fuel + 6) .product) word 1 := by
    rw [readOperandOf]
    exact power.binary
  have concat : TakesName (readOperandOf (fuel + 8) .concat) word 1 := by
    rw [readOperandOf]
    exact product.binary
  have sum : TakesName (readOperandOf (fuel + 10) .sum) word 1 := by
    rw [readOperandOf]
    exact concat.binary
  exact sum.binary

theorem takesName_not (ordinary : namedConstant? word = none) (positive : word ≠ "not") :
    TakesName (readNot (fuel + 12)) word 1 := by
  intro reading line closing rest ahead room
  have other : ["not"].contains word = false := by simp [positive]
  rw [readNot, run_bind_ok (run_nextLine ahead), run_bind_ok (run_skipWord_name ahead other),
    if_neg Bool.false_ne_true,
    run_bind_ok (takesName_sum ordinary reading line closing rest ahead room),
    run_bind_ok (leaves_comparisons (fuel + 10) _ closing rest rfl)]
  rfl

/-- A full expression may be a name that is neither a constant nor `not`. -/
theorem takesName_expression (ordinary : namedConstant? word = none) (positive : word ≠ "not") :
    TakesName (readExpression (fuel + 18)) word 2 := by
  have and : TakesName (readOperandOf (fuel + 13) .and) word 1 := by
    rw [readOperandOf]
    exact takesName_not ordinary positive
  have or : TakesName (readOperandOf (fuel + 15) .or) word 1 := by
    rw [readOperandOf]
    exact and.binary
  have choice : TakesName (readChoice (fuel + 17)) word 1 := by
    rw [readChoice]
    exact or.binary.bind (leaves_choices (fuel + 15))
  rw [readExpression]
  exact choice.nested

end Levels

/-! ## Statements -/

/-- The tokens of a part. -/
def Slot.tokens (line : Nat) : Slot → List Placed
  | .text raw => [⟨.text raw, line⟩]
  | .field held => [⟨.outputStart, line⟩, ⟨.word held.word, line⟩, ⟨.outputEnd, line⟩]

/-- The tokens of some parts. -/
def tokensOf (slots : List (Slot × Nat)) : List Placed :=
  slots.flatMap fun (slot, line) => slot.tokens line

theorem length_le_tokensOf (slots : List (Slot × Nat)) : slots.length ≤ (tokensOf slots).length := by
  induction slots with
  | nil => simp
  | cons first slots ih =>
    obtain ⟨slot, line⟩ := first
    have some : 1 ≤ (slot.tokens line).length := by cases slot <;> simp [Slot.tokens]
    simp only [tokensOf, List.flatMap_cons, List.length_append, List.length_cons] at ih ⊢
    omega

/-- The name of a field is neither a constant nor `not`. -/
theorem Field.ordinary_word (field : Field) :
    namedConstant? field.word = none ∧ field.word ≠ "not" := by
  cases field <;> decide

/-- Parts are read as their statements up to the end of the tokens. A statement takes one call at least,
and the last one eighteen more to get through the levels of expressions. -/
theorem run_readStatements (slots : List (Slot × Nat)) :
    ∀ (fuel : Nat) (reading : Reading), slots.length + 19 ≤ fuel →
      reading.nesting + 2 ≤ nestingLimit → reading.fault = none → reading.tokens = tokensOf slots →
      ∃ after, (readStatements fuel []).run reading =
        .ok (slots.map fun (slot, line) => slot.statement line, after) := by
  induction slots with
  | nil =>
    intro fuel reading enough room whole ahead
    obtain ⟨fuel, rfl⟩ := Nat.exists_eq_add_of_le' (Nat.le_of_add_left_le enough : 1 ≤ fuel)
    have here : nextLine.run reading = .ok (reading.lastLine, reading) := by
      simp [nextLine, ahead, tokensOf]
      rfl
    rw [readStatements, run_bind_ok here, run_bind_ok (run_take?_nothing ahead whole)]
    exact ⟨reading, rfl⟩
  | cons first slots ih =>
    intro fuel reading enough room whole ahead
    obtain ⟨slot, line⟩ := first
    obtain ⟨fuel, rfl⟩ := Nat.exists_eq_add_of_le' (Nat.le_of_add_left_le enough : 19 ≤ fuel)
    have less : slots.length + 19 ≤ fuel + 18 := by
      rw [List.length_cons] at enough
      omega
    obtain ⟨after, read⟩ := ih (fuel + 18)
      { reading with tokens := tokensOf slots, lastLine := line } less room whole rfl
    rw [tokensOf, List.flatMap_cons] at ahead
    cases slot with
    | text raw =>
      rw [readStatements, run_bind_ok (run_nextLine ahead), run_bind_ok (run_take? ahead)]
      exact ⟨after, run_bind_ok read _⟩
    | field held =>
      obtain ⟨ordinary, positive⟩ := held.ordinary_word
      have name : (readExpression (fuel + 18)).run _ = _ :=
        takesName_expression ordinary positive
          { reading with
            tokens := ⟨.word held.word, line⟩ :: ⟨.outputEnd, line⟩ :: tokensOf slots
            lastLine := line } line line (tokensOf slots) rfl room
      rw [readStatements, run_bind_ok (run_nextLine ahead), run_bind_ok (run_take? ahead)]
      refine ⟨after, (run_bind_ok name _).trans ?_⟩
      refine (run_bind_ok (run_peek? rfl) _).trans ?_
      refine (run_bind_ok (run_take? rfl) _).trans ?_
      exact run_bind_ok read _

/-- A text whose tokens are those of some parts is read as their statements. -/
theorem readTemplate_of_tokens {text : String} {slots : List (Slot × Nat)}
    (same : tokens text = ⟨tokensOf slots, none⟩) :
    readTemplate text = .ok (slots.map fun (slot, line) => slot.statement line) := by
  have enough : slots.length + 19 ≤ readingDepth (tokensOf slots).length := by
    have := length_le_tokensOf slots
    rw [readingDepth]
    omega
  have shallow : 0 + 2 ≤ nestingLimit := by decide
  obtain ⟨after, read⟩ := run_readStatements slots (readingDepth (tokensOf slots).length)
    ⟨tokensOf slots, none, 1, 0, false, []⟩ enough shallow rfl rfl
  rw [readTemplate, same]
  exact congrArg (Functor.map Prod.fst) read

end Codebook.Template
