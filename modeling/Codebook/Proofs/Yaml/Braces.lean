import Codebook.Proofs.Yaml.Steps

/-!
# Mappings between braces

A mapping can be written between braces as well, with commas between its members and no blanks: that is
how other programs write an object. Names stand between quotes here. In such a text there may be quoted
texts with an escape that stands for nothing, and the first of them is where cutting ends.

The brace might be a key itself, which never has to be one. So nothing depends on how far the text is
behind it. A name that is too far from its colon is no key either: it is a scalar like any other, and
the text is cut on.
-/

namespace Codebook.Yaml

/-! ## Members -/

/-- Text between quotes with an escape in it that stands for nothing. -/
inductive HasBadEscape : List Char → Prop where
  | here {cs front rest : List Char} {letter : Char} (spelled : Spelled cs front)
      (onLine : isBreak letter = false)
      (bad : ∀ more, readEscape? (letter :: (rest ++ more)) = none) :
      HasBadEscape (front ++ '\\' :: letter :: rest)

/-- The ways to write a scalar, and quoted texts that are no scalar. -/
inductive Scalar.Tried (scalar : Scalar) : List Char → Prop where
  | written {text : List Char} (written : scalar.Written text) : Tried scalar text
  | unreadable {inner : List Char} (bad : HasBadEscape inner) : Tried scalar ('"' :: inner)

/-- A member of a mapping: its name and its value, and how they are written, if they are. -/
structure Member where
  name : String
  value : Scalar
  nameText : List Char
  valueText : List Char
  nameTried : Scalar.Tried ⟨name, .double⟩ nameText
  valueTried : value.Tried valueText

/-- The text of a member. -/
def Member.text (member : Member) : List Char :=
  member.nameText ++ ':' :: member.valueText

/-- The text of some members up to the closing brace. -/
def membersText : List Member → List Char
  | [] => ['\x7d']
  | [member] => member.text ++ ['\x7d']
  | member :: members => member.text ++ ',' :: membersText members

/-- A member with a name that is found at its colon. -/
def Member.Found (member : Member) : Prop :=
  byteCount member.nameText ≤ 1024

instance (member : Member) : Decidable member.Found :=
  inferInstanceAs (Decidable (byteCount member.nameText ≤ 1024))

/-- The tokens of a member. -/
def Member.tokens (member : Member) : List Token :=
  (if member.Found then [.key] else []) ++
    [.scalar member.name .double, .value, .scalar member.value.text member.value.style]

/-- The tokens of some members up to the closing brace. -/
def membersTokens : List Member → List Token
  | [] => [.flowMappingEnd]
  | [member] => member.tokens ++ [.flowMappingEnd]
  | member :: members => member.tokens ++ .flowEntry :: membersTokens members

/-! ## Getting to a token -/

/-- A possible key that does not have to be one. -/
def IsOptional (key : Option PossibleKey) : Prop :=
  key.all (fun key => !key.required) = true

theorem isOptional_none : IsOptional none :=
  rfl

/-- A key that is near enough. -/
def IsNear (key : Option PossibleKey) (mark : Mark) : Prop :=
  key.all (fun key => !tooFarBack key.mark mark) = true

theorem isNear_none (mark : Mark) : IsNear none mark :=
  rfl

section Between

variable {cursor : Cursor} {tokens : List Placed} {key outer : Option PossibleKey} {allowed : Bool}
  {rest : List Char}

theorem IsOptional.filter (optional : IsOptional key) (p : PossibleKey → Bool) :
    IsOptional (key.filter p) := by
  cases key with
  | none => rfl
  | some key => by_cases kept : p key <;> simp_all [IsOptional]

/-- Keys that do not have to be any are given up where they are too far back. -/
theorem dropStale_optional (cursor : Cursor) (tokens : List Placed)
    {keys : List (Option PossibleKey)} (allowed : Bool)
    (optional : ∀ key ∈ keys, IsOptional key) :
    (state cursor tokens [] keys allowed).dropStale =
      some (state cursor tokens []
        (keys.map fun key => key.filter fun key => !tooFarBack key.mark cursor.mark) allowed) := by
  have noFault : (keys.any fun key =>
      key.any fun key => key.required && tooFarBack key.mark cursor.mark) = false := by
    refine List.any_eq_false.mpr fun key member => ?_
    cases key with
    | none => simp
    | some key =>
      have waived : key.required = false := by simpa [IsOptional] using optional _ member
      simp [waived]
  simp only [Cutting.dropStale, state, noFault]
  rfl

theorem IsNear.filter {mark : Mark} (near : IsNear key mark) :
    (key.filter fun key => !tooFarBack key.mark mark) = key := by
  unfold IsNear at near
  cases key <;> simp_all

/-- Between braces a state at a token stays where it is. -/
theorem arrived_between {c : Char} (bound : Nat) (tokens : List Placed) (allowed : Bool)
    (here : cursor.rest = c :: rest)
    (token : StartsToken c) (optional : IsOptional key) (near : IsNear key cursor.mark)
    (outerOptional : IsOptional outer) :
    ∃ left, IsOptional left ∧ (state cursor tokens [] [key, outer] allowed).arrived bound =
      some (state cursor tokens [] [key, left] allowed) := by
  refine ⟨outer.filter fun key => !tooFarBack key.mark cursor.mark, outerOptional.filter _, ?_⟩
  rw [Cutting.arrived, toNextToken_token (state cursor tokens [] [key, outer] allowed) here token,
    dropStale_optional cursor tokens allowed (by simp [optional, outerOptional]), List.map_cons,
    near.filter]
  rfl

/-! ## Single steps -/

/-- A step that leaves keys that do not have to be any, and of these the nearer ones. -/
theorem run_between {cutting : Cutting} {fuel : Nat} (running : cutting.ended = false)
    (step : cutting.step (fuel + 1) = some (state cursor tokens [] [key, outer] allowed))
    (optional : IsOptional key) (outerOptional : IsOptional outer) :
    ∃ left, IsOptional left ∧ cutting.run (fuel + 1) =
      (state cursor tokens [] [key.filter fun key => !tooFarBack key.mark cursor.mark, left]
        allowed).run fuel :=
  ⟨_, outerOptional.filter _, run_step running step
    (dropStale_optional cursor tokens allowed (by simp [optional, outerOptional]))⟩

/-- A quoted name is a possible key if it is not too long. -/
theorem run_name (fuel : Nat) (tokens : List Placed) {name : String} {text : List Char}
    (written : Scalar.Written ⟨name, .double⟩ text) (optional : IsOptional outer)
    (here : cursor.rest = text ++ rest) (enough : text.length ≤ fuel + 1) :
    ∃ left, IsOptional left ∧ (state cursor tokens [] [none, outer] true).run (fuel + 1) =
      (state (cursor.skip text.length)
        (⟨.scalar name .double, cursor.mark, (cursor.skip text.length).mark⟩ :: tokens) []
        [if byteCount text ≤ 1024 then some ⟨tokens.length, cursor.mark, false⟩ else none, left]
        false).run fuel := by
  obtain ⟨inner, rfl, spelled⟩ := written.quotedText
  have far := tooFarBack_skip here
  have length : ('"' :: (inner ++ ['"'])).length = inner.length + 2 := by simp
  rw [length] at enough far ⊢
  obtain ⟨before, beforeOptional, arrived⟩ :=
    arrived_between (fuel + 1) tokens true here (by decide) isOptional_none (isNear_none _) optional
  have step := step_quoted spelled arrived (by simpa [state] using here) (by omega)
  rw [keyToken_key] at step
  obtain ⟨left, leftOptional, run⟩ := run_between rfl step rfl beforeOptional
  refine ⟨left, leftOptional, run.trans ?_⟩
  change (state _ _ _ [if !tooFarBack cursor.mark (cursor.skip (inner.length + 2)).mark then _
    else none, left] _).run fuel = _
  rw [far]
  simp only [Bool.not_eq_true', decide_eq_false_iff_not, Nat.not_lt]
  rfl

/-- The colon makes a key of the name before it, if this is one. -/
theorem run_colon (fuel : Nat) (tokens : List Placed) (placed : Placed) (mark : Mark) (found : Prop)
    [Decidable found] (optional : IsOptional outer) (here : cursor.rest = ':' :: rest)
    (near : found → tooFarBack mark cursor.mark = false) :
    ∃ left, IsOptional left ∧ (state cursor (placed :: tokens) []
        [if found then some ⟨tokens.length, mark, false⟩ else none, outer] false).run (fuel + 1) =
      (state (cursor.skip 1) (⟨.value, cursor.mark, (cursor.skip 1).mark⟩ :: placed ::
        (if found then ⟨.key, mark, mark⟩ :: tokens else tokens)) [] [none, left] false).run fuel := by
  have waived : IsOptional (if found then some ⟨tokens.length, mark, false⟩ else none) := by
    split <;> rfl
  have nearer : IsNear (if found then some ⟨tokens.length, mark, false⟩ else none) cursor.mark := by
    split
    · simp [IsNear, near ‹found›]
    · rfl
  obtain ⟨before, beforeOptional, arrived⟩ :=
    arrived_between (fuel + 1) (placed :: tokens) false here (by decide) waived nearer optional
  have value : (state cursor (placed :: tokens) []
      [if found then some ⟨tokens.length, mark, false⟩ else none, before] false).value =
        some (state (cursor.skip 1) (⟨.value, cursor.mark, (cursor.skip 1).mark⟩ :: placed ::
          (if found then ⟨.key, mark, mark⟩ :: tokens else tokens)) [] [none, before] false) := by
    split
    · simp [Cutting.value, state, Cutting.insert, Cutting.opens, Cutting.inFlow, Cutting.sign,
        Cutting.push]
    · rfl
  exact run_between rfl ((step_colon arrived here (.inl rfl)).trans value) rfl beforeOptional

/-- A value is a scalar before a comma or the closing brace. -/
theorem run_scalar (fuel : Nat) (tokens : List Placed) {value : Scalar} {text : List Char} {sign : Char}
    (written : value.Written text) (optional : IsOptional outer)
    (here : cursor.rest = text ++ sign :: rest) (inside : cursor.mark.column ≠ 0)
    (behind : sign = ',' ∨ sign = '\x7d') (enough : text.length ≤ fuel + 1) :
    ∃ left, IsOptional left ∧ (state cursor tokens [] [none, outer] false).run (fuel + 1) =
      (state (cursor.skip text.length)
        (⟨.scalar value.text value.style, cursor.mark, (cursor.skip text.length).mark⟩ :: tokens) []
        [none, left] false).run fuel := by
  have notMark : cursor.mark.column = 0 → text.head? ≠ some '.' := fun start => absurd start inside
  obtain ⟨c, others, rfl, token⟩ := written.starts
  obtain ⟨before, beforeOptional, arrived⟩ :=
    arrived_between (fuel + 1) tokens false here token isOptional_none (isNear_none _) optional
  have stops : plainWord? true (sign :: rest) = some [] ∧ endsWord (sign :: rest) = false := by
    rcases behind with rfl | rfl <;> exact ⟨rfl, rfl⟩
  have step := step_scalar written arrived here notMark stops.1 (.inr stops.2) enough
  rw [keyToken_noKey] at step
  exact run_between rfl step rfl beforeOptional

/-- Behind a comma there is the next name. -/
theorem run_comma (fuel : Nat) (tokens : List Placed) (optional : IsOptional outer)
    (here : cursor.rest = ',' :: rest) :
    ∃ left, IsOptional left ∧ (state cursor tokens [] [none, outer] false).run (fuel + 1) =
      (state (cursor.skip 1) (⟨.flowEntry, cursor.mark, (cursor.skip 1).mark⟩ :: tokens) []
        [none, left] true).run fuel := by
  obtain ⟨before, beforeOptional, arrived⟩ :=
    arrived_between (fuel + 1) tokens false here (by decide) isOptional_none (isNear_none _) optional
  exact run_between rfl (step_comma arrived here) rfl beforeOptional

theorem finish_outside (cursor : Cursor) (tokens : List Placed) (allowed : Bool)
    (optional : IsOptional key) : ∃ after : Cursor, (state cursor tokens [] [key] allowed).finish =
      some (endState after (⟨.streamEnd, after.mark, after.mark⟩ :: tokens)) := by
  cases key with
  | none => exact ⟨_, rfl⟩
  | some key =>
    have waived : key.required = false := by simpa [IsOptional] using optional
    refine ⟨{ cursor with mark := if cursor.mark.column = 0 then cursor.mark
      else ⟨cursor.mark.index, cursor.mark.line + 1, 0⟩ }, ?_⟩
    simp [Cutting.finish, Cutting.closeAll, Cutting.closeBlocks, Cutting.inFlow, state, endState,
      Cutting.dropKey, waived, Cutting.push]
    rfl

/-- At the end of the text there may be a possible key, if it does not have to be one. -/
theorem run_nothing (fuel : Nat) (tokens : List Placed) (allowed : Bool)
    (optional : IsOptional key) (here : cursor.rest = []) :
    ((state cursor tokens [] [key] allowed).run (fuel + 1)).Holds
      (tokens.reverse.map Placed.token ++ [.streamEnd]) := by
  obtain ⟨left, leftOptional, arrived⟩ : ∃ left, IsOptional left ∧
      (state cursor tokens [] [key] allowed).arrived (fuel + 1) =
        some (state cursor tokens [] [left] allowed) := by
    refine ⟨key.filter fun key => !tooFarBack key.mark cursor.mark, optional.filter _, ?_⟩
    rw [Cutting.arrived, toNextToken_end (state cursor tokens [] [key] allowed) here,
      dropStale_optional cursor tokens allowed (List.forall_mem_singleton.mpr optional)]
    rfl
  obtain ⟨after, finished⟩ := finish_outside cursor tokens allowed leftOptional
  simpa using run_finish rfl arrived here finished

/-- Behind the closing brace there is the end of the text. -/
theorem run_closing (fuel : Nat) (tokens : List Placed) (optional : IsOptional outer)
    (here : cursor.rest = ['\x7d']) :
    ((state cursor tokens [] [none, outer] false).run (fuel + 2)).Holds
      (tokens.reverse.map Placed.token ++ [.flowMappingEnd, .streamEnd]) := by
  obtain ⟨before, beforeOptional, arrived⟩ :=
    arrived_between (fuel + 2) tokens false here (by decide) isOptional_none (isNear_none _) optional
  have kept := dropStale_optional (cursor.skip 1)
    (⟨.flowMappingEnd, cursor.mark, (cursor.skip 1).mark⟩ :: tokens) false
    (List.forall_mem_singleton.mpr beforeOptional)
  rw [run_step rfl (step_closeBrace arrived here) kept]
  have ends := run_nothing fuel (⟨.flowMappingEnd, cursor.mark, (cursor.skip 1).mark⟩ :: tokens) false
    (beforeOptional.filter fun key => !tooFarBack key.mark (cursor.skip 1).mark)
    (Cursor.rest_skip_one here)
  simpa using ends

/-- Quoted text that is none is where cutting ends. -/
theorem run_unreadable (fuel : Nat) {inner : List Char} (bad : HasBadEscape inner)
    (optional : IsOptional outer) (here : cursor.rest = '"' :: (inner ++ rest))
    (noEnd : .streamEnd ∉ tokens.map Placed.token) (enough : inner.length ≤ fuel + 1) :
    ((state cursor tokens [] [none, outer] allowed).run (fuel + 1)).Broken := by
  obtain ⟨spelled, onLine, bad⟩ := bad
  obtain ⟨before, beforeOptional, arrived⟩ :=
    arrived_between (fuel + 1) tokens allowed here (by decide) isOptional_none (isNear_none _) optional
  rw [List.length_append, List.length_cons] at enough
  refine run_fault rfl ?_ noEnd
  rw [step_bad_escape spelled arrived (by simpa [state] using here) onLine (bad rest) (by omega)]
  rfl

/-! ## Members one by one -/

theorem Scalar.Tried.text_ne_nil {scalar : Scalar} {text : List Char} (tried : scalar.Tried text) :
    text ≠ [] := by
  cases tried with
  | written written =>
    obtain ⟨c, others, rfl, -⟩ := written.starts
    exact List.cons_ne_nil c others
  | unreadable => exact List.cons_ne_nil _ _

/-- A member is at least a name, a colon and a value. -/
theorem Member.length_text (member : Member) : 3 ≤ member.text.length := by
  have name := List.length_pos_iff.mpr member.nameTried.text_ne_nil
  have value := List.length_pos_iff.mpr member.valueTried.text_ne_nil
  simp only [Member.text, List.length_append, List.length_cons]
  omega

/-- A name and its colon are cut in two steps. -/
theorem run_name_colon (fuel : Nat) (tokens : List Placed) {name : String} {text : List Char}
    (written : Scalar.Written ⟨name, .double⟩ text) (optional : IsOptional outer)
    (here : cursor.rest = text ++ ':' :: rest) (enough : text.length ≤ fuel + 2) :
    ∃ (next : Cursor) (after : List Placed) (left : Option PossibleKey), IsOptional left ∧
      (state cursor tokens [] [none, outer] true).run (fuel + 2) =
        (state next after [] [none, left] false).run fuel ∧
      next.rest = rest ∧ next.mark.column ≠ 0 ∧ after.reverse.map Placed.token =
        tokens.reverse.map Placed.token ++
          ((if byteCount text ≤ 1024 then [.key] else []) ++ [.scalar name .double, .value]) := by
  obtain ⟨first, firstOptional, takesName⟩ := run_name (fuel + 1) tokens written optional here enough
  have colon := Cursor.rest_skip here
  have far := tooFarBack_skip here
  obtain ⟨left, leftOptional, takesColon⟩ := run_colon fuel tokens
    ⟨.scalar name .double, cursor.mark, (cursor.skip text.length).mark⟩ cursor.mark
    (byteCount text ≤ 1024) firstOptional colon (by simp [far])
  refine ⟨_, _, left, leftOptional, takesName.trans takesColon, Cursor.rest_skip_one colon,
    Nat.succ_ne_zero _, ?_⟩
  by_cases found : byteCount text ≤ 1024 <;> simp [found]

/-- A member is cut in three steps, if it is written with escapes that stand for something. -/
theorem run_member (fuel : Nat) (member : Member) {sign : Char} (optional : IsOptional outer)
    (here : cursor.rest = member.text ++ sign :: rest) (behind : sign = ',' ∨ sign = '\x7d')
    (noEnd : .streamEnd ∉ tokens.map Placed.token) (enough : member.text.length ≤ fuel + 1) :
    ((state cursor tokens [] [none, outer] true).run (fuel + 3)).Broken ∨
      ∃ (next : Cursor) (after : List Placed) (left : Option PossibleKey), IsOptional left ∧
        (state cursor tokens [] [none, outer] true).run (fuel + 3) =
          (state next after [] [none, left] false).run fuel ∧
        next.rest = sign :: rest ∧ after.reverse.map Placed.token =
          tokens.reverse.map Placed.token ++ member.tokens := by
  obtain ⟨name, value, nameText, valueText, nameTried, valueTried⟩ := member
  have text : cursor.rest = nameText ++ ':' :: (valueText ++ sign :: rest) := by
    simpa [Member.text] using here
  simp only [Member.text, List.length_append, List.length_cons] at enough
  cases nameTried with
  | unreadable bad =>
    rw [List.length_cons] at enough
    exact .inl (run_unreadable (fuel + 2) bad optional text noEnd (by omega))
  | written written =>
    obtain ⟨middle, between, first, firstOptional, takesName, atValue, inside, cut⟩ :=
      run_name_colon (fuel + 1) tokens written optional text (by omega)
    rw [takesName]
    cases valueTried with
    | unreadable bad =>
      have noEndThen : .streamEnd ∉ between.map Placed.token := by
        rw [← List.mem_reverse, ← List.map_reverse, cut]
        split <;> simpa using noEnd
      rw [List.length_cons] at enough
      exact .inl (run_unreadable fuel bad firstOptional atValue noEndThen (by omega))
    | written written =>
      obtain ⟨left, leftOptional, takesValue⟩ :=
        run_scalar fuel between written firstOptional atValue inside behind (by omega)
      refine .inr ⟨_, _, left, leftOptional, takesValue, Cursor.rest_skip atValue, ?_⟩
      rw [List.reverse_cons, List.map_append, cut, List.append_assoc, List.append_assoc]
      rfl

/-- Members up to the closing brace are cut to the end of the text, or up to an escape that stands for
nothing. -/
theorem run_members {members : List Member} (notEmpty : members ≠ []) :
    ∀ {cursor : Cursor} {tokens : List Placed} {outer : Option PossibleKey} {fuel : Nat},
      IsOptional outer → cursor.rest = membersText members →
      .streamEnd ∉ tokens.map Placed.token → (membersText members).length + 1 ≤ fuel →
      ((state cursor tokens [] [none, outer] true).run fuel).Broken ∨
        ((state cursor tokens [] [none, outer] true).run fuel).Holds
          (tokens.reverse.map Placed.token ++ (membersTokens members ++ [.streamEnd])) := by
  induction members with
  | nil => exact absurd rfl notEmpty
  | cons member members ih =>
    intro cursor tokens outer fuel optional here noEnd enough
    have some := member.length_text
    cases members with
    | nil =>
      simp only [membersText, List.length_append, List.length_singleton] at here enough
      obtain ⟨fuel, rfl⟩ := Nat.exists_eq_add_of_le' (show 5 ≤ fuel by omega)
      rcases run_member (fuel + 2) member optional here (.inr rfl) noEnd (by omega) with
        broken | ⟨next, after, left, leftOptional, run, closing, cut⟩
      · exact .inl broken
      · have ends := run_closing fuel after leftOptional closing
        rw [run]
        exact .inr (by simpa [cut, membersTokens] using ends)
    | cons other members =>
      have text : membersText (member :: other :: members) =
        member.text ++ ',' :: membersText (other :: members) := rfl
      rw [text] at here enough
      rw [List.length_append, List.length_cons] at enough
      obtain ⟨fuel, rfl⟩ := Nat.exists_eq_add_of_le' (show 4 ≤ fuel by omega)
      rcases run_member (fuel + 1) member optional here (.inl rfl) noEnd (by omega) with
        broken | ⟨next, after, left, leftOptional, run, comma, cut⟩
      · exact .inl broken
      · obtain ⟨left, leftOptional, takesComma⟩ := run_comma fuel after leftOptional comma
        have noEndThen : .streamEnd ∉ List.map Placed.token
            (⟨.flowEntry, next.mark, (next.skip 1).mark⟩ :: after) := by
          rw [← List.mem_reverse, ← List.map_reverse, List.reverse_cons, List.map_append, cut]
          unfold Member.tokens
          split <;> simpa using noEnd
        have others := ih (by simp) leftOptional (Cursor.rest_skip_one comma) noEndThen
          (show (membersText (other :: members)).length + 1 ≤ fuel by omega)
        rw [run, takesComma]
        rw [List.reverse_cons, List.map_append, cut] at others
        simpa [membersTokens] using others

end Between

/-! ## The whole text -/

/-- A text of members between braces is cut to its end, or up to an escape that stands for nothing. -/
theorem tokens_membersText {members : List Member} (notEmpty : members ≠ []) :
    (tokens ('\x7b' :: membersText members)).Broken ∨
      (tokens ('\x7b' :: membersText members)).Holds
        (.flowMappingStart :: (membersTokens members ++ [.streamEnd])) := by
  generalize text : '\x7b' :: membersText members = whole
  unfold tokens
  split
  · have here : (Cursor.start whole).rest = '\x7b' :: membersText members := text.symm
    have arrived : (Cutting.start whole).arrived (whole.length + 2) = some (Cutting.start whole) :=
      arrived_of (toNextToken_token _ here (by decide) _) (by simp [Cutting.start])
        (by simp [Cutting.start])
    have opened : (Cutting.start whole).openFlow .flowMappingStart =
        some (state ((Cursor.start whole).skip 1)
          [⟨.flowMappingStart, ⟨0, 0, 0⟩, ((Cursor.start whole).skip 1).mark⟩] []
          [none, some ⟨0, ⟨0, 0, 0⟩, false⟩] true) := rfl
    obtain ⟨left, leftOptional, takesBrace⟩ :=
      run_between rfl ((step_openBrace arrived here).trans opened) isOptional_none rfl
    rw [takesBrace]
    refine run_members notEmpty leftOptional (Cursor.rest_skip_one here) (by simp) ?_
    simp [← text]
  · exact .inl ⟨rfl, by simp⟩

end Codebook.Yaml
