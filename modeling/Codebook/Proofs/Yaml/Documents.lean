import Codebook.Proofs.Yaml.Braces
import Codebook.Proofs.Yaml.Endings
import Codebook.Proofs.Yaml.Lines

/-!
# Documents that hold one mapping

A mapping gives the same events whether its entries stand on lines or between braces: its start, a key
and a value for each entry, and its end. Nothing is told of where they stand, since only complaints
depend on that.

Between braces a scalar may stand for a key without a token that marks it. Then it is an entry without a
value, and no colon may be behind it. So a name that is not found at its colon ends the document.
-/

namespace Codebook.Yaml

/-! ## Events -/

/-- A document that is complete, stands alone, and holds some events. -/
structure Document.Tells (document : Document) (events : List Event) : Prop where
  complete : document.complete = true
  alone : document.alone = true
  events : document.happenings.map Happening.event = events

theorem Document.Tells.cons {document : Document} {events : List Event} (tells : document.Tells events)
    (happening : Happening) :
    Document.Tells { document with happenings := happening :: document.happenings }
      (happening.event :: events) :=
  ⟨tells.complete, tells.alone, congrArg (List.cons happening.event) tells.events⟩

/-- The events of the entries of a mapping up to its end. -/
def entryEvents : List (Scalar × Scalar) → List Event
  | [] => [.mappingEnd]
  | (key, value) :: entries =>
    .scalar key.text key.style none :: .scalar value.text value.style none :: entryEvents entries

/-- The key and the value of an entry. -/
def Entry.pair (entry : Entry) : Scalar × Scalar :=
  (entry.key, entry.value)

/-- The name and the value of a member. -/
def Member.pair (member : Member) : Scalar × Scalar :=
  (⟨member.name, .double⟩, member.value)

/-- The events that are kept as they are. -/
def Event.isContent : Event → Bool
  | .documentStart | .documentEnd | .streamEnd | .alias _ => false
  | _ => true

section Reading

variable {reading after : Reading} {fuel : Nat}

/-- An event of a document without an anchor comes before what is read later. -/
theorem readDraft_content {happening : Happening} (step : reading.step = some (happening, after))
    (content : happening.event.isContent = true) (noAnchor : happening.anchor = none) :
    (reading.readDraft [] (fuel + 1)).resolved =
      { (after.readDraft [] fuel).resolved with
        happenings := happening :: (after.readDraft [] fuel).resolved.happenings } := by
  obtain ⟨event, mark, anchor, aliased⟩ := happening
  obtain rfl : anchor = none := noAnchor
  rw [Reading.readDraft, step]
  cases event with
  | scalar | sequenceStart | sequenceEnd | mappingStart | mappingEnd => rfl
  | _ => cases content

/-- So it is one event more. -/
theorem tells_content {happening : Happening} {events : List Event}
    (tells : (after.readDraft [] fuel).resolved.Tells events)
    (step : reading.step = some (happening, after)) (content : happening.event.isContent = true)
    (noAnchor : happening.anchor = none) :
    (reading.readDraft [] (fuel + 1)).resolved.Tells (happening.event :: events) := by
  rw [readDraft_content step content noAnchor]
  exact tells.cons happening

/-- A state from which some events are read, if the document comes to its end. -/
def Reading.Gives (reading : Reading) (events : List Event) : Prop :=
  ∀ fuel, (reading.readDraft [] fuel).resolved.complete = false ∨
    (reading.readDraft [] fuel).resolved.Tells events

theorem gives_content {happening : Happening} {events : List Event} (gives : after.Gives events)
    (step : reading.step = some (happening, after)) (content : happening.event.isContent = true)
    (noAnchor : happening.anchor = none) : reading.Gives (happening.event :: events) := by
  intro fuel
  cases fuel with
  | zero => exact .inl rfl
  | succ fuel =>
    rw [readDraft_content step content noAnchor]
    exact (gives fuel).imp id fun tells => tells.cons happening

end Reading

/-! ## Tokens and their places -/

/-- Tokens are looked at one by one. -/
theorem placed_cons {tokens : List Placed} {first : Token} {others : List Token}
    (cut : tokens.map Placed.token = first :: others) :
    ∃ (start stop : Mark) (rest : List Placed), tokens = ⟨first, start, stop⟩ :: rest ∧
      rest.map Placed.token = others := by
  obtain ⟨⟨_, start, stop⟩, rest, rfl, rfl, behind⟩ := List.map_eq_cons_iff.mp cut
  exact ⟨start, stop, rest, rfl, behind⟩

/-- Behind a mapping a document is complete, and alone if the text ends. -/
theorem tells_end {tokens : List Placed} {handles : List (String × TagText)} (fuel : Nat)
    (ends : tokens.map Placed.token = [.streamEnd]) :
    ((Reading.mk tokens .documentEnd [] handles).readDraft [] (fuel + 1)).resolved.Tells [] := by
  obtain ⟨start, stop, rest, rfl, -⟩ := placed_cons ends
  exact ⟨rfl, rfl, rfl⟩

/-- The document of a text that opens with a mapping is read from behind its start. -/
theorem ofText_opening {text : List Char} {token : Token} {phase : Phase} {start stop : Mark}
    {rest : List Placed}
    (opens : token = .blockMappingStart ∧ phase = .blockKey true ∨
      token = .flowMappingStart ∧ phase = .flowKey true)
    (same : (tokens text).tokens = ⟨token, start, stop⟩ :: rest) :
    let mapping := ((Reading.mk (⟨token, start, stop⟩ :: rest) phase [.documentEnd]
      standardHandles).readDraft [] (4 * rest.length + 10)).resolved
    Document.ofText text =
      { mapping with
        happenings := ⟨.mappingStart none, start, none, false⟩ :: mapping.happenings } := by
  rw [Document.ofText, same]
  rcases opens with ⟨rfl, rfl⟩ | ⟨rfl, rfl⟩ <;> rfl

/-! ## Lines -/

/-- The state at a key of a block. Before the first one the token that opens the block is still to be
passed. -/
def atKey (opening : Option Placed) (tokens : List Placed) : Reading :=
  ⟨opening.toList ++ tokens, .blockKey opening.isSome, [.documentEnd], standardHandles⟩

section Block

variable (opening : Option Placed) (scalar : Scalar) (start stop scalarStart scalarStop : Mark)
  (rest : List Placed)

theorem step_blockKey :
    (atKey opening (⟨.key, start, stop⟩ ::
      ⟨.scalar scalar.text scalar.style, scalarStart, scalarStop⟩ :: rest)).step =
        some (⟨.scalar scalar.text scalar.style none, scalarStart, none, false⟩,
          ⟨rest, .blockValue, [.documentEnd], standardHandles⟩) := by
  cases opening <;> rfl

theorem step_blockValue :
    Reading.step ⟨⟨.value, start, stop⟩ ::
      ⟨.scalar scalar.text scalar.style, scalarStart, scalarStop⟩ :: rest, .blockValue,
        [.documentEnd], standardHandles⟩ =
      some (⟨.scalar scalar.text scalar.style none, scalarStart, none, false⟩, atKey none rest) :=
  rfl

theorem step_blockEnd : (atKey opening (⟨.blockEnd, start, stop⟩ :: rest)).step =
    some (⟨.mappingEnd, start, none, false⟩, ⟨rest, .documentEnd, [], standardHandles⟩) := by
  cases opening <;> rfl

end Block

/-- Entries of a block give their events. -/
theorem tells_entries {entries : List Entry} :
    ∀ {opening : Option Placed} {tokens : List Placed} {fuel : Nat},
      tokens.map Placed.token = entries.flatMap Entry.tokens ++ [.blockEnd, .streamEnd] →
      2 * entries.length + 2 ≤ fuel →
      ((atKey opening tokens).readDraft [] fuel).resolved.Tells
        (entryEvents (entries.map Entry.pair)) := by
  induction entries with
  | nil =>
    intro opening tokens fuel cut enough
    obtain ⟨start, stop, rest, rfl, ends⟩ := placed_cons cut
    obtain ⟨fuel, rfl⟩ := Nat.exists_eq_add_of_le' (show 2 ≤ fuel from enough)
    exact tells_content (tells_end fuel ends) (step_blockEnd opening start stop rest) rfl rfl
  | cons entry entries ih =>
    intro opening tokens fuel cut enough
    rw [List.length_cons] at enough
    obtain ⟨fuel, rfl⟩ := Nat.exists_eq_add_of_le' (show 2 ≤ fuel by omega)
    obtain ⟨keyStart, keyStop, _, rfl, behindKey⟩ := placed_cons cut
    obtain ⟨nameStart, nameStop, _, rfl, behindName⟩ := placed_cons behindKey
    obtain ⟨signStart, signStop, _, rfl, behindSign⟩ := placed_cons behindName
    obtain ⟨valueStart, valueStop, rest, rfl, behind⟩ := placed_cons behindSign
    have others := @ih none rest fuel behind (by omega)
    have takesValue := tells_content others (step_blockValue entry.value
      signStart signStop valueStart valueStop rest) rfl rfl
    exact tells_content takesValue (step_blockKey opening entry.key
      keyStart keyStop nameStart nameStop _) rfl rfl

theorem length_entryTokens (entries : List Entry) :
    (entries.flatMap Entry.tokens).length = 4 * entries.length := by
  induction entries with
  | nil => rfl
  | cons entry entries ih =>
    rw [List.flatMap_cons, List.length_append, ih, List.length_cons]
    simp only [Entry.tokens, List.length_cons, List.length_nil]
    omega

/-- A text of lines holds the mapping of its entries, if each of its keys is found. -/
theorem ofText_linesText (closed : Bool) {entries : List Entry} (notEmpty : entries ≠ [])
    (found : ∀ entry ∈ entries, entry.Found) :
    (Document.ofText (linesText closed entries)).Tells
      (.mappingStart none :: entryEvents (entries.map Entry.pair)) := by
  have cut := (tokens_linesText closed notEmpty found).tokens
  obtain ⟨start, stop, rest, same, behind⟩ := placed_cons cut
  have many := congrArg List.length behind
  rw [List.length_map, List.length_append, length_entryTokens] at many
  have tells := @tells_entries entries (some ⟨.blockMappingStart, start, stop⟩) rest
    (4 * rest.length + 10) behind (by omega)
  rw [ofText_opening (.inl ⟨rfl, rfl⟩) same]
  exact tells.cons ⟨.mappingStart none, start, none, false⟩

/-- Else it is no document that is complete and stands alone. -/
theorem ofText_linesText_lost (closed : Bool) {entries : List Entry}
    (lost : ∃ entry ∈ entries, ¬ entry.Found) :
    ((Document.ofText (linesText closed entries)).complete &&
      (Document.ofText (linesText closed entries)).alone) = false :=
  Document.ofText_broken (tokens_linesText_lost closed lost)

/-! ## Braces -/

/-- The state at a name between braces. The brace or the comma before it is still to be passed. -/
def atName (first : Bool) (start stop : Mark) (tokens : List Placed) : Reading :=
  ⟨⟨if first then .flowMappingStart else .flowEntry, start, stop⟩ :: tokens, .flowKey first,
    [.documentEnd], standardHandles⟩

section Braces

variable (first : Bool) (name : String) (value : Scalar)
  (before behind start stop scalarStart scalarStop : Mark) (rest : List Placed)

theorem step_flowKey :
    (atName first before behind (⟨.key, start, stop⟩ ::
      ⟨.scalar name .double, scalarStart, scalarStop⟩ :: rest)).step =
        some (⟨.scalar name .double none, scalarStart, none, false⟩,
          ⟨rest, .flowValue, [.documentEnd], standardHandles⟩) := by
  cases first <;> rfl

theorem step_flowValue :
    Reading.step ⟨⟨.value, start, stop⟩ ::
      ⟨.scalar value.text value.style, scalarStart, scalarStop⟩ :: rest, .flowValue,
        [.documentEnd], standardHandles⟩ =
      some (⟨.scalar value.text value.style none, scalarStart, none, false⟩,
        ⟨rest, .flowKey false, [.documentEnd], standardHandles⟩) :=
  rfl

theorem step_flowEnd : Reading.step ⟨⟨.flowMappingEnd, start, stop⟩ :: rest, .flowKey false,
    [.documentEnd], standardHandles⟩ =
      some (⟨.mappingEnd, start, none, false⟩, ⟨rest, .documentEnd, [], standardHandles⟩) :=
  rfl

/-- A name that no token marks is a key without a value. -/
theorem step_unmarked :
    (atName first before behind (⟨.scalar name .double, scalarStart, scalarStop⟩ ::
      ⟨.value, start, stop⟩ :: rest)).step =
        some (⟨.scalar name .double none, scalarStart, none, false⟩,
          ⟨⟨.value, start, stop⟩ :: rest, .flowEmptyValue, [.documentEnd], standardHandles⟩) := by
  cases first <;> rfl

/-- The colon behind it is where the document ends. -/
theorem gives_unmarked (events : List Event) :
    Reading.Gives ⟨⟨.value, start, stop⟩ :: rest, .flowEmptyValue, [.documentEnd],
      standardHandles⟩ events
  | 0 => .inl rfl
  | 1 => .inl rfl
  | _ + 2 => .inl rfl

theorem gives_flowEnd (ends : rest.map Placed.token = [.flowMappingEnd, .streamEnd]) :
    Reading.Gives ⟨rest, .flowKey false, [.documentEnd], standardHandles⟩ [.mappingEnd] := by
  obtain ⟨start, stop, rest, rfl, last⟩ := placed_cons ends
  refine gives_content (fun fuel => ?_) (step_flowEnd start stop rest) rfl rfl
  cases fuel with
  | zero => exact .inl rfl
  | succ fuel => exact .inr (tells_end fuel last)

end Braces

/-- A member gives its name and its value before the events of what stands behind it. -/
theorem gives_member {member : Member} {first : Bool} {before behind : Mark} {tokens : List Placed}
    {others : List Token} {events : List Event}
    (cut : tokens.map Placed.token = member.tokens ++ others)
    (gives : ∀ rest, rest.map Placed.token = others →
      Reading.Gives ⟨rest, .flowKey false, [.documentEnd], standardHandles⟩ events) :
    (atName first before behind tokens).Gives
      (.scalar member.name .double none :: .scalar member.value.text member.value.style none ::
        events) := by
  by_cases found : member.Found
  · rw [Member.tokens, if_pos found] at cut
    obtain ⟨keyStart, keyStop, _, rfl, behindKey⟩ := placed_cons cut
    obtain ⟨nameStart, nameStop, _, rfl, behindName⟩ := placed_cons behindKey
    obtain ⟨signStart, signStop, _, rfl, behindSign⟩ := placed_cons behindName
    obtain ⟨valueStart, valueStop, rest, rfl, behindValue⟩ := placed_cons behindSign
    have takesValue := gives_content (gives rest behindValue)
      (step_flowValue member.value signStart signStop valueStart valueStop rest) rfl rfl
    exact gives_content takesValue (step_flowKey first member.name before behind
      keyStart keyStop nameStart nameStop _) rfl rfl
  · rw [Member.tokens, if_neg found] at cut
    obtain ⟨nameStart, nameStop, _, rfl, behindName⟩ := placed_cons cut
    obtain ⟨signStart, signStop, rest, rfl, -⟩ := placed_cons behindName
    exact gives_content (gives_unmarked signStart signStop rest _)
      (step_unmarked first member.name before behind signStart signStop nameStart nameStop rest)
      rfl rfl

/-- Members between braces give their events, if there is an end at all. -/
theorem gives_members {members : List Member} (notEmpty : members ≠ []) :
    ∀ {first : Bool} {before behind : Mark} {tokens : List Placed},
      tokens.map Placed.token = membersTokens members ++ [.streamEnd] →
      (atName first before behind tokens).Gives (entryEvents (members.map Member.pair)) := by
  induction members with
  | nil => exact absurd rfl notEmpty
  | cons member members ih =>
    intro first before behind tokens cut
    cases members with
    | nil =>
      rw [membersTokens, List.append_assoc] at cut
      exact gives_member cut fun rest ends => gives_flowEnd rest ends
    | cons other members =>
      have split : membersTokens (member :: other :: members) =
        member.tokens ++ .flowEntry :: membersTokens (other :: members) := rfl
      rw [split, List.append_assoc] at cut
      refine gives_member cut fun rest ends => ?_
      obtain ⟨start, stop, rest, rfl, behindComma⟩ := placed_cons ends
      exact @ih (by simp) false start stop rest behindComma

/-- A text of members between braces holds the mapping of them, or no document that is complete and
stands alone. -/
theorem ofText_membersText {members : List Member} (notEmpty : members ≠ []) :
    ((Document.ofText ('\x7b' :: membersText members)).complete &&
        (Document.ofText ('\x7b' :: membersText members)).alone) = false ∨
      (Document.ofText ('\x7b' :: membersText members)).Tells
        (.mappingStart none :: entryEvents (members.map Member.pair)) := by
  rcases tokens_membersText notEmpty with broken | ⟨-, cut⟩
  · exact .inl (Document.ofText_broken broken)
  · obtain ⟨start, stop, rest, same, behind⟩ := placed_cons cut
    have gives := @gives_members members notEmpty true start stop rest behind
      (4 * rest.length + 10)
    rw [ofText_opening (.inr ⟨rfl, rfl⟩) same]
    refine gives.imp (fun incomplete => ?_) fun tells =>
      tells.cons ⟨.mappingStart none, start, none, false⟩
    exact Bool.and_eq_false_imp.mpr fun complete => absurd (incomplete.symm.trans complete) (by simp)

end Codebook.Yaml
