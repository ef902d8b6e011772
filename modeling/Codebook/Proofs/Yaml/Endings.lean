import Codebook.Proofs.Yaml.Steps
import Codebook.Yaml.Event

/-!
# No document without its end

A document is read from the tokens of its text. Steps take tokens from the front and never make up one,
and the end of the text is given for its token only. So a text that was not cut to its end is no
document that is complete and stands alone, whatever else its tokens are.

There is one law for each way to take a step, since each of them may give an event of its own.
-/

namespace Codebook.Yaml

/-! ## States and steps -/

/-- A state without the end among its tokens. -/
def Reading.Endless (reading : Reading) : Prop :=
  .streamEnd ∉ reading.tokens.map Placed.token

/-- A step that is not the end, and after which it will not come. -/
def Step.Endless (step : Step) : Prop :=
  ∀ happening after, step = some (happening, after) → happening.event ≠ .streamEnd ∧ after.Endless

section Endless

variable {reading : Reading}

/-- A state with fewer tokens. -/
theorem Reading.Endless.sublist {other : Reading} (endless : reading.Endless)
    (fewer : other.tokens.Sublist reading.tokens) : other.Endless := by
  intro member
  exact endless ((fewer.map Placed.token).subset member)

theorem Reading.Endless.drop (endless : reading.Endless) : reading.drop.Endless :=
  endless.sublist (List.tail_sublist _)

theorem Reading.Endless.later (endless : reading.Endless) (phase : Phase) :
    (reading.later phase).Endless :=
  endless

theorem Reading.Endless.back (endless : reading.Endless) : reading.back.Endless := by
  unfold Reading.back
  cases reading.stack <;> exact endless

theorem Reading.Endless.next (endless : reading.Endless) {placed : Placed}
    (first : reading.next? = some placed) : placed.token ≠ .streamEnd := by
  intro isEnd
  refine endless (List.mem_map.mpr ⟨placed, List.mem_of_mem_head? ?_, isEnd⟩)
  exact first

theorem Step.endless_some {happening : Happening} {after : Reading}
    (notEnd : happening.event ≠ .streamEnd) (endless : after.Endless) :
    Step.Endless (some (happening, after)) := by
  rintro _ _ ⟨⟩
  exact ⟨notEnd, endless⟩

theorem Step.endless_none : Step.Endless none := by
  rintro _ _ ⟨⟩

theorem Step.endless_bind {α : Type} {found : Option α} {next : α → Step}
    (endless : ∀ a, found = some a → (next a).Endless) : Step.Endless (found.bind next) := by
  cases found with
  | none => exact endless_none
  | some a => exact endless a rfl

theorem Reading.Endless.give (endless : reading.Endless) {event : Event} (notEnd : event ≠ .streamEnd)
    (mark : Mark) : (reading.give event mark).Endless :=
  Step.endless_some notEnd endless

theorem Reading.Endless.properties (endless : reading.Endless) : reading.properties.2.Endless := by
  refine endless.sublist ?_
  unfold Reading.properties
  split <;> simp_all

/-! ## Nodes -/

theorem Reading.Endless.node (endless : reading.Endless) (block indentless : Bool) :
    (reading.node block indentless).Endless := by
  refine Step.endless_bind fun first _ => ?_
  split
  · exact endless.drop.back.give (by simp) first.start
  · have named := endless.properties
    generalize reading.properties = found at named ⊢
    obtain ⟨⟨anchor, written⟩, reading⟩ := found
    refine Step.endless_bind fun next _ => ?_
    cases written with
    | none | some _ =>
      refine Step.endless_bind fun tag _ => ?_
      -- Whatever the token is, the state after it has the same tokens or one less.
      have empty : Step.Endless (if anchor.isSome || tag.isSome then
          some (⟨.scalar "" .plain tag, first.start, anchor, false⟩, reading.back) else none) := by
        split
        · exact Step.endless_some (by simp) named.back
        · exact Step.endless_none
      split
      · split
        · exact Step.endless_some (by simp) named
        · exact empty
      · exact Step.endless_some (by simp) named.drop.back
      · exact Step.endless_some (by simp) named
      · exact Step.endless_some (by simp) named
      · split
        · exact Step.endless_some (by simp) named
        · exact empty
      · split
        · exact Step.endless_some (by simp) named
        · exact empty
      · exact empty

/-! ## Documents -/

/-- Directives are taken from the front. -/
theorem readDirectives_sublist {tokens : List Placed} {versioned : Bool}
    {handles found : List (String × TagText)} {rest : List Placed}
    (read : readDirectives versioned handles tokens = some (found, rest)) : rest.Sublist tokens := by
  fun_induction readDirectives versioned handles tokens with
  | case1 => cases read
  | case2 _ _ _ _ _ _ _ _ ih => exact (ih read).cons _
  | case3 => cases read
  | case4 _ _ _ _ _ _ _ _ ih => exact (ih read).cons _
  | case5 =>
    obtain ⟨-, rfl⟩ := Prod.mk.inj (Option.some.inj read)
    exact List.Sublist.refl _

theorem Reading.Endless.explicitDocument (endless : reading.Endless) :
    reading.explicitDocument.Endless := by
  refine Step.endless_bind fun first _ => Step.endless_bind fun (handles, rest) read => ?_
  have kept : Reading.Endless { reading with tokens := rest } :=
    endless.sublist (readDirectives_sublist read)
  dsimp only
  split
  · exact Step.endless_some (by simp) kept.drop
  · exact Step.endless_none

theorem Reading.Endless.document (endless : reading.Endless) (isFirst : Bool) :
    (reading.document isFirst).Endless := by
  have kept : Reading.Endless (if isFirst then reading
      else { reading with tokens := reading.tokens.dropWhile fun placed =>
        placed.token = .documentEnd }) := by
    split
    · exact endless
    · exact endless.sublist (List.dropWhile_sublist _)
  refine Step.endless_bind fun next isNext => ?_
  rw [if_neg (kept.next isNext)]
  split
  · exact Step.endless_some (by simp) kept
  · exact kept.explicitDocument

theorem Reading.Endless.giveEmpty (endless : reading.Endless) (mark : Mark) (phase : Phase) :
    (reading.giveEmpty mark phase).Endless :=
  Step.endless_some (by simp) endless

theorem Reading.Endless.nodeUnless (endless : reading.Endless) (absent : List Token) (block : Bool)
    (later : Phase) (mark : Mark) : (reading.nodeUnless absent block later mark).Endless := by
  refine Step.endless_bind fun next _ => ?_
  split
  · exact endless.giveEmpty mark later
  · exact (endless.later later).node block block

theorem Reading.Endless.close (endless : reading.Endless) {event : Event}
    (notEnd : event ≠ .streamEnd) (mark : Mark) : (reading.close event mark).Endless :=
  endless.drop.back.give notEnd mark

/-! ## Sequences and mappings -/

theorem Reading.Endless.blockSequence (endless : reading.Endless) :
    reading.blockSequence.Endless := by
  refine Step.endless_bind fun next _ => ?_
  split
  · refine Step.endless_bind fun after _ => ?_
    split
    · exact endless.drop.giveEmpty _ _
    · exact (endless.drop.later _).node _ _
  · exact endless.close (by simp) next.start
  · exact Step.endless_none

theorem Reading.Endless.indentlessSequence (endless : reading.Endless) :
    reading.indentlessSequence.Endless := by
  refine Step.endless_bind fun next _ => ?_
  split
  · refine Step.endless_bind fun after _ => ?_
    split
    · exact endless.drop.giveEmpty _ _
    · exact (endless.drop.later _).node _ _
  · exact endless.back.give (by simp) next.start

theorem Reading.Endless.blockKey (endless : reading.Endless) : reading.blockKey.Endless := by
  refine Step.endless_bind fun next _ => ?_
  split
  · exact endless.drop.nodeUnless _ _ _ _
  · exact endless.close (by simp) next.start
  · exact Step.endless_none

theorem Reading.Endless.blockValue (endless : reading.Endless) : reading.blockValue.Endless := by
  refine Step.endless_bind fun next _ => ?_
  split
  · exact endless.drop.nodeUnless _ _ _ _
  · exact endless.giveEmpty _ _

theorem Reading.Endless.afterComma (endless : reading.Endless) {first : Bool} {closing : Token}
    {after : Reading} (passed : reading.afterComma first closing = some after) : after.Endless := by
  obtain ⟨next, -, passed⟩ := Option.bind_eq_some_iff.mp passed
  split at passed
  · exact Option.some.inj passed ▸ endless
  · split at passed
    · exact Option.some.inj passed ▸ endless.drop
    · cases passed

theorem Reading.Endless.flowSequence (endless : reading.Endless) (first : Bool) :
    (reading.flowSequence first).Endless := by
  refine Step.endless_bind fun reading passed => Step.endless_bind fun next _ => ?_
  have endless := endless.afterComma passed
  split
  · exact endless.close (by simp) next.start
  · exact Step.endless_some (by simp) endless.drop
  · exact (endless.later _).node _ _

theorem Reading.Endless.pairKey (endless : reading.Endless) : reading.pairKey.Endless := by
  refine Step.endless_bind fun next _ => ?_
  split
  · exact endless.drop.giveEmpty _ _
  · exact (endless.later _).node _ _

theorem Reading.Endless.pairValue (endless : reading.Endless) : reading.pairValue.Endless := by
  refine Step.endless_bind fun next _ => ?_
  split
  · exact Step.endless_bind fun after _ => endless.drop.nodeUnless _ _ _ _
  · exact endless.giveEmpty _ _

theorem Reading.Endless.pairEnd (endless : reading.Endless) : reading.pairEnd.Endless :=
  Step.endless_bind fun _ _ => Step.endless_some (by simp) endless

theorem Reading.Endless.flowKey (endless : reading.Endless) (first : Bool) :
    (reading.flowKey first).Endless := by
  refine Step.endless_bind fun reading passed => Step.endless_bind fun next _ => ?_
  have endless := endless.afterComma passed
  split
  · exact endless.close (by simp) next.start
  · exact Step.endless_bind fun after _ => endless.drop.nodeUnless _ _ _ _
  · exact (endless.later _).node _ _

theorem Reading.Endless.flowValue (endless : reading.Endless) : reading.flowValue.Endless := by
  refine Step.endless_bind fun next _ => ?_
  split
  · exact Step.endless_bind fun after _ => endless.drop.nodeUnless _ _ _ _
  · exact endless.giveEmpty _ _

/-! ## Runs -/

/-- No step gives an end that is not there. -/
theorem Reading.Endless.step (endless : reading.Endless) : reading.step.Endless := by
  have kept (first : Bool) : (if first then reading.drop else reading).Endless := by
    cases first with
    | true => exact endless.drop
    | false => exact endless
  unfold Reading.step
  split
  · exact endless.document true
  · exact endless.document false
  · refine Step.endless_bind fun next _ => ?_
    split
    · exact endless.back.give (by simp) next.start
    · exact endless.node true false
  · refine Step.endless_bind fun next _ => ?_
    split
    · exact Step.endless_some (by simp) endless.drop
    · exact Step.endless_some (by simp) endless
  · exact endless.node true false
  · exact (kept _).blockSequence
  · exact endless.indentlessSequence
  · exact (kept _).blockKey
  · exact endless.blockValue
  · exact (kept _).flowSequence _
  · exact endless.pairKey
  · exact endless.pairValue
  · exact endless.pairEnd
  · exact (kept _).flowKey _
  · exact endless.flowValue
  · exact Step.endless_bind fun next _ => endless.giveEmpty _ _
  · exact Step.endless_none

theorem Reading.Endless.endsHere (endless : reading.Endless) : reading.endsHere = false := by
  unfold Reading.endsHere
  cases taken : reading.step with
  | none => rfl
  | some given => exact decide_eq_false (endless.step given.1 given.2 taken).1

/-- So a draft is not complete, or something else is expected behind its end. -/
theorem Reading.Endless.readDraft {fuel : Nat} :
    ∀ {reading : Reading} {anchors : List (String × Nat)}, reading.Endless →
      ((reading.readDraft anchors fuel).complete && (reading.readDraft anchors fuel).alone) = false := by
  induction fuel with
  | zero => exact fun _ => rfl
  | succ fuel ih =>
    intro reading anchors endless
    unfold Reading.readDraft
    cases taken : reading.step with
    | none => rfl
    | some given =>
      obtain ⟨happening, after⟩ := given
      obtain ⟨notEnd, endlessThen⟩ := endless.step happening after taken
      dsimp only
      split
      · exact ih endlessThen
      · exact endlessThen.endsHere
      · exact absurd ‹_› notEnd
      · split
        · rfl
        · exact ih endlessThen
      · split <;> exact ih endlessThen

end Endless

/-- A text that was not cut to its end is no document that is complete and stands alone. -/
theorem Document.ofText_broken {text : List Char} (broken : (tokens text).Broken) :
    ((Document.ofText text).complete && (Document.ofText text).alone) = false := by
  have endless : Reading.Endless ⟨(tokens text).tokens, .firstDocument, [], []⟩ := broken.noEnd
  exact endless.readDraft

end Codebook.Yaml
