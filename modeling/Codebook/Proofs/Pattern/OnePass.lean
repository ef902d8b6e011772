import Codebook.Proofs.Pattern.Apart

/-!
# Reading a pattern in one pass

Instead of searching, a pattern can be read once from left to right: each repetition is taken as far as it
goes, of two alternatives the first one that is there, and nothing is tried again. What is found so is one
of the ways of the pattern, but it need not be the first of them, and it may miss all of them: what was
taken too far is not given back.

Nothing is missed where what may follow a part never looks as if the part went on. Each law below says so
for one kind of pattern. A pattern that is sure whatever follows has one way at most.
-/

namespace Codebook.Pattern

variable {γ : Type}

/-- A step that is taken as often as it is there. -/
def repeatOnce (step : List Char → Option (Way γ)) (text : List Char) : Way γ :=
  match step text with
  | none => ⟨[], text⟩
  | some way =>
    if _shorter : way.rest.length < text.length then way.join (repeatOnce step way.rest)
    else ⟨[], text⟩
termination_by text.length

/-- What a pattern takes in one pass. -/
def once? : Pattern γ → List Char → Option (Way γ)
  | nothing, text => some ⟨[], text⟩
  | one _, [] => none
  | one allowed, c :: rest => if allowed c then some ⟨[], rest⟩ else none
  | seq first second, text => do
    let front ← first.once? text
    let behind ← second.once? front.rest
    return front.join behind
  | either first second, text => (first.once? text).or (second.once? text)
  | repeated eager body, text => some (if eager then repeatOnce body.once? text else ⟨[], text⟩)
  | labelled label body, text => do
    let way ← body.once? text
    return ⟨(label, text.take (text.length - way.rest.length)) :: way.kept, way.rest⟩

variable {first second body : Pattern γ} {text : List Char} {way : Way γ}

theorem repeatOnce_mem (sound : ∀ {text way}, body.once? text = some way → way ∈ body.ways text)
    (text : List Char) : repeatOnce body.once? text ∈ body.many.ways text := by
  fun_induction repeatOnce body.once? text with
  | case1 text none => exact mem_ways_repeated.mpr (.inl rfl)
  | case2 text way found shorter ih =>
    exact mem_ways_repeated.mpr (.inr ⟨way, sound found, shorter, _, ih, rfl⟩)
  | case3 text way found notShorter => exact mem_ways_repeated.mpr (.inl rfl)

/-- What is found in one pass is a way of the pattern. -/
theorem mem_ways_of_once? (found : first.once? text = some way) : way ∈ first.ways text := by
  induction first generalizing text way with
  | nothing =>
    obtain rfl := Option.some.inj found
    exact mem_ways_nothing.mpr rfl
  | one allowed =>
    cases text with
    | nil => cases found
    | cons c rest =>
      simp only [once?, Option.ite_none_right_eq_some, Option.some.injEq] at found
      obtain ⟨inside, rfl⟩ := found
      exact mem_ways_one.mpr ⟨rfl, c, inside, rfl⟩
  | seq first second firstIh secondIh =>
    simp only [once?, bind, Option.bind_eq_some_iff, pure, Option.some.injEq] at found
    obtain ⟨front, foundFirst, behind, foundSecond, rfl⟩ := found
    exact mem_ways_seq.mpr ⟨front, firstIh foundFirst, behind, secondIh foundSecond, rfl⟩
  | either first second firstIh secondIh =>
    rcases Option.or_eq_some_iff.mp found with foundFirst | ⟨-, foundSecond⟩
    · exact mem_ways_either.mpr (.inl (firstIh foundFirst))
    · exact mem_ways_either.mpr (.inr (secondIh foundSecond))
  | repeated eager body ih =>
    cases eager with
    | false =>
      obtain rfl := Option.some.inj found
      exact mem_ways_repeated.mpr (.inl rfl)
    | true =>
      obtain rfl := Option.some.inj found
      exact repeatOnce_mem ih text
  | labelled label body ih =>
    simp only [once?, bind, Option.bind_eq_some_iff, pure, Option.some.injEq] at found
    obtain ⟨inner, foundInner, rfl⟩ := found
    exact List.mem_map.mpr ⟨inner, ih foundInner, rfl⟩

-- The other way round does not hold: the last character is taken by the repetition, and not given back.
example : ((sign 'a').many.seq (sign 'a') : Pattern Unit).once? ['a', 'a'] = none ∧
    ((sign 'a').many.seq (sign 'a') : Pattern Unit).first? ['a', 'a'] = some ⟨[], []⟩ := by
  constructor
  · cbv
  · cbv

/-- Where a pattern has no way, nothing is found. -/
theorem once?_eq_none (noWay : first.ways text = []) : first.once? text = none := by
  refine Option.eq_none_iff_forall_ne_some.mpr fun way found => ?_
  have member := mem_ways_of_once? found
  rw [noWay] at member
  cases member

/-! ## Sure patterns -/

/-- Of the ways of a pattern, those that leave a rest which may follow are what one pass takes. -/
def Sure (pattern : Pattern γ) (follows : List Char → Prop) : Prop :=
  ∀ text, ∀ way ∈ pattern.ways text, follows way.rest → pattern.once? text = some way

variable {follows : List Char → Prop} {opening others : Char → Prop}

theorem Sure.mono {narrower : List Char → Prop} (sure : first.Sure follows)
    (narrow : ∀ rest, narrower rest → follows rest) : first.Sure narrower :=
  fun text way member here => sure text way member (narrow _ here)

theorem sure_nothing : (nothing : Pattern γ).Sure follows := by
  intro text way member _
  rw [mem_ways_nothing.mp member]
  rfl

theorem sure_one (allowed : Char → Bool) : (one allowed : Pattern γ).Sure follows := by
  rintro _ ⟨kept, rest⟩ member -
  obtain ⟨rfl, c, inside, rfl⟩ := mem_ways_one.mp member
  exact if_pos inside

/-- A pattern in front has to be sure before all that the one behind leads through. -/
theorem Sure.seq (sureFirst : first.Sure (second.Leads follows)) (sureSecond : second.Sure follows) :
    (first.seq second).Sure follows := by
  intro text way member here
  obtain ⟨front, inFirst, behind, inSecond, rfl⟩ := mem_ways_seq.mp member
  have foundFirst := sureFirst text front inFirst ⟨behind, inSecond, here⟩
  have foundSecond := sureSecond _ behind inSecond here
  simp [once?, foundFirst, foundSecond]

/-- Of two alternatives that are not there at once, each is taken where it is there. -/
theorem Sure.either (sureFirst : first.Sure follows) (sureSecond : second.Sure follows)
    (apart : first.Apart second) : (first.either second).Sure follows := by
  intro text way member here
  rw [once?]
  rcases mem_ways_either.mp member with inFirst | inSecond
  · rw [sureFirst text way inFirst here, Option.some_or]
  · have notFirst : first.ways text = [] :=
      (apart text).resolve_right (List.ne_nil_of_mem inSecond)
    rw [once?_eq_none notFirst, Option.none_or, sureSecond text way inSecond here]

/-- A repetition is sure if each of its passes is, and no further one is there before what follows. The
induction is on the length of the text, which every pass makes shorter. -/
theorem Sure.many (sureBody : body.Sure (body.many.Leads follows))
    (ends : ∀ text, follows text → body.once? text = none) : body.many.Sure follows := by
  intro text way member here
  refine congrArg some ?_
  simp only [if_true]
  induction length : text.length using Nat.strongRecOn generalizing text way with
  | ind length ih =>
    subst length
    rw [repeatOnce]
    rcases mem_ways_repeated.mp member with rfl | ⟨front, inBody, shorter, behind, goesOn, rfl⟩
    · rw [ends text here]
    · rw [sureBody text front inBody ⟨behind, goesOn, here⟩]
      simp only [shorter, dif_pos]
      rw [ih _ shorter _ _ goesOn here rfl]

theorem Sure.labelled (sure : body.Sure follows) (label : γ) : (body.labelled label).Sure follows := by
  intro text way member here
  obtain ⟨inner, inBody, rfl⟩ := List.mem_map.mp member
  simp [once?, sure text inner inBody here]

section Anything

variable (sure : first.Sure fun _ => True)

include sure

/-- A pattern that is sure whatever follows has one way at most. -/
theorem Sure.unique {other : Way γ} (member : way ∈ first.ways text)
    (again : other ∈ first.ways text) : way = other :=
  Option.some.inj ((sure text way member trivial).symm.trans (sure text other again trivial))

/-- What a search finds first is then found in one pass. -/
theorem Sure.once?_eq_first? (text : List Char) : first.once? text = first.first? text := by
  rw [first?]
  cases ways : first.ways text with
  | nil => exact once?_eq_none ways
  | cons way others => exact sure text way (ways ▸ List.mem_cons_self) trivial

/-- Each of its ways is the first. -/
theorem Sure.first?_eq_some_iff : first.first? text = some way ↔ way ∈ first.ways text := by
  rw [← sure.once?_eq_first?]
  exact ⟨mem_ways_of_once?, fun member => sure text way member trivial⟩

end Anything

theorem sure_times_one (allowed : Char → Bool) (count : Nat) :
    ((one allowed : Pattern γ).times count).Sure follows := by
  induction count with
  | zero => exact sure_nothing
  | succ count ih => exact Sure.seq (sure_one allowed) ih

/-! ## Sure by the next character -/

/-- A pattern in front is sure if what may follow it is told by its first character. -/
theorem Sure.seq_opens (sureFirst : first.Sure (StartsWith opening)) (opens : second.Opens opening)
    (sureSecond : second.Sure follows) : (first.seq second).Sure follows := by
  refine Sure.seq (sureFirst.mono ?_) sureSecond
  rintro text ⟨way, member, -⟩
  exact opens text way member

section Repetition

variable (opens : body.Opens opening)

include opens

/-- A repetition is sure before characters that no pass starts with. -/
theorem Opens.sure_many (sureBody : body.Sure (StartsWith fun c => opening c ∨ others c))
    (disjoint : ∀ c, opening c → ¬ others c) : body.many.Sure (StartsWith others) := by
  refine Sure.many (sureBody.mono fun text leads => opens.many_leads leads) fun text starts => ?_
  exact once?_eq_none (opens.ways_eq_nil starts disjoint)

/-- What stands before a repetition has to be sure both before a pass and before what follows. -/
theorem Opens.sure_seq_many (sureFirst : first.Sure (StartsWith fun c => opening c ∨ others c))
    (sureMany : body.many.Sure (StartsWith others)) :
    (first.seq body.many).Sure (StartsWith others) :=
  Sure.seq (sureFirst.mono fun _ leads => opens.many_leads leads) sureMany

end Repetition

/-- Repeated characters are sure before other characters. -/
theorem sure_many_one {allowed : Char → Bool} (disjoint : ∀ c, allowed c = true → ¬ others c) :
    (one allowed : Pattern γ).many.Sure (StartsWith others) :=
  (opens_one allowed).sure_many (sure_one allowed) disjoint

end Codebook.Pattern
