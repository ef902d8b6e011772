import Mathlib.Data.List.Basic

/-!
# Patterns and their ways through a text

A pattern takes a start of a text. Often it may do so in several ways, and prefers some of them: the first
of two alternatives, one more pass of a repetition or one less. The ways are listed here in the order of
preference. A search that takes the preferred way first, and comes back for the next one when what follows
does not fit, goes through this list from its start, so what it finds is the first way.

What the ways of a pattern take does not depend on preferences. It is a class of texts, which is built up
as the pattern is.
-/

namespace Codebook

/-- Patterns. A repetition is eager, or it would rather end. What a part with a label takes is kept. -/
inductive Pattern (γ : Type) where
  | nothing
  | one (allowed : Char → Bool)
  | seq (first second : Pattern γ)
  | either (first second : Pattern γ)
  | repeated (eager : Bool) (body : Pattern γ)
  | labelled (label : γ) (body : Pattern γ)

namespace Pattern

variable {γ : Type}

/-- A way through a text: what is kept of it, and the rest of the text behind it. -/
@[ext]
structure Way (γ : Type) where
  kept : List (γ × List Char)
  rest : List Char
  deriving Repr, DecidableEq

/-- A way, and another one through what is left behind it. -/
def Way.join (first second : Way γ) : Way γ :=
  ⟨first.kept ++ second.kept, second.rest⟩

/-- The ways to repeat a step. A pass that takes nothing leads nowhere. -/
def repetitions (eager : Bool) (step : List Char → List (Way γ)) (text : List Char) :
    List (Way γ) :=
  let more := (step text).flatMap fun way =>
    if _shorter : way.rest.length < text.length then
      (repetitions eager step way.rest).map way.join
    else []
  if eager then more ++ [⟨[], text⟩] else ⟨[], text⟩ :: more
termination_by text.length

/-- The ways of a pattern through a text, the preferred ones first. -/
def ways : Pattern γ → List Char → List (Way γ)
  | nothing, text => [⟨[], text⟩]
  | one _, [] => []
  | one allowed, c :: rest => if allowed c then [⟨[], rest⟩] else []
  | seq first second, text =>
    (first.ways text).flatMap fun way => (second.ways way.rest).map way.join
  | either first second, text => first.ways text ++ second.ways text
  | repeated eager body, text => repetitions eager body.ways text
  | labelled label body, text =>
    (body.ways text).map fun way =>
      ⟨(label, text.take (text.length - way.rest.length)) :: way.kept, way.rest⟩

/-- What a search that comes back finds first. -/
def first? (pattern : Pattern γ) (text : List Char) : Option (Way γ) :=
  (pattern.ways text).head?

/-- All that a search finds in a text, one after the other. Where nothing is found it goes on at the next
character. -/
def findAll (pattern : Pattern γ) (text : List Char) : List (Way γ) :=
  match text with
  | [] => []
  | c :: rest =>
    match pattern.first? (c :: rest) with
    | none => pattern.findAll rest
    | some way =>
      if _shorter : way.rest.length < (c :: rest).length then way :: pattern.findAll way.rest
      else pattern.findAll rest
termination_by text.length
decreasing_by
  · exact Nat.lt_succ_self _
  · exact _shorter
  · exact Nat.lt_succ_self _

/-- A certain character. -/
def sign (c : Char) : Pattern γ :=
  one (· == c)

/-- As often as possible. -/
def many (body : Pattern γ) : Pattern γ :=
  repeated true body

/-- As often as possible, and at least once. -/
def oneOrMore (body : Pattern γ) : Pattern γ :=
  seq body (many body)

/-- As rarely as possible. -/
def few (body : Pattern γ) : Pattern γ :=
  repeated false body

/-- A certain number of times. -/
def times (body : Pattern γ) : Nat → Pattern γ
  | 0 => nothing
  | count + 1 => seq body (body.times count)

/-! ## What is among the ways -/

variable {first second body : Pattern γ} {text : List Char} {way : Way γ}

theorem mem_ways_nothing : way ∈ (nothing : Pattern γ).ways text ↔ way = ⟨[], text⟩ := by
  simp [ways]

theorem mem_ways_one {allowed : Char → Bool} :
    way ∈ (one allowed : Pattern γ).ways text ↔
      way.kept = [] ∧ ∃ c, allowed c = true ∧ text = c :: way.rest := by
  cases text with
  | nil => simp [ways]
  | cons c rest =>
    by_cases inside : allowed c = true
    · simp [ways, inside, Way.ext_iff, @eq_comm _ rest]
    · have outside : ∀ d, allowed d = true → c ≠ d := by
        rintro d allowedHere rfl
        exact inside allowedHere
      simp only [ways, inside, Bool.false_eq_true, if_false, List.not_mem_nil, List.cons.injEq,
        false_iff]
      rintro ⟨-, d, allowedHere, same, -⟩
      exact outside d allowedHere same

theorem mem_ways_seq :
    way ∈ (seq first second).ways text ↔
      ∃ front ∈ first.ways text, ∃ behind ∈ second.ways front.rest, front.join behind = way := by
  simp [ways]

theorem mem_ways_either :
    way ∈ (either first second).ways text ↔ way ∈ first.ways text ∨ way ∈ second.ways text := by
  simp [ways]

theorem mem_ways_repeated {eager : Bool} :
    way ∈ (repeated eager body).ways text ↔
      way = ⟨[], text⟩ ∨ ∃ front ∈ body.ways text, front.rest.length < text.length ∧
        ∃ behind ∈ (repeated eager body).ways front.rest, front.join behind = way := by
  rw [ways, repetitions]
  simp only [ways]
  cases eager <;> simp [or_comm]

/-! ## What the ways take -/

/-- The ways of a pattern take the texts of a class, and nothing is kept of them. -/
def Spells (pattern : Pattern γ) (texts : List Char → Prop) : Prop :=
  ∀ text way, way ∈ pattern.ways text ↔
    way.kept = [] ∧ ∃ taken, texts taken ∧ text = taken ++ way.rest

variable {texts firstTexts secondTexts : List Char → Prop}

theorem Spells.congr {other : List Char → Prop} (spells : first.Spells texts)
    (same : ∀ text, texts text ↔ other text) : first.Spells other := by
  rwa [show other = texts from funext fun text => propext (same text).symm]

theorem spells_nothing : (nothing : Pattern γ).Spells (· = []) := by
  intro text way
  rw [mem_ways_nothing]
  simp [Way.ext_iff, @eq_comm _ text]

theorem spells_one (allowed : Char → Bool) :
    (one allowed : Pattern γ).Spells fun taken => ∃ c, allowed c = true ∧ taken = [c] := by
  intro text way
  rw [mem_ways_one]
  simp

/-- What nothing is kept of only shortens the text for what follows. -/
theorem Spells.mem_seq (spells : first.Spells texts) :
    way ∈ (seq first second).ways text ↔
      ∃ taken rest, texts taken ∧ text = taken ++ rest ∧ way ∈ second.ways rest := by
  rw [mem_ways_seq]
  constructor
  · rintro ⟨⟨kept, rest⟩, inFirst, behind, inSecond, rfl⟩
    obtain ⟨rfl, taken, inTexts, rfl⟩ := (spells _ _).mp inFirst
    exact ⟨taken, rest, inTexts, rfl, inSecond⟩
  · rintro ⟨taken, rest, inTexts, rfl, inSecond⟩
    exact ⟨⟨[], rest⟩, (spells _ _).mpr ⟨rfl, taken, inTexts, rfl⟩, way, inSecond, rfl⟩

/-- What has a label is kept, as it is taken. -/
theorem Spells.mem_labelled (spells : body.Spells texts) (label : γ) :
    way ∈ (labelled label body).ways text ↔
      ∃ taken, texts taken ∧ text = taken ++ way.rest ∧ way.kept = [(label, taken)] := by
  simp only [ways, List.mem_map]
  constructor
  · rintro ⟨⟨kept, rest⟩, inBody, rfl⟩
    obtain ⟨rfl, taken, inTexts, rfl⟩ := (spells _ _).mp inBody
    exact ⟨taken, inTexts, rfl, by simp⟩
  · rintro ⟨taken, inTexts, rfl, kept⟩
    exact ⟨⟨[], way.rest⟩, (spells _ _).mpr ⟨rfl, taken, inTexts, rfl⟩,
      Way.ext (by simp [kept]) rfl⟩

theorem Spells.mem_labelled_seq (spells : first.Spells texts) (label : γ) :
    way ∈ (seq (labelled label first) second).ways text ↔
      ∃ taken rest, texts taken ∧ text = taken ++ rest ∧
        ∃ behind ∈ second.ways rest, way = ⟨(label, taken) :: behind.kept, behind.rest⟩ := by
  rw [mem_ways_seq]
  simp only [spells.mem_labelled]
  constructor
  · rintro ⟨⟨kept, rest⟩, ⟨taken, inTexts, rfl, rfl⟩, behind, inSecond, rfl⟩
    exact ⟨taken, rest, inTexts, rfl, behind, inSecond, rfl⟩
  · rintro ⟨taken, rest, inTexts, rfl, behind, inSecond, rfl⟩
    exact ⟨⟨[(label, taken)], rest⟩, ⟨taken, inTexts, rfl, rfl⟩, behind, inSecond, rfl⟩

theorem Spells.seq (spells : first.Spells firstTexts) (spellsSecond : second.Spells secondTexts) :
    (first.seq second).Spells fun taken =>
      ∃ front behind, firstTexts front ∧ secondTexts behind ∧ taken = front ++ behind := by
  intro text way
  rw [spells.mem_seq]
  constructor
  · rintro ⟨front, rest, inFirst, rfl, inSecond⟩
    obtain ⟨keptNothing, behind, inBehind, rfl⟩ := (spellsSecond _ _).mp inSecond
    exact ⟨keptNothing, _, ⟨front, behind, inFirst, inBehind, rfl⟩, (List.append_assoc _ _ _).symm⟩
  · rintro ⟨keptNothing, _, ⟨front, behind, inFirst, inBehind, rfl⟩, rfl⟩
    exact ⟨front, behind ++ way.rest, inFirst, List.append_assoc _ _ _,
      (spellsSecond _ _).mpr ⟨keptNothing, behind, inBehind, rfl⟩⟩

theorem Spells.either (spells : first.Spells firstTexts) (spellsSecond : second.Spells secondTexts) :
    (first.either second).Spells fun taken => firstTexts taken ∨ secondTexts taken := by
  intro text way
  rw [mem_ways_either, spells, spellsSecond]
  simp only [or_and_right, exists_or, ← and_or_left]

/-- A repetition takes any number of texts that its body takes, one after the other. The induction is on
the length of the text, which every pass makes shorter. -/
theorem Spells.repeated (spells : body.Spells texts) (notEmpty : ¬ texts []) (eager : Bool) :
    (body.repeated eager).Spells fun taken =>
      ∃ parts : List (List Char), (∀ part ∈ parts, texts part) ∧ taken = parts.flatten := by
  intro text way
  constructor
  · intro member
    induction length : text.length using Nat.strongRecOn generalizing text way with
    | ind length ih =>
      subst length
      rcases mem_ways_repeated.mp member with rfl | ⟨front, inBody, shorter, behind, goesOn, rfl⟩
      · exact ⟨rfl, [], ⟨[], by simp, rfl⟩, rfl⟩
      · obtain ⟨keptNothing, first, inTexts, cut⟩ := (spells _ _).mp inBody
        obtain ⟨keptNone, _, ⟨parts, allParts, rfl⟩, rest⟩ :=
          ih _ shorter _ _ goesOn rfl
        refine ⟨by simp [Way.join, keptNothing, keptNone], _,
          ⟨first :: parts, List.forall_mem_cons.mpr ⟨inTexts, allParts⟩, rfl⟩, ?_⟩
        rw [cut, rest, List.flatten_cons, List.append_assoc]
        rfl
  · rintro ⟨keptNothing, _, ⟨parts, allParts, rfl⟩, cut⟩
    induction parts generalizing text with
    | nil => exact mem_ways_repeated.mpr (.inl (Way.ext keptNothing cut.symm))
    | cons part parts ih =>
      obtain ⟨inTexts, others⟩ := List.forall_mem_cons.mp allParts
      rw [List.flatten_cons, List.append_assoc] at cut
      have partNotEmpty : part ≠ [] := fun empty => notEmpty (empty ▸ inTexts)
      refine mem_ways_repeated.mpr (.inr ⟨⟨[], parts.flatten ++ way.rest⟩,
        (spells _ _).mpr ⟨rfl, part, inTexts, cut⟩, ?_, way, ih _ others rfl, rfl⟩)
      have := List.length_pos_iff.mpr partNotEmpty
      simp only [cut, List.length_append]
      omega

/-- A repetition of single characters takes any run of them. -/
theorem spells_repeated_one (allowed : Char → Bool) (eager : Bool) :
    ((one allowed : Pattern γ).repeated eager).Spells fun taken => ∀ c ∈ taken, allowed c = true := by
  have notEmpty : ¬ ∃ c, allowed c = true ∧ ([] : List Char) = [c] := by simp
  refine ((spells_one allowed).repeated notEmpty eager).congr fun taken => ?_
  constructor
  · rintro ⟨parts, allParts, rfl⟩ c member
    obtain ⟨part, inParts, inPart⟩ := List.mem_flatten.mp member
    obtain ⟨d, allowedHere, rfl⟩ := allParts part inParts
    rwa [List.mem_singleton.mp inPart]
  · intro all
    have singles : taken = (taken.map fun c => [c]).flatten := by
      rw [← List.flatMap_def, List.flatMap_singleton']
    refine ⟨_, fun part member => ?_, singles⟩
    obtain ⟨c, inTaken, rfl⟩ := List.mem_map.mp member
    exact ⟨c, all c inTaken, rfl⟩

theorem spells_oneOrMore_one (allowed : Char → Bool) :
    (one allowed : Pattern γ).oneOrMore.Spells fun taken =>
      taken ≠ [] ∧ ∀ c ∈ taken, allowed c = true := by
  refine ((spells_one allowed).seq (spells_repeated_one allowed true)).congr fun taken => ?_
  constructor
  · rintro ⟨_, behind, ⟨c, allowedHere, rfl⟩, all, rfl⟩
    exact ⟨List.cons_ne_nil _ _, List.forall_mem_cons.mpr ⟨allowedHere, all⟩⟩
  · rintro ⟨notEmpty, all⟩
    obtain ⟨c, behind, rfl⟩ := List.exists_cons_of_ne_nil notEmpty
    obtain ⟨allowedHere, others⟩ := List.forall_mem_cons.mp all
    exact ⟨[c], behind, ⟨c, allowedHere, rfl⟩, others, rfl⟩

theorem spells_times_one (allowed : Char → Bool) (count : Nat) :
    ((one allowed : Pattern γ).times count).Spells fun taken =>
      taken.length = count ∧ ∀ c ∈ taken, allowed c = true := by
  induction count with
  | zero =>
    refine spells_nothing.congr fun taken => ?_
    constructor
    · rintro rfl
      simp
    · rintro ⟨empty, -⟩
      exact List.eq_nil_of_length_eq_zero empty
  | succ count ih =>
    refine ((spells_one allowed).seq ih).congr fun taken => ?_
    constructor
    · rintro ⟨_, behind, ⟨c, allowedHere, rfl⟩, ⟨rfl, all⟩, rfl⟩
      exact ⟨rfl, List.forall_mem_cons.mpr ⟨allowedHere, all⟩⟩
    · rintro ⟨length, all⟩
      obtain ⟨c, behind, rfl⟩ := List.exists_cons_of_length_eq_add_one length
      obtain ⟨allowedHere, others⟩ := List.forall_mem_cons.mp all
      exact ⟨[c], behind, ⟨c, allowedHere, rfl⟩, ⟨Nat.succ.inj length, others⟩, rfl⟩

/-! ## What is found first -/

theorem Way.nothing_join (rest : List Char) : Way.join (⟨[], rest⟩ : Way γ) = id :=
  funext fun _ => rfl

/-- One more pass through a character is tried before the end of an eager repetition, and after the end of
any other one. -/
theorem ways_repeated_one (eager : Bool) (allowed : Char → Bool) (c : Char) (rest : List Char) :
    ((one allowed : Pattern γ).repeated eager).ways (c :: rest) =
      let more := if allowed c then ((one allowed).repeated eager).ways rest else []
      if eager then more ++ [⟨[], c :: rest⟩] else ⟨[], c :: rest⟩ :: more := by
  rw [ways, repetitions]
  by_cases inside : allowed c = true <;> simp [ways, inside, Way.nothing_join]

theorem ways_repeated_nil (eager : Bool) : (body.repeated eager).ways [] = [⟨[], []⟩] := by
  rw [ways, repetitions]
  cases eager <;> simp

theorem first?_eq_none_iff : first.first? text = none ↔ ∀ way, way ∉ first.ways text :=
  List.head?_eq_none_iff.trans List.eq_nil_iff_forall_not_mem

theorem first?_either :
    (either first second).first? text = (first.first? text).or (second.first? text) := by
  simp only [first?, ways, List.head?_append]

theorem findAll_of_first? {c : Char} {rest : List Char} (found : first.first? (c :: rest) = some way)
    (shorter : way.rest.length < (c :: rest).length) :
    first.findAll (c :: rest) = way :: first.findAll way.rest := by
  rw [findAll, found]
  exact dif_pos shorter

theorem findAll_of_none {c : Char} {rest : List Char} (none : first.first? (c :: rest) = none) :
    first.findAll (c :: rest) = first.findAll rest := by
  rw [findAll, none]

theorem first?_labelled (label : γ) :
    (labelled label body).first? text =
      (body.first? text).map fun way =>
        ⟨(label, text.take (text.length - way.rest.length)) :: way.kept, way.rest⟩ := by
  simp only [first?, ways, List.head?_map]

theorem first?_one_seq (allowed : Char → Bool) (c : Char) (rest : List Char) :
    ((one allowed).seq second).first? (c :: rest) =
      if allowed c then second.first? rest else none := by
  by_cases inside : allowed c = true <;> simp [first?, ways, inside, Way.nothing_join]

/-- The longest run of characters is preferred. -/
theorem first?_many_one (allowed : Char → Bool) (text : List Char) :
    (one allowed : Pattern γ).many.first? text = some ⟨[], text.dropWhile allowed⟩ := by
  induction text with
  | nil => simp [first?, many, ways_repeated_nil]
  | cons c rest ih =>
    rw [first?, many] at ih
    by_cases inside : allowed c = true <;> simp [first?, many, ways_repeated_one, inside, ih]

/-- The shortest run of characters is preferred, if the rest of the pattern is there behind it. -/
theorem first?_few_seq (allowed : Char → Bool) (c : Char) (rest : List Char) :
    ((one allowed).few.seq second).first? (c :: rest) =
      (second.first? (c :: rest)).or
        (if allowed c then ((one allowed).few.seq second).first? rest else none) := by
  by_cases inside : allowed c = true <;>
    simp [first?, few, ways, ways_repeated_one, inside, Way.nothing_join]

theorem first?_few_seq_nil (allowed : Char → Bool) :
    ((one allowed).few.seq second).first? [] = second.first? [] := by
  simp [first?, few, ways, ways_repeated_nil, Way.nothing_join]

end Pattern

end Codebook
