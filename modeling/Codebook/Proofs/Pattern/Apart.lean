import Codebook.Proofs.Pattern.Ways
import Mathlib.Data.List.Pairwise

/-!
# Patterns that are not there at once

What a pattern starts with is often enough to tell it from another one. Where two patterns go on behind
the same character, what they go on with has to tell them apart.
-/

namespace Codebook.Pattern

variable {γ : Type} {first second third body : Pattern γ} {opening others : Char → Prop}
  {text : List Char}

/-- A text that starts with one of these characters. -/
def StartsWith (opening : Char → Prop) (text : List Char) : Prop :=
  ∃ c rest, text = c :: rest ∧ opening c

theorem StartsWith.mono {more : Char → Prop} (starts : StartsWith opening text)
    (wider : ∀ c, opening c → more c) : StartsWith more text := by
  obtain ⟨c, rest, same, here⟩ := starts
  exact ⟨c, rest, same, wider c here⟩

/-- All that the pattern takes a start of starts with one of these characters. -/
def Opens (pattern : Pattern γ) (opening : Char → Prop) : Prop :=
  ∀ text, ∀ way ∈ pattern.ways text, StartsWith opening text

/-- A pattern can take a start of a text and leave a rest that may follow. -/
def Leads (pattern : Pattern γ) (follows : List Char → Prop) (text : List Char) : Prop :=
  ∃ way ∈ pattern.ways text, follows way.rest

theorem opens_one (allowed : Char → Bool) : (one allowed : Pattern γ).Opens (allowed · = true) := by
  intro text way member
  obtain ⟨-, c, inside, same⟩ := mem_ways_one.mp member
  exact ⟨c, way.rest, same, inside⟩

theorem opens_sign (c : Char) : (sign c : Pattern γ).Opens (· = c) := by
  intro text way member
  exact (opens_one _ text way member).mono fun d same => beq_iff_eq.mp same

theorem Opens.mono {more : Char → Prop} (opens : first.Opens opening)
    (wider : ∀ c, opening c → more c) : first.Opens more :=
  fun text way member => (opens text way member).mono wider

theorem Opens.seq (opens : first.Opens opening) (second : Pattern γ) :
    (first.seq second).Opens opening := by
  intro text way member
  obtain ⟨front, inFirst, -⟩ := mem_ways_seq.mp member
  exact opens text front inFirst

theorem Opens.either (opens : first.Opens opening) (opensSecond : second.Opens opening) :
    (first.either second).Opens opening := by
  intro text way member
  rcases mem_ways_either.mp member with inFirst | inSecond
  · exact opens text way inFirst
  · exact opensSecond text way inSecond

theorem Opens.labelled (opens : body.Opens opening) (label : γ) :
    (body.labelled label).Opens opening := by
  intro text way member
  obtain ⟨inner, inBody, -⟩ := List.mem_map.mp member
  exact opens text inner inBody

/-- A repetition leads through one more pass, or is left out. -/
theorem Opens.many_leads (opens : body.Opens opening)
    (leads : body.many.Leads (StartsWith others) text) :
    StartsWith (fun c => opening c ∨ others c) text := by
  obtain ⟨way, member, starts⟩ := leads
  rcases mem_ways_repeated.mp member with rfl | ⟨pass, inBody, -⟩
  · exact starts.mono fun c => .inr
  · exact (opens text pass inBody).mono fun c => .inl

theorem Opens.many_seq (opens : body.Opens opening) (opensSecond : second.Opens others) :
    (body.many.seq second).Opens fun c => opening c ∨ others c := by
  intro text way member
  obtain ⟨front, inMany, behind, inSecond, rfl⟩ := mem_ways_seq.mp member
  exact opens.many_leads ⟨front, inMany, opensSecond _ behind inSecond⟩

/-! ## Apart -/

/-- There is no text that both patterns take a start of. -/
def Apart (first second : Pattern γ) : Prop :=
  ∀ text, first.ways text = [] ∨ second.ways text = []

instance : Std.Symm (Apart (γ := γ)) where
  symm _ _ apart text := (apart text).symm

/-- A pattern is not there where other characters are. -/
theorem Opens.ways_eq_nil (opens : first.Opens opening) (starts : StartsWith others text)
    (disjoint : ∀ c, opening c → ¬ others c) : first.ways text = [] := by
  refine List.eq_nil_iff_forall_not_mem.mpr fun way member => ?_
  obtain ⟨c, rest, rfl, there⟩ := starts
  obtain ⟨d, tail, same, here⟩ := opens _ way member
  obtain ⟨rfl, -⟩ := List.cons.inj same
  exact disjoint c here there

/-- Patterns are apart if what they start with is. -/
theorem Opens.apart (opens : first.Opens opening) (opensSecond : second.Opens others)
    (disjoint : ∀ c, opening c → ¬ others c) : first.Apart second := by
  intro text
  by_cases there : second.ways text = []
  · exact .inr there
  · obtain ⟨way, member⟩ := List.exists_mem_of_ne_nil _ there
    exact .inl (opens.ways_eq_nil (opensSecond text way member) disjoint)

/-- Patterns are apart behind the same character. -/
theorem Apart.behind_one (apart : first.Apart second) (allowed : Char → Bool) :
    ((one allowed).seq first).Apart ((one allowed).seq second) := by
  intro text
  cases text with
  | nil => exact .inl rfl
  | cons c rest => by_cases inside : allowed c = true <;> simp [ways, inside, apart rest]

theorem Apart.either (apart : first.Apart second) (apartThird : first.Apart third) :
    first.Apart (second.either third) := by
  intro text
  rw [ways, List.append_eq_nil_iff]
  rcases apart text with none | none
  · exact .inl none
  · exact (apartThird text).imp_right fun alsoNone => ⟨none, alsoNone⟩

theorem Apart.labelled (apart : first.Apart second) (label : γ) :
    (first.labelled label).Apart second :=
  fun text => (apart text).imp_left fun none => by simp [ways, none]

theorem Apart.labelled_right (apart : first.Apart second) (label : γ) :
    first.Apart (second.labelled label) :=
  Std.Symm.symm _ _ ((Std.Symm.symm _ _ apart).labelled label)

/-! ## The order of alternatives -/

theorem first?_alternatives (alternatives : List (Pattern γ)) (last : Pattern γ) (text : List Char) :
    (alternatives.foldr Pattern.either last).first? text =
      alternatives.foldr (fun pattern found => (pattern.first? text).or found) (last.first? text) := by
  induction alternatives with
  | nil => rfl
  | cons pattern alternatives ih => rw [List.foldr_cons, first?_either, ih, List.foldr_cons]

theorem Apart.or_comm (apart : first.Apart second) (text : List Char) (found : Option (Way γ)) :
    (first.first? text).or ((second.first? text).or found) =
      (second.first? text).or ((first.first? text).or found) := by
  rcases apart text with none | none <;> simp [first?, none]

/-- Of alternatives that are not there at once it does not matter which one is preferred. -/
theorem first?_of_perm {alternatives order : List (Pattern γ)} (apart : alternatives.Pairwise Apart)
    (perm : order.Perm alternatives) (last : Pattern γ) (text : List Char) :
    (order.foldr Pattern.either last).first? text =
      (alternatives.foldr Pattern.either last).first? text := by
  rw [first?_alternatives, first?_alternatives]
  refine (perm.symm.foldr_eq' (fun first inAll second alsoInAll found => ?_) _).symm
  by_cases same : first = second
  · rw [same]
  · exact (apart.forall alsoInAll inAll (Ne.symm same)).or_comm text found

end Codebook.Pattern
