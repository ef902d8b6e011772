/-!
# Occurrences of a pattern in a text

The occurrences of a pattern are found from left to right and never overlap: the search goes on
behind the occurrence found last. Cutting a text at the occurrences, counting them and putting
something in their place are three walks through the text, each on its own. The empty pattern
occurs at every boundary between characters, the two ends included.
-/

namespace Codebook.Text

/-- What follows `pattern` at the start of `text`, if the text starts with it. -/
def stripPrefix? : (pattern text : List Char) → Option (List Char)
  | [], text => some text
  | _ :: _, [] => none
  | p :: pattern, c :: text => if p = c then stripPrefix? pattern text else none

/-- The rest after a pattern is shorter by the pattern's length. -/
theorem stripPrefix?_length {pattern text rest : List Char}
    (found : stripPrefix? pattern text = some rest) :
    rest.length + pattern.length = text.length := by
  induction pattern generalizing text with
  | nil => simp_all [stripPrefix?]
  | cons p pattern ih =>
    cases text with
    | nil => simp [stripPrefix?] at found
    | cons c text =>
      by_cases same : p = c
      · simp only [stripPrefix?, same, if_true] at found
        have := ih found
        simp only [List.length_cons]
        omega
      · simp [stripPrefix?, same] at found

/-- What stands before the first occurrence of `pattern` in `text`, and what stands behind it. -/
def firstOccurrence? (pattern : List Char) : (text : List Char) → Option (List Char × List Char)
  | [] => (stripPrefix? pattern []).map fun rest => ([], rest)
  | c :: text =>
    match stripPrefix? pattern (c :: text) with
    | some rest => some ([], rest)
    | none => (firstOccurrence? pattern text).map fun (before, rest) => (c :: before, rest)

/-- What stands behind an occurrence is shorter by the pattern's length at least. -/
theorem firstOccurrence?_length {pattern text before rest : List Char}
    (found : firstOccurrence? pattern text = some (before, rest)) :
    rest.length + pattern.length ≤ text.length := by
  induction text generalizing before rest with
  | nil =>
    simp only [firstOccurrence?, Option.map_eq_some_iff] at found
    obtain ⟨behind, stripped, same⟩ := found
    obtain ⟨rfl, rfl⟩ := Prod.mk.inj same
    exact Nat.le_of_eq (stripPrefix?_length stripped)
  | cons c text ih =>
    simp only [firstOccurrence?] at found
    split at found
    · next behind stripped =>
      obtain ⟨rfl, rfl⟩ := Prod.mk.inj (Option.some.inj found)
      exact Nat.le_of_eq (stripPrefix?_length stripped)
    · obtain ⟨⟨ahead, behind⟩, later, same⟩ := Option.map_eq_some_iff.mp found
      obtain ⟨rfl, rfl⟩ := Prod.mk.inj same
      have := ih later
      simp only [List.length_cons]
      omega

/-- Behind an occurrence of a pattern that is not empty the text is shorter. -/
theorem firstOccurrence?_shorter {p : Char} {ps text before rest : List Char}
    (found : firstOccurrence? (p :: ps) text = some (before, rest)) :
    rest.length < text.length := by
  have := firstOccurrence?_length found
  simp only [List.length_cons] at this
  omega

/-- The pieces of `text` between the occurrences of the pattern `p :: ps`. -/
def piecesFrom (p : Char) (ps text : List Char) : List (List Char) :=
  match _found : firstOccurrence? (p :: ps) text with
  | some (before, rest) => before :: piecesFrom p ps rest
  | none => [text]
termination_by text.length
decreasing_by exact firstOccurrence?_shorter _found

/-- The pieces of `text` between the occurrences of `pattern`. There is one piece more than
    there are occurrences. -/
def pieces (pattern text : List Char) : List (List Char) :=
  match pattern with
  | [] => [] :: (text.map fun c => [c]) ++ [[]]
  | p :: ps => piecesFrom p ps text

/-- The number of occurrences of the pattern `p :: ps` in `text`. -/
def countFrom (p : Char) (ps text : List Char) : Nat :=
  match _found : firstOccurrence? (p :: ps) text with
  | some (_, rest) => countFrom p ps rest + 1
  | none => 0
termination_by text.length
decreasing_by exact firstOccurrence?_shorter _found

/-- The number of occurrences of `pattern` in `text`. -/
def occurrences (pattern text : List Char) : Nat :=
  match pattern with
  | [] => text.length + 1
  | p :: ps => countFrom p ps text

/-- The text with `replacement` in place of every occurrence of the pattern `p :: ps`. -/
def replaceFrom (p : Char) (ps replacement text : List Char) : List Char :=
  match _found : firstOccurrence? (p :: ps) text with
  | some (before, rest) => before ++ replacement ++ replaceFrom p ps replacement rest
  | none => text
termination_by text.length
decreasing_by exact firstOccurrence?_shorter _found

/-- The text with `replacement` in place of every occurrence of `pattern`. -/
def replaceAll (pattern replacement text : List Char) : List Char :=
  match pattern with
  | [] => replacement ++ text.flatMap fun c => c :: replacement
  | p :: ps => replaceFrom p ps replacement text

end Codebook.Text
