import Codebook.Text.CaseTable

/-!
# Letter case

Capital and small forms of a text by the full case mappings of the Unicode standard. One
letter may become several characters, and the small form of a capital sigma depends on what
stands around it; nothing else depends on context, and nothing on a locale.
-/

namespace Codebook.Text

/-- The mapped form of a character: an expansion if it has one, else a shift, else itself. -/
def mapCase (expansions : List (Nat × List Nat)) (shifts : List CaseShift) (c : Char) :
    List Char :=
  match expansions.lookup c.toNat with
  | some codes => codes.map Char.ofNat
  | none =>
    match shifts.find? fun shift => shift.range.contains c.toNat with
    | some shift => [Char.ofNat (Int.toNat (c.toNat + shift.distance))]
    | none => [c]

/-- The capital form of a character. -/
def capitalForm (c : Char) : List Char :=
  if c.toNat < 0x80 then [c.toUpper] else mapCase capitalExpansions capitalShifts c

/-- The small form of a character that stands alone. -/
def smallForm (c : Char) : List Char :=
  if c.toNat < 0x80 then [c.toLower] else mapCase smallExpansions smallShifts c

/-- Has the property Lowercase. -/
def isSmall (c : Char) : Bool :=
  if c.toNat < 0x80 then c.isLower else inRanges smallRanges c

/-- Has the property Uppercase. -/
def isCapital (c : Char) : Bool :=
  if c.toNat < 0x80 then c.isUpper else inRanges capitalRanges c

/-- Whether the first character that matters for case, if there is one, has case. -/
def meetsCased (text : List Char) : Bool :=
  match text.dropWhile (inRanges caseIgnorableRanges) with
  | [] => false
  | c :: _ => inRanges casedRanges c

/-- The capital form of a text, character by character. -/
def toCapitals (text : List Char) : List Char :=
  text.flatMap capitalForm

/-- The small form of a text whose earlier characters, nearest first, are `before`. A capital
    sigma becomes a final sigma when a cased letter precedes it and none follows. -/
def toSmallAfter (before : List Char) : List Char → List Char
  | [] => []
  | c :: rest =>
    let form :=
      if c = 'Σ' then
        if meetsCased before && !meetsCased rest then ['ς'] else ['σ']
      else smallForm c
    form ++ toSmallAfter (c :: before) rest

/-- The small form of a text. -/
def toSmall (text : List Char) : List Char :=
  toSmallAfter [] text

end Codebook.Text
