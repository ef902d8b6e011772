import Codebook.Template.Layout
import Codebook.Template.Test
import Codebook.Text.Blank
import Codebook.Text.Occurrence

/-!
# Filters

The functions that a line format applies to a value with a bar. Each filter has a name; some take
further values, by place or by name. Filters over texts take the text of any value, filters over
lists take the items that a loop would go through. Three families apply other filters or tests to
every item: `map`, `select` and `reject`.
-/

namespace Codebook.Template

open Decimal

/-- What a filter can see besides its values: whether text is being escaped, and how the item of
    a value under a key is found. -/
structure Surroundings where
  escaping : Bool
  item? : Value → Value → Option Value

/-! ## Paths -/

/-- The item of a value under a key, undefined if there is none. Nothing can be found in what is
    undefined. -/
def Surroundings.item (surroundings : Surroundings) (value key : Value) : Except Fault Value :=
  match value with
  | .undefined => throw (.plain .undefinedValue)
  | other => ((surroundings.item? other key).getD .undefined).used

/-- The value at a path. The parts of a path are separated by points; a number is an index. -/
def Surroundings.atPath (surroundings : Surroundings) (value : Value) (path : String) :
    Except Fault Value :=
  let part (value : Value) (name : List Char) : Except Fault Value :=
    match readInt? 10 0 (twoTo 64 - 1) name with
    | some index => surroundings.item value (.int index)
    | none => surroundings.item value (.ofText (String.ofList name))
  (Text.pieces ['.'] path.toList).foldlM part value

/-- The value at a path, or a default if there is none. -/
def Surroundings.atPathOr (surroundings : Surroundings) (default : Value) (path : String)
    (value : Value) : Value :=
  match surroundings.atPath value path with
  | .ok .undefined => default
  | .ok found => found
  | .error _ => default

/-! ## Texts -/

/-- The punctuation among the characters of seven bits. -/
def isPunctuation (c : Char) : Bool :=
  '!' ≤ c && c ≤ '~' && !c.isAlphanum

/-- The text with a capital at the start of every word and small letters after it. -/
def titleCase (startsWord : Bool) : List Char → List Char
  | [] => []
  | c :: rest =>
    if isPunctuation c || Text.isBlank c then c :: titleCase true rest
    else (if startsWord then Text.capitalForm c else Text.smallForm c) ++ titleCase false rest

/-- The text with a capital at its start and small letters after it. -/
def capitalized : List Char → List Char
  | [] => []
  | c :: rest => Text.capitalForm c ++ Text.toSmall rest

/-- The text without the characters that satisfy `p` at both ends. -/
def trimWhere (p : Char → Bool) (text : List Char) : List Char :=
  ((text.dropWhile p).reverse.dropWhile p).reverse

/-- The text without one line end at its end. -/
def dropLineEnd (text : List Char) : List Char :=
  let text := if text.getLast? = some '\n' then text.dropLast else text
  if text.getLast? = some '\r' then text.dropLast else text

/-- The lines of a text without their ends. A line feed at the end starts no further line, and a
    carriage return belongs to a line end only if a line feed follows it. -/
def textLines (text : List Char) : List (List Char) :=
  let rows := Text.pieces ['\n'] text
  let ended := rows.dropLast.map fun row => if row.getLast? = some '\r' then row.dropLast else row
  match rows.getLast? with
  | some [] | none => ended
  | some last => ended ++ [last]

/-- The lines of a text moved to the right. -/
def indentLines (width : Nat) (first blank : Bool) (text : List Char) : List Char :=
  let margin := List.replicate width ' '
  let indentRow (row : List Char) : List Char :=
    if row.isEmpty then (if blank then margin else []) else margin ++ row
  let rows := Text.pieces ['\n'] (dropLineEnd text)
  let rows :=
    match rows with
    | [] => []
    | row :: rest => (if first then indentRow row else row) :: rest.map indentRow
  dropLineEnd (rows.flatMap fun row => row ++ ['\n'])

/-- The parts of a text between blanks, where several blanks count as one and blanks at the ends
    as none. -/
def wordsOf (text : List Char) : List (List Char) :=
  (text.splitOnP Text.isBlank).filter fun word => !word.isEmpty

/-- The first parts of a text, of which the last one holds the rest. -/
def firstParts (separator : List Char) (count : Nat) (parts : List (List Char)) :
    List (List Char) :=
  if parts.length ≤ count then parts
  else if count = 0 then []
  else parts.take (count - 1) ++ [List.intercalate separator (parts.drop (count - 1))]

/-- The parts of a text between single blanks, at most `count`, of which the last one holds the
    rest. Parts may be empty. -/
def blankParts : (count : Nat) → List Char → List (List Char)
  | 0, _ => []
  | 1, text => [text]
  | count + 2, text =>
    match text.dropWhile fun c => !Text.isBlank c with
    | [] => [text]
    | _ :: rest => text.takeWhile (fun c => !Text.isBlank c) :: blankParts (count + 1) rest

/-- The parts of a text, at most one more than `limit` of them. -/
def splitText (separator : Option (List Char)) (limit : Option Int) (text : List Char) :
    List (List Char) :=
  let count := (limit.filter (0 ≤ ·)).map fun n => n.toNat + 1
  match separator, count with
  | none, none => wordsOf text
  | none, some n => (blankParts n text).filter fun part => !part.isEmpty
  | some separator, none => Text.pieces separator text
  | some separator, some n => firstParts separator n (Text.pieces separator text)

/-! ## Numbers -/

/-- A number without its sign. -/
def Value.absolute (value : Value) : Except Fault Value :=
  match value with
  | .int n => boundedInt (.about .invalidOperation "overflow on abs") n.natAbs
  | .wide n => return .wide n
  | .float x => return .float x.abs
  | .nan _ => return .nan false
  | other =>
    throw (.about .invalidOperation ("cannot get absolute value of " ++ other.kind.word))

/-- A number times a power of another, by repeated squaring. The exponent is below two to the power
    of `fuel`. -/
def timesPower (fuel : Nat) (product base : Float) (exponent : Nat) : Float :=
  match fuel with
  | 0 => product
  | fuel + 1 =>
    let product := if exponent % 2 = 0 then product else product * base
    if exponent < 2 then product else timesPower fuel product (base * base) (exponent / 2)

/-- A number rounded to some places, with a half going away from zero. Whole numbers stay. The number
    of places has 32 bits. -/
def Value.round (value : Value) (places : Int) : Except Fault Value := do
  unless -(twoTo 31) ≤ places ∧ places < twoTo 31 do
    throw (.about .invalidOperation "cannot convert number to i32")
  match value with
  | .int n => return .int n
  | .wide n => return .wide n
  | .float x =>
    let power := timesPower 32 1 10 places.natAbs
    let scale := if places < 0 then 1 / power else power
    return .computed [] ((scale * x).round / scale)
  | .nan negative => return .nan negative
  | other => throw (.about .invalidOperation ("cannot round value of " ++ other.kind.word))

/-- The whole number that a value is read as. -/
def Value.toInt (value : Value) : Except Fault Value :=
  match value with
  | .undefined | .none => return .int 0
  | .bool answer => return .int (if answer then 1 else 0)
  | .int n => return .int n
  | .wide n => return .wide n
  | .float x => return .int (truncateWithin leastInt greatestInt x)
  | .nan _ => return .int 0
  | .text content _ =>
    match readInt? 10 leastInt greatestInt content.toList, readFloat? content.toList with
    | some n, _ => return .int n
    | Option.none, some x => return .int (truncateWithin leastInt greatestInt x)
    | Option.none, Option.none => throw (.about .invalidOperation "invalid number")
  | other => throw (.about .invalidOperation ("cannot convert " ++ other.kind.word ++ " to integer"))

/-- The number of double precision that a value is read as. -/
def Value.toFloat (value : Value) : Except Fault Value :=
  match value with
  | .undefined | .none => return .float 0
  | .nan negative => return .nan negative
  | .text content _ =>
    match readFloat? content.toList with
    | some x => return if x.isNaN then .nan (content.toList.head? == some '-') else .float x
    | Option.none => throw (.about .invalidOperation "invalid number")
  | other =>
    match other.asFloat? with
    | some x => return .float x
    | Option.none =>
      throw (.about .invalidOperation ("cannot convert " ++ other.kind.word ++ " to float"))

/-! ## Lists -/

/-- The text with the small forms of its letters among the characters of seven bits. -/
def foldedText (content : String) : String :=
  String.ofList (content.toList.map Char.toLower)

/-- The order in which sorting puts two values: letters that differ only in case count as equal
    unless case matters. -/
def sortOrder (caseMatters : Bool) (left right : Value) : Ordering :=
  match left, right with
  | .text a _, .text b _ =>
    if caseMatters then compare a b else compare (foldedText a) (foldedText b)
  | _, _ => left.compare right

/-- The order in which sorting puts two items by their keys. An item without a key counts as equal
    to every other. -/
def keyOrder (caseMatters : Bool) : Option Value → Option Value → Ordering
  | some left, some right => sortOrder caseMatters left right
  | _, _ => .eq

/-- The items with one more, from the last to the first: it goes before those at the end that it has
    to precede. -/
def insertSorted {α : Type} (precedes : α → α → Bool) (item : α) : List α → List α
  | [] => [item]
  | last :: rest =>
    if precedes item last then last :: insertSorted precedes item rest else item :: last :: rest

/-- Up to this many items are sorted one by one. This shows where items without a key make the order
    of the others unclear. -/
def insertionLimit : Nat := 20

/-- The items in the ascending or descending order of their keys; equal ones keep their order. -/
def sortItems {α : Type} (caseMatters descending : Bool) (key : α → Option Value)
    (items : List α) : List α :=
  let precedes (left right : α) : Bool :=
    let order := keyOrder caseMatters (key left) (key right)
    if descending then order == .gt else order == .lt
  if items.length ≤ insertionLimit then
    (items.foldl (fun sorted item => insertSorted precedes item sorted) []).reverse
  else items.mergeSort fun left right => !precedes right left

/-- The key of a value for sorting. It lies at a path, or at several with commas between them, in
    which case the key is the list of what they lead to. A text without a path in it is one path as
    it is. -/
def Surroundings.sortKey (surroundings : Surroundings) (paths : List Char) (value : Value) :
    Option Value :=
  let found (path : List Char) : Option Value :=
    (surroundings.atPath value (String.ofList path)).toOption
  match ((Text.pieces [','] paths).map Text.trim).filter fun path => !path.isEmpty with
  | [] => found paths
  | [path] => found path
  | several => (several.mapM found).map Value.ofItems

/-- The items in groups of `count`. -/
def chunks (fuel count : Nat) (items : List Value) : List (List Value) :=
  match fuel, items with
  | 0, _ => []
  | _, [] => []
  | fuel + 1, items => items.take count :: chunks fuel count (items.drop count)

/-- The items in groups of `count`, of which the last one is filled up. -/
def batches (count : Nat) (filler : Option Value) (items : List Value) : List Value :=
  (chunks items.length count items).map fun group =>
    match filler with
    | some filler => .ofItems (group ++ List.replicate (count - group.length) filler)
    | none => .ofItems group

/-- The items in `count` groups whose sizes differ by at most one, larger ones first; the smaller
    ones are filled up. -/
def columns (count : Nat) (filler : Option Value) (items : List Value) : List Value :=
  let size := items.length / count
  let larger := items.length % count
  (List.range count).map fun column =>
    let start := column * size + min column larger
    let group := (items.drop start).take (if column < larger then size + 1 else size)
    match filler with
    | some filler => .ofItems (if column < larger then group else group ++ [filler])
    | none => .ofItems group

/-- The items without those whose key has come before. -/
def uniqueItems (key : Value → Value) : (seen items : List Value) → List Value
  | _, [] => []
  | seen, item :: rest =>
    if seen.any fun other => (key item).compare other == .eq then uniqueItems key seen rest
    else item :: uniqueItems key (key item :: seen) rest

/-- Neighbours with equal keys put into groups, each with the key of its last item. -/
def groupItems (caseMatters : Bool) (key : Value → Value) (items : List Value) : List Value :=
  let groups := items.splitBy fun left right => sortOrder caseMatters (key left) (key right) == .eq
  groups.map fun group => .group ((group.getLast?.map key).getD .undefined) group none

/-- The least value, the first one of several. -/
def leastValue (items : List Value) : Value :=
  match items with
  | [] => .undefined
  | first :: rest =>
    rest.foldl (fun least value => if value.compare least == .lt then value else least) first

/-- The greatest value, the last one of several. -/
def greatestValue (items : List Value) : Value :=
  match items with
  | [] => .undefined
  | first :: rest =>
    rest.foldl (fun most value => if value.compare most == .lt then most else value) first

/-- The sum of numbers; what is undefined does not count. -/
def sumOf (items : List Value) : Except Fault Value :=
  items.foldlM (fun total value =>
    match value with
    | .undefined => return total
    | .int _ | .wide _ | .float _ | .nan _ => total.add value
    | other => throw (.about .invalidOperation ("can only sum numbers, got " ++ other.kind.word)))
    (.int 0)

/-- The texts of the items one after the other, with a separator between them. Where text is escaped
    and one of them needs no escaping, the others are escaped and the whole needs none. -/
def joinItems (escaping : Bool) (separator : Value) (items : List Value) : Value :=
  let safe := escaping && (separator :: items).any Value.isSafe
  let piece (value : Value) : List Char := (if safe then value.escaped else value.toText).toList
  .text (String.ofList (List.intercalate (piece separator) (items.map piece))) safe

/-- The text with a part of it replaced wherever it occurs. Where text is escaped and one of the
    three needs no escaping, the text and the replacement are escaped unless they need none, and the
    whole needs none. The part is looked for as it is. -/
def replaceParts (escaping : Bool) (text part replacement : List Char × Bool) : Value :=
  let safe := escaping && (text.2 || part.2 || replacement.2)
  let piece (marked : List Char × Bool) : List Char :=
    if safe && !marked.2 then escapeText marked.1 else marked.1
  .text (String.ofList (Text.replaceAll part.1 (piece replacement) (piece text))) safe

/-- The first row of items taken from every list, then the second, as long as all lists go on. -/
def rows (fuel : Nat) (lists : List (List Value)) : List Value :=
  match fuel with
  | 0 => []
  | fuel + 1 =>
    match lists.mapM List.head? with
    | some row => .ofItems row :: rows fuel (lists.map List.tail)
    | none => []

/-- The items that a value takes part with in what is gone through later. A value that cannot be
    gone through is a fault only when its turn comes. -/
def Value.laterItems (value : Value) : List Value :=
  match value.iterate with
  | .ok items => items
  | .error fault => [.invalid fault]

/-- Rows with an item of every value. It is known how many there are if it is known how many items
    each of the values has. -/
def zipValues (values : List Value) : Value :=
  let lists := values.map Value.laterItems
  computedItems (values.all fun value => value.length?.isSome)
    (rows ((lists.map List.length).foldl max 0) lists)

/-- The value with its items, characters or keys in reverse order. -/
def Value.reversed (value : Value) : Except Fault Value :=
  match value with
  | .undefined => return .undefined
  | .none => return .none
  | .text content safe => return .text (String.ofList content.toList.reverse) safe
  | other =>
    match other.iterate? with
    | some items => return .ofSequence items.values.reverse
    | Option.none =>
      throw (.about .invalidOperation ("cannot reverse values of type " ++ other.kind.word))

/-- The first item, character or key. -/
def Value.firstItem (value : Value) : Except Fault Value :=
  match value with
  | .undefined | .none => throw (.about .invalidOperation "cannot get first item from value")
  | other =>
    match other.iterate? with
    | some items => return items.values.head?.getD .undefined
    | Option.none => throw (.about .invalidOperation "cannot get first item from value")

/-- The last item or character. -/
def Value.lastItem (value : Value) : Except Fault Value :=
  match value with
  | .text content _ => return (content.toList.getLast?.map Value.ofChar).getD .undefined
  | other =>
    match other.items? with
    | some items => return items.getLast?.getD .undefined
    | Option.none => throw (.about .invalidOperation "cannot get last item from value")

/-- The entries of a map. -/
def Value.pairs (value : Value) : Except Fault (List (Value × Value)) :=
  match value.entries? with
  | some entries => return entries
  | Option.none => throw (.about .invalidOperation "cannot convert value into pair list")

/-- Entries as lists of two items. -/
def pairLists (entries : List (Value × Value)) : List Value :=
  entries.map fun (key, value) => .ofItems [key, value]

/-- Maps put together. Later ones win, unless they have nothing but an undefined value to give. -/
def mergeMaps (maps : List (List (Value × Value))) : Value :=
  let add (held : List (Value × Value)) (entry : Value × Value) : List (Value × Value) :=
    if entry.2.kind == .undefined && (valueFor? entry.1 held).isSome then held
    else insertEntry entry.1 entry.2 held
  .map (maps.flatten.foldl add []) none

/-- Lists one after the other, or maps put together. All else gives a stream. -/
def chainValues (values : List Value) : Value :=
  match values.mapM Value.entries? with
  | some maps => mergeMaps maps
  | none =>
    if values.all fun value => value.kind == .list then
      .ofItems (values.flatMap fun value => value.items?.getD [])
    else .ofStream (values.flatMap Value.laterItems)

/-! ## Filters by name -/

/-- The filters that make one text from the text of a value, which stays safe if it is. -/
def textFilters : List (String × (List Char → List Char)) :=
  [("lower", Text.toSmall), ("upper", Text.toCapitals), ("capitalize", capitalized)]

/-- A text and its parts, which are safe if it is. -/
def textParts (safe : Bool) (parts : List (List Char)) : Value :=
  .ofItems (parts.map fun part => .text (String.ofList part) safe)

/-- The filters that take nothing but the value. -/
def simpleFilters : List (String × (Value → Except Fault Value)) :=
  let count (value : Value) : Except Fault Value :=
    match value.length? with
    | some n => return .int n
    | none =>
      throw (.about .invalidOperation
        ("cannot calculate length of value of type " ++ value.kind.word))
  [("length", count), ("count", count),
   ("items", fun value => return .ofSequence (pairLists (← value.pairs))),
   ("reverse", Value.reversed),
   ("title", fun value => return .ofChars (titleCase true (← value.takenText).toList)),
   ("lines", fun value =>
      return textParts value.isSafe (textLines (← value.properText).toList)),
   ("abs", Value.absolute), ("int", Value.toInt), ("float", Value.toFloat),
   ("first", Value.firstItem), ("last", Value.lastItem),
   ("min", fun value => return leastValue (← value.iterate)),
   ("max", fun value => return greatestValue (← value.iterate)),
   ("list", fun value => return .ofItems (← value.iterate)),
   ("string", fun value =>
      match value with
      | .text content safe => return .text content safe
      | other => return .ofText other.toText),
   ("bool", fun value => return .bool value.isTrue),
   ("sum", fun value => do sumOf (← value.iterate)),
   ("pprint", fun value => return value.laidOut)]

/-- Takes a value, a number of groups and a filler, and makes groups of the items. -/
def takeGroups (group : Nat → Option Value → List Value → List Value) : Taking Value := do
  let value ← nextValue
  let count ← nextCount
  let filler := present? (← nextValue?)
  noMore
  if count = 0 then throw (.about .invalidOperation "count cannot be 0")
  return .ofItems (group count filler (← value.iterate))

/-- The filters that take further values, and nothing by name. `escaping` says whether text is
    escaped. -/
def placedFilters (escaping : Bool) : List (String × Taking Value) :=
  [("safe", do return .text (← nextText) true),
   ("replace", do
      let text ← nextMarked
      let part ← nextMarked
      return replaceParts escaping text part (← nextMarked)),
   ("trim", do
      let (text, safe) ← nextMarked
      let trimmed :=
        match ← nextText? with
        | some chars => trimWhere chars.toList.contains text
        | none => Text.trim text
      return .text (String.ofList trimmed) safe),
   ("join", do
      let value ← nextValue
      let separator ← (present? (← nextValue?)).mapM fun value => do
        return .text (← value.takenText) value.isSafe
      noMore
      return joinItems escaping (separator.getD (.ofText "")) (← value.iterate)),
   ("split", do
      let value ← nextValue
      let text ← value.properText
      let separator ← (present? (← nextValue?)).mapM fun value => value.properText
      let limit ← nextInt?
      return textParts value.isSafe (splitText (separator.map String.toList) limit text.toList)),
   ("round", do
      let value ← nextValue
      let places := (← nextInt?).getD 0
      noMore
      value.round places),
   ("batch", takeGroups batches), ("slice", takeGroups columns),
   ("chain", return chainValues (← allValues)),
   ("zip", return zipValues (← allValues)),
   ("format", do
      let pattern ← nextValue
      layOut pattern.isSafe (← pattern.properText).toList (← allValues))]

/-- Gives a value, or another one if it is undefined. A further value says whether this goes for all
    that does not count as true. -/
def takeDefault : Taking Value := do
  let value ← nextValue
  let other ←
    match ← nextValue? with
    | some other => pure other
    | none => pure ((← namedValue? "default_value").getD (.ofText ""))
  let lax ←
    match ← nextValue? with
    | some lax => pure lax
    | none => pure (orUndefined (← namedValue? "boolean"))
  return if value.kind == .undefined || (lax.isTrue && !value.isTrue) then other else value

/-- The filters that take values by name. -/
def namedFilters (surroundings : Surroundings) : List (String × Taking Value) :=
  [("default", takeDefault), ("d", takeDefault),
   ("indent", do
      let (text, safe) ← nextMarked
      let count ← (← placedOrNamed? "width").mapM fun value => value.takenCount
      let switch (name : String) : Taking Bool := do
        match ← placedOrNamed? name with
        | some value => value.takenSwitch
        | none => return false
      let first ← switch "first"
      let blank ← switch "blank"
      return .text (String.ofList (indentLines (count.getD 4) first blank text)) safe),
   ("dictsort", do
      let value ← nextValue
      noMore
      let entries ← value.pairs
      let byValue := (← namedText? "by") == some "value"
      let caseMatters ← namedSwitch "case_sensitive"
      let key (entry : Value × Value) : Option Value := if byValue then entry.2 else entry.1
      let descending ← namedSwitch "reverse"
      return .ofItems (pairLists (sortItems caseMatters descending key entries))),
   ("sort", do
      let value ← nextValue
      noMore
      let items ← value.iterate
      let caseMatters ← namedSwitch "case_sensitive"
      let paths ← namedText? "attribute"
      let key (value : Value) : Option Value :=
        match paths with
        | some paths => surroundings.sortKey paths.toList value
        | none => value
      return .ofItems (sortItems caseMatters (← namedSwitch "reverse") key items)),
   ("groupby", do
      let value ← nextValue
      let placed ← (present? (← nextValue?)).mapM fun path => path.properText
      noMore
      let default := (present? (← namedValue? "default")).getD .undefined
      let caseMatters ← namedSwitch "case_sensitive"
      let path ←
        match placed with
        | some path => pure path
        | none =>
          match ← namedValue? "attribute" with
          | some path => path.properText
          | none => throw (.plain .missingArgument)
      let key := surroundings.atPathOr default path
      let sorted := sortItems caseMatters false (fun item => some (key item)) (← value.iterate)
      return .ofItems (groupItems caseMatters key sorted)),
   ("unique", do
      let value ← nextValue
      let path ← namedText? "attribute"
      let caseMatters ← namedSwitch "case_sensitive"
      finish
      let key (value : Value) : Value :=
        let chosen :=
          match path with
          | some path => surroundings.atPathOr .undefined path value
          | none => value
        match chosen with
        | .text content _ =>
          if caseMatters then chosen
          else .ofText (String.ofList (Text.toSmall content.toList))
        | other => other
      return .ofItems (uniqueItems key [] (← value.iterate)))]

/-- The filters that apply other filters or tests. -/
def applyingFilters : List String :=
  ["map", "select", "reject", "selectattr", "rejectattr"]

/-- The names of all filters. -/
def filterNames : List String :=
  ["escape", "e", "attr"] ++ textFilters.map Prod.fst ++ simpleFilters.map Prod.fst ++
    (placedFilters false).map Prod.fst ++ (namedFilters ⟨false, Value.item?⟩).map Prod.fst ++
    applyingFilters

/-- Keeps the items that satisfy a test, or are true if no test is named. -/
def selectItems (keep : Bool) (look : Value → Except Fault Value) : Taking Value := do
  let value ← nextValue
  let test ← nextText?
  let values ← allValues
  let ask (value : Value) : Except Fault Bool :=
    match test with
    | none => return value.isTrue
    | some name =>
      match applyTest? filterNames name (value :: values) with
      | some answer => answer
      | none => throw (.plain .unknownTest)
  match test with
  | some name =>
    if !testNames.contains name then throw (.plain .unknownTest)
  | none => pure ()
  let kept ← (← value.iterate).filterM fun item => do
    return (← ask (← look item)) == keep
  return .ofItems kept

/-- The value that the filter of a name makes of some values, if there is such a filter. Filters
    that apply filters pass on fewer values than they get, so `fuel` need not be more than the
    number of values. -/
def applyFilter? (fuel : Nat) (surroundings : Surroundings) (name : String)
    (values : List Value) : Option (Except Fault Value) :=
  match fuel with
  | 0 => none
  | fuel + 1 =>
    let whole (value : Value) : Except Fault Value := return value
    match textFilters.lookup name with
    | some change => some (takeFrom values do
        let (text, safe) ← nextMarked
        return .text (String.ofList (change text)) safe)
    | none =>
    match simpleFilters.lookup name with
    | some filter => some (takeFrom values do
        let value ← nextValue
        noMore
        filter value)
    | none =>
    match (placedFilters surroundings.escaping).lookup name with
    | some taking => some (takeFrom values taking)
    | none =>
    match (namedFilters surroundings).lookup name with
    | some taking => some (takeNamedFrom values taking)
    | none =>
    match name with
    | "escape" | "e" => some (takeFrom values do return .text (← nextValue).escaped true)
    | "attr" => some (takeFrom values do
        let value ← nextValue
        let key ← nextValue
        noMore
        surroundings.item value key)
    | "select" => some (takeFrom values (selectItems true whole))
    | "reject" => some (takeFrom values (selectItems false whole))
    | "selectattr" | "rejectattr" => some <|
        match values with
        | value :: path :: rest => do
          let path ← path.takenText
          let look (item : Value) : Except Fault Value := surroundings.atPath item path
          takeFrom (value :: rest) (selectItems (name == "selectattr") look)
        | _ => throw (.plain .missingArgument)
    | "map" => some (takeNamedFrom values do
        let value ← nextValue
        match present? (← namedValue? "attribute") with
        | some key =>
          let default := (← namedValue? "default").getD .undefined
          finish
          let look (item : Value) : Except Fault Value :=
            match key with
            | .text path _ => surroundings.atPath item path
            | other => surroundings.item item other
          let found ← (← value.iterate).mapM fun item =>
            match look item with
            | .ok .undefined => return default
            | .ok found => return found
            | .error fault =>
              match default with
              | .undefined => throw fault
              | other => return other
          return .ofItems found
        | none =>
          modify fun passed => { passed with named := [] }
          match ← nextValue? with
          | none => throw (.about .invalidOperation "filter name is required")
          | some name =>
            let name ← name.properText
            let rest ← allValues
            unless filterNames.contains name do throw (.plain .unknownFilter)
            let mapped ← (← value.iterate).mapM fun item =>
              match applyFilter? fuel surroundings name (item :: rest) with
              | some result => result
              | none => throw (.plain .unknownFilter)
            return .ofItems mapped)
    | _ => none

end Codebook.Template
