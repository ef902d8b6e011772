import Codebook.Decimal.Compare
import Codebook.Template.Value

/-!
# Equality and order of values

All values stand in one order: first by their kinds, and among values of one kind numbers by their
sizes, texts by their code points, lists and maps by their first difference. Numbers are compared
exactly, whatever their types; what is no number stands beyond all numbers, on the side that its sign
says. A map made from entries lists them in ascending order of their keys.
-/

namespace Codebook.Template

open Decimal

/-- Equality and order look this deep into values. Every level of a value stands for a level of
    the line format or of its data, so values are never deeper. -/
def valueDepth : Nat := 10000

/-- The whole number that a value is. -/
def Value.whole? : Value → Option Int
  | .bool value => some (if value then 1 else 0)
  | .int value => some value
  | .wide value => some value
  | _ => Option.none

/-- The order of two values that are both numbers or both texts. -/
def compareSimple? (left right : Value) : Option Ordering :=
  match left, right with
  | .text a _, .text b _ => some (compare a b)
  | .nan a, .nan b => some (compare (!a) (!b))
  | .nan a, other => other.asFloat?.map fun _ => if a then .lt else .gt
  | other, .nan b => other.asFloat?.map fun _ => if b then .gt else .lt
  | .float a, .float b => some (compareFloats a b)
  | .float a, other => other.whole?.map fun b => (compareWhole b a).swap
  | other, .float b => other.whole?.map fun a => compareWhole a b
  | _, _ => do return compare (← left.whole?) (← right.whole?)

/-- Whether a value is equal to nothing, not even to itself. -/
def Value.isUnequal : Value → Bool
  | .nan _ => true
  | _ => false

/-- Whether two values share the cell that they refer to. -/
def Value.sharesCell : Value → Value → Bool
  | .namespace a _, .namespace b _ => a == b
  | .loop a _, .loop b _ => a == b
  | .routine a c _, .routine b d _ => a.name == b.name && c == d
  | _, _ => false

/-- The first ordering that decides. -/
def firstDecisive (orderings : List Ordering) : Ordering :=
  (orderings.find? (· ≠ .eq)).getD .eq

/-- The order of two values, as far as `depth` levels show it. -/
def Value.compareWithin (depth : Nat) (left right : Value) : Ordering :=
  match depth with
  | 0 => .eq
  | depth + 1 =>
    (compare left.kind.rank right.kind.rank).then <|
      let lists (a b : List Value) : Ordering :=
        (firstDecisive ((a.zip b).map fun (x, y) => Value.compareWithin depth x y)).then
          (compare a.length b.length)
      match compareSimple? left right with
      | some ordering => ordering
      | Option.none =>
        match left, right with
        | .function a, .function b => compare a b
        | _, _ =>
          match left.items?, right.items? with
          | some a, some b => lists a b
          | _, _ =>
            match left.entries?, right.entries? with
            | some a, some b =>
              if left.sharesCell right then .eq
              else lists (a.flatMap fun (k, v) => [k, v]) (b.flatMap fun (k, v) => [k, v])
            | _, _ => .eq

/-- The order of two values. -/
def Value.compare (left right : Value) : Ordering :=
  Value.compareWithin valueDepth left right

/-- The value of a key among entries. -/
def valueFor? (key : Value) (entries : List (Value × Value)) : Option Value :=
  (entries.find? fun (k, _) => key.compare k == .eq).map Prod.snd

/-- Whether two values are equal, as far as `depth` levels show it. Numbers are compared as
    numbers, whatever their type; an undefined value equals every undefined value; maps are equal if
    they have equal values for the same keys. -/
def Value.equalWithin (depth : Nat) (left right : Value) : Bool :=
  match depth with
  | 0 => false
  | depth + 1 =>
    match left, right with
    | .none, .none => true
    | .undefined, .undefined => true
    | .function a, .function b => a == b
    | _, _ =>
      match compareSimple? left right with
      | some ordering => ordering == .eq && !left.isUnequal
      | Option.none =>
        match left.items?, right.items? with
        | some a, some b =>
          a.length == b.length && (a.zip b).all fun (x, y) => Value.equalWithin depth x y
        | _, _ =>
          match left.entries?, right.entries? with
          | some a, some b =>
            left.sharesCell right ||
              a.length == b.length && a.all fun (key, value) =>
                (valueFor? key b).any (Value.equalWithin depth value)
          | _, _ => false

/-- Whether two values are equal. -/
def Value.equal (left right : Value) : Bool :=
  Value.equalWithin valueDepth left right

/-- The entries with one more; an entry with the same key is replaced. -/
def insertEntry (key value : Value) : List (Value × Value) → List (Value × Value)
  | [] => [(key, value)]
  | (k, v) :: rest =>
    match key.compare k with
    | .lt => (key, value) :: (k, v) :: rest
    | .eq => (k, value) :: rest
    | .gt => (k, v) :: insertEntry key value rest

/-- Entries in ascending order of their keys, of which later ones replace earlier ones. -/
def sortedEntries (entries : List (Value × Value)) : List (Value × Value) :=
  entries.foldl (fun held (key, value) => insertEntry key value held) []

/-- The map of some entries, of which later ones replace earlier ones. -/
def Value.ofEntries (entries : List (Value × Value)) : Value :=
  .map (sortedEntries entries) Option.none

end Codebook.Template
