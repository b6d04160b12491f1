import Liquid.Text.Blank
import Liquid.Value.Basic

/-!
# Items, sizes and entries

Sequences, ranges, maps and some objects have items. A range has the items of the sequence of its integers, but is
never expanded where only a part of it is asked for. Items are counted from zero, and from the end with negative
indexes.
-/

namespace Liquid

/-- The number of integers in a range, at most the largest count. -/
def rangeLength (first last : Int64) : Nat :=
  min (last.toInt - first.toInt + 1).toNat maxCount

/-- `count` integers of a range, beginning `skipped` behind its first one. -/
def rangeItems (first : Int64) (skipped count : Nat) : List Value :=
  (List.range count).map fun (step : Nat) ↦ .int (Int64.ofInt (first.toInt + skipped + step))

/-- The place of an item of the given index among `length` items; negative indexes count from the end. -/
def normalizeIndex (index : Int) (length : Nat) : Option Nat :=
  if index < 0 then
    if 0 ≤ length + index then some (length + index).toNat else none
  else some index.toNat

/-- The items of an object, if it has any. -/
def Object.items? : Object → Option (List Value)
  | .host _ _ _ items => items
  | _ => none

namespace Value

/-- The number of characters, items or entries of a value that has a size. -/
def length? : Value → Option Nat
  | string text => some text.length
  | seq items => some items.length
  | map entries => some entries.length
  | range first last => some (rangeLength first last)
  | object _ shown => shown.items?.map List.length
  | _ => none

/-- Whether a value equals the keyword `empty`. -/
def isEmpty : Value → Bool
  | string text => text.isEmpty
  | seq items => items.isEmpty
  | map entries => entries.isEmpty
  | range first last => last.toInt < first.toInt
  | empty => true
  | object _ shown => shown.items?.any List.isEmpty
  | _ => false

/-- Whether a value equals the keyword `blank`. -/
def isBlank : Value → Bool
  | undefined | nil | blank | empty => true
  | bool value => !value
  | string text => text.toList.all Text.isBlank
  | value => value.isEmpty

/-- The items of a value that can be walked over; a map gives pairs of a key and a value. -/
def items? : Value → Option (List Value)
  | seq items => some items
  | map entries => some (entries.map fun (key, value) ↦ seq [string key, value])
  | range first last => some (rangeItems first 0 (last.toInt - first.toInt + 1).toNat)
  | object _ shown => shown.items?
  | _ => none

/-- At most `limit` items of a value, beginning `offset` behind the first one. -/
def window? (value : Value) (offset : Nat) (limit : Option Nat) : Option (List Value) :=
  match value with
  | range first last =>
    some (rangeItems first offset (min (rangeLength first last - offset) (limit.getD maxCount)))
  | _ => value.items?.map fun items ↦ (items.drop offset).take (limit.getD maxCount)

/-- The item of an index. -/
def index? (value : Value) (index : Int) : Option Value :=
  match value with
  | seq items => (normalizeIndex index items.length).bind (items[·]?)
  | range first last =>
    let found := if index < 0 then last.toInt + 1 + index else first.toInt + index
    if first.toInt ≤ found ∧ found ≤ last.toInt then some (int (Int64.ofInt found)) else none
  | object _ shown => shown.items?.bind fun items ↦ (normalizeIndex index items.length).bind (items[·]?)
  | _ => none

/-- The entries of a map. -/
def entries? : Value → Option (Entries String Value)
  | map entries => some entries
  | _ => none

/-- The value of a key of a map. -/
def key? (value : Value) (key : String) : Option Value := value.entries?.bind (Entries.find? key)

/-- One map of the entries of several; the first value of a key counts. -/
def merge (values : List Value) : Value :=
  map (values.foldl (fun result value ↦ keepFirst result (value.entries?.getD [])) [])
where
  /-- Adds the entries whose keys are new. -/
  keepFirst (result : Entries String Value) (more : Entries String Value) : Entries String Value :=
    more.foldl (fun result (key, value) ↦
      if Entries.contains key result then result else Entries.put key value result) result

end Value

end Liquid
