import Liquid.Settings
import Liquid.Value.Access
import Liquid.Value.Number

/-!
# Equality and order of values

Two values are the same if they have the same structure; objects are the same only as themselves. The comparison of
conditions is wider: it knows the keywords `empty` and `blank`, and up to a level of the rules a number equals a text that
writes it. Numbers, texts and moments are ordered among themselves.
-/

namespace Liquid.Value

mutual

/-- Whether two values are the same. -/
def same : Value → Value → Bool
  | undefined, other | nil, other => other.isNil
  | empty, empty | blank, blank => true
  | bool a, bool b => a == b
  | string a, string b => a == b
  | seq items, seq others => sameItems items others
  | map entries, map others => entries.length == others.length && sameEntries entries others
  | range first last, range first' last' => first == first' && last == last'
  | moment a, moment b => a.sameInstant b
  | object id _, object other _ => id == other
  | int a, int b => a == b
  | int a, float b => a.toFloat == b
  | float a, int b => a == b.toFloat
  | float a, float b => a == b
  | _, _ => false

/-- Whether items are the same, one by one. -/
def sameItems : List Value → List Value → Bool
  | [], [] => true
  | item :: rest, other :: others => same item other && sameItems rest others
  | _, _ => false

/-- Whether each entry has the same value in other entries. -/
def sameEntries : List (String × Value) → List (String × Value) → Bool
  | [], _ => true
  | (key, value) :: rest, others =>
    (match Entries.find? key others with
      | some other => same value other
      | none => false) && sameEntries rest others

end

/-- Whether a number equals the number that a text writes. -/
def numberEqualsText (number : Number) (text : String) : Bool :=
  match Number.ofText? text with
  | some written => written.equal number
  | none => false

/-- Whether two values are equal in a condition. -/
def looselyEqual (level : SyntaxLevel) (a b : Value) : Bool :=
  match a, b with
  | empty, _ => b.isEmpty
  | _, empty => a.isEmpty
  | blank, _ => b.isBlank
  | _, blank => a.isBlank
  | string text, int _ | string text, float _ =>
    if level.includes .liquid22 then false
    else b.number?.any (numberEqualsText · text)
  | int _, string text | float _, string text =>
    if level.includes .liquid22 then false
    else a.number?.any (numberEqualsText · text)
  | _, _ => same a b

/-- The order of two values that have one. -/
def compare? : Value → Value → Option Ordering
  | string a, string b => some (compare a b)
  | moment a, moment b => some (a.compareInstant b)
  | a, b =>
    match a.number?, b.number? with
    | some x, some y => x.compare? y
    | _, _ => none

/-- The order that sorting uses: nothing comes last, and values without an order are not moved. -/
def sortOrder (a b : Value) : Ordering :=
  match compare? a b with
  | some order => order
  | none =>
    match a.isNil, b.isNil with
    | true, false => .gt
    | false, true => .lt
    | _, _ => .eq

end Liquid.Value
