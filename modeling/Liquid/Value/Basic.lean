import Liquid.Calendar.Moment
import Liquid.Entries

/-!
# Values

The values that templates compute with. A value may be an object: it has an identity, a text, members that are
found by name and perhaps items. What an object has counted so far is kept apart from it, so that all copies of an object
count together.
-/

namespace Liquid

mutual

/-- A value of a template. -/
inductive Value where
  /-- What a lookup that misses gives. -/
  | undefined
  | nil
  /-- What the keyword `empty` stands for. -/
  | empty
  /-- What the keyword `blank` stands for. -/
  | blank
  | bool (value : Bool)
  | int (value : Int64)
  | float (value : Float)
  | string (text : String)
  | seq (items : List Value)
  | map (entries : List (String × Value))
  /-- All integers from the first to the last. -/
  | range (first last : Int64)
  | moment (moment : Calendar.Moment)
  | object (id : Nat) (object : Object)

/-- What an object shows. -/
inductive Object where
  /-- The state of a loop; how far it has come is its count. -/
  | forLoop (name : String) (length : Nat) (parent : Value)
  /-- The state of a table; how far it has come is its count. -/
  | tableRow (name : String) (length columns : Nat)
  /-- An object of the host. -/
  | host (text : String) (truthy : Bool) (members : List (String × Member)) (items : Option (List Value))

/-- How a member of a host object is found. -/
inductive Member where
  | constant (value : Value)
  /-- One more than at the last reading. -/
  | tally
  /-- A text followed by the text of a variable, or by another text if there is no such variable. -/
  | phrase (opening name fallback : String)

end

instance : Inhabited Value := ⟨.undefined⟩

/-- What objects have counted, by identity. -/
abbrev Tallies := Entries Nat Nat

/-- The count of an object, zero at first. -/
def Tallies.count (tallies : Tallies) (id : Nat) : Nat := (Entries.find? id tallies).getD 0

/-- The kinds of values. -/
inductive ValueKind where
  | undefined
  | nil
  | bool
  | number
  | string
  | seq
  | map
  | moment
  | object
deriving Repr, DecidableEq

/-- The word for a kind. -/
def ValueKind.title : ValueKind → String
  | undefined => "undefined"
  | nil => "nil"
  | bool => "bool"
  | number => "number"
  | string => "string"
  | seq => "sequence"
  | map => "map"
  | moment => "datetime"
  | object => "object"

/-- The largest count that the language can state. -/
def maxCount : Nat := 18446744073709551615

/-- The largest integer. -/
def maxInteger : Int := 9223372036854775807

/-- The smallest integer. -/
def minInteger : Int := -9223372036854775808

/-- The integer value of a number that fits. -/
def integer? (n : Int) : Option Int64 :=
  if minInteger ≤ n ∧ n ≤ maxInteger then some (Int64.ofInt n) else none

/-- The integer of a number that fits has that number as its value. -/
theorem toInt_of_integer? {n : Int} {i : Int64} (h : integer? n = some i) : i.toInt = n := by
  unfold integer? at h
  split at h
  · rename_i bounds
    unfold minInteger maxInteger at bounds
    obtain rfl := Option.some.inj h
    exact Int64.toInt_ofInt_of_le (by omega) (by omega)
  · cases h

namespace Value

/-- A count as a value: an integer if it fits, a float otherwise. -/
def ofCount (count : Nat) : Value :=
  match integer? count with
  | some i => int i
  | none => float (Float.ofNat count)

/-- A character as a value. -/
def ofChar (c : Char) : Value := string (String.singleton c)

/-- A text as a value. -/
def ofText (text : List Char) : Value := string (String.ofList text)

/-- The kind of a value. A range is a sequence, and the keywords are kinds of nil. -/
def kind : Value → ValueKind
  | undefined => .undefined
  | nil | empty | blank => .nil
  | bool _ => .bool
  | int _ | float _ => .number
  | string _ => .string
  | seq _ | range _ _ => .seq
  | map _ => .map
  | moment _ => .moment
  | object _ _ => .object

/-- Whether a value is undefined. -/
def isUndefined : Value → Bool
  | undefined => true
  | _ => false

/-- Whether a value is nil or undefined. -/
def isNil : Value → Bool
  | undefined | nil => true
  | _ => false

/-- Whether a value counts as true. -/
def isTruthy : Value → Bool
  | undefined | nil | empty | blank => false
  | bool value => value
  | object _ (.host _ truthy _ _) => truthy
  | _ => true

end Value

end Liquid
