import Liquid.Operator
import Liquid.Text.Case

/-!
# Stock operators

Operators that a host can register under names of its choice.
-/

namespace Liquid.Host

/-- Whether an integer divides another one. -/
def divisibleBy : Operator := fun _ _ a b ↦
  match a.integer?, b.integer? with
  | some n, some divisor => divisor.toInt != 0 && Int.tmod n.toInt divisor.toInt == 0
  | _, _ => false

/-- Whether a value is longer than an integer says. -/
def longer : Operator := fun _ _ a b ↦
  ((b.integer?.map Int64.toInt).getD 0) < (((a.length?).getD 0 : Nat) : Int)

/-- Whether two texts are equal but for the case of their ASCII letters. -/
def equalIgnoringCase : Operator := fun _ tallies a b ↦
  Text.asciiLower (a.text tallies).toList == Text.asciiLower (b.text tallies).toList

/-- The stock operator of a name. -/
def operator? (name : String) : Option Operator :=
  match name with
  | "divisibleby" => some divisibleBy
  | "longer" => some longer
  | "ieq" => some equalIgnoringCase
  | _ => none

end Liquid.Host
