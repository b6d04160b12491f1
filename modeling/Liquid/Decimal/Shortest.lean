import Liquid.Decimal.Binary

/-!
# The fewest digits that identify a float

For one digit, two digits and so on the two neighbours of a float on that decimal grid are tried. The first grid on
which one of them reads back as the float gives its digits; of two that do, the nearer is taken.
-/

namespace Liquid.Decimal

/-- Which of two equally near candidates is taken. -/
inductive Tie where
  | toEven
  | upward
deriving Repr, DecidableEq

/-- A decimal `0.d₁d₂… * 10 ^ point`, given by its digits. -/
structure Digits where
  digits : List Char
  point : Int
deriving Repr, DecidableEq

/-- The decimal `number * 10 ^ ten` without trailing zeros. -/
def Digits.ofScaled (number : Nat) (ten : Int) : Digits :=
  let all := (Nat.toDigits 10 number)
  let kept := (all.reverse.dropWhile (· == '0')).reverse
  ⟨kept, ten + all.length⟩

/-- An exponent whose power of ten exceeds the number and is the least such power. -/
def Binary.scale (x : Binary) : Int :=
  let binary : Int := (Nat.log2 x.significand : Int) + x.exponent
  let estimate := binary * 30103 / 100000 - 1
  let exceeds (k : Int) : Bool := x.quotient k == 0
  if exceeds estimate then estimate
  else if exceeds (estimate + 1) then estimate + 1
  else if exceeds (estimate + 2) then estimate + 2
  else estimate + 3

/-- The neighbour of the number on the grid of multiples of `10 ^ ten` that reads back as it, if one does. -/
def Binary.onGrid? (x : Binary) (tie : Tie) (ten : Int) : Option Nat :=
  let below := x.quotient ten
  match x.readsBack below ten, x.readsBack (below + 1) ten with
  | true, true =>
    match compareScaled (2 * below + 1) ten (2 * x.significand) x.exponent, tie with
    | .gt, _ => some below
    | .lt, _ => some (below + 1)
    | .eq, .upward => some (below + 1)
    | .eq, .toEven => some (if below % 2 == 0 then below else below + 1)
  | true, false => some below
  | false, true => some (below + 1)
  | false, false => none

/-- The exact decimal value of a number. -/
def Binary.exact (x : Binary) : Digits :=
  let negative := (-x.exponent).toNat
  Digits.ofScaled (x.significand * Nat.pow 2 x.exponent.toNat * Nat.pow 5 negative) (-negative)

/-- The shortest digits of a number that is not zero. -/
def Binary.shortest (x : Binary) (tie : Tie) : Digits :=
  let scale := x.scale
  let attempt (count : Nat) : Option Digits :=
    (x.onGrid? tie (scale - count)).map (Digits.ofScaled · (scale - count))
  ((List.range' 1 17).findSome? attempt).getD x.exact

end Liquid.Decimal
