/-!
# Binary numbers and the decimals that read back as them

A finite float is a significand times a power of two. The real numbers that round to it form an interval, halfway
to its neighbours on both sides, and a decimal reads back as the float if it lies in that interval.
-/

namespace Liquid.Decimal

/-- A number `significand * 2 ^ exponent`, positive or zero. -/
structure Binary where
  significand : Nat
  exponent : Int
  /-- Whether the gap to the next smaller number is half the gap to the next larger one. -/
  narrowBelow : Bool
deriving Repr, DecidableEq

/-- The absolute value of the finite float with the given bits. -/
def Binary.ofBits (bits : UInt64) : Binary :=
  let biased := ((bits >>> 52) &&& 0x7FF).toNat
  let fraction := (bits &&& 0xFFFFFFFFFFFFF).toNat
  if biased == 0 then ⟨fraction, -1074, false⟩
  else ⟨0x10000000000000 + fraction, (biased : Int) - 1075, fraction == 0 && biased > 1⟩

/-- Compares `digits * 10 ^ ten` with `significand * 2 ^ two` without rounding. -/
def compareScaled (digits : Nat) (ten : Int) (significand : Nat) (two : Int) : Ordering :=
  compare (digits * Nat.pow 10 ten.toNat * Nat.pow 2 (-two).toNat)
    (significand * Nat.pow 2 two.toNat * Nat.pow 10 (-ten).toNat)

/-- Whether `digits * 10 ^ ten` lies among the reals that round to the number; the ends belong to an even one. -/
def Binary.readsBack (x : Binary) (digits : Nat) (ten : Int) : Bool :=
  let low := if x.narrowBelow then 4 * x.significand - 1 else 4 * x.significand - 2
  let high := 4 * x.significand + 2
  let even := x.significand % 2 == 0
  let fromLow := compareScaled digits ten low (x.exponent - 2)
  let fromHigh := compareScaled digits ten high (x.exponent - 2)
  (fromLow == .gt || (even && fromLow == .eq)) && (fromHigh == .lt || (even && fromHigh == .eq))

/-- The largest natural number whose product with `10 ^ ten` does not exceed the number. -/
def Binary.quotient (x : Binary) (ten : Int) : Nat :=
  x.significand * Nat.pow 2 x.exponent.toNat * Nat.pow 10 (-ten).toNat /
    (Nat.pow 10 ten.toNat * Nat.pow 2 (-x.exponent).toNat)

end Liquid.Decimal
