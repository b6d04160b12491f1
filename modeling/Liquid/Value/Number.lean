import Liquid.Decimal.Reading
import Liquid.Error
import Liquid.Text.Blank
import Liquid.Value.Basic

/-!
# Numbers

Numbers are integers or floats. The result of an operation on integers is the exact integer where it fits, and a
float otherwise. Division rounds down, and the remainder takes the sign of the divisor. A text counts as a number
if it writes one.
-/

namespace Liquid

/-- An integer or a float. -/
inductive Number where
  | int (value : Int64)
  | float (value : Float)

namespace Number

/-- The float nearest to a number. -/
def toFloat : Number → Float
  | int value => value.toFloat
  | float value => value

/-- A number as a value. -/
def toValue : Number → Value
  | int value => .int value
  | float value => .float value

/-- Whether a float is finite and has no fraction. -/
def isIntegral (x : Float) : Bool :=
  match x.toModel.unpack with
  | .zero _ => true
  | .finite _ mantissa exponent _ => mantissa % Nat.pow 2 (-exponent).toNat == 0
  | .infinity _ | .notANumber => false

/-- The integer part of a float; a float beyond the integers gives the nearest of them. -/
def integerPart (x : Float) : Int64 := x.toModel.toInt64

/-- The integer part of a number; a float beyond the integers gives the nearest of them. -/
def toInteger : Number → Int64
  | int value => value
  | float value => integerPart value

/-- The number that a text writes. -/
def ofText? (text : String) : Option Number :=
  let trimmed := Text.trim text.toList
  match (Decimal.integer? trimmed).bind integer? with
  | some value => some (int value)
  | none =>
    if trimmed.all fun c ↦ c.isDigit || c == '.' || c == '-' || c == '+' then
      (Decimal.float? trimmed).map float
    else none

/-- Whether two numbers are equal; an integer is compared with a float as a float. -/
def equal : Number → Number → Bool
  | int a, int b => a == b
  | a, b => a.toFloat == b.toFloat

/-- The order of two floats, if neither is missing. -/
def compareFloat? (a b : Float) : Option Ordering :=
  if a < b then some .lt else if a == b then some .eq else if b < a then some .gt else none

/-- The order of two numbers. -/
def compare? : Number → Number → Option Ordering
  | int a, int b => some (compare a.toInt b.toInt)
  | a, b => compareFloat? a.toFloat b.toFloat

/-- An integer if the exact result fits, the result on floats otherwise. -/
def exactly (result : Int) (otherwise : Float) : Number :=
  match integer? result with
  | some value => int value
  | none => float otherwise

/-- The sum of two numbers. -/
def add : Number → Number → Number
  | int a, int b => exactly (a.toInt + b.toInt) (a.toFloat + b.toFloat)
  | a, b => float (a.toFloat + b.toFloat)

/-- The difference of two numbers. -/
def subtract : Number → Number → Number
  | int a, int b => exactly (a.toInt - b.toInt) (a.toFloat - b.toFloat)
  | a, b => float (a.toFloat - b.toFloat)

/-- The product of two numbers. -/
def multiply : Number → Number → Number
  | int a, int b => exactly (a.toInt * b.toInt) (a.toFloat * b.toFloat)
  | a, b => float (a.toFloat * b.toFloat)

/-- The quotient of two numbers, rounded down if both are integers. -/
def divide : Number → Number → Except Fault Number
  | int a, int b =>
    if b.toInt = 0 then .error .dividedByZero
    else .ok (exactly (Int.fdiv a.toInt b.toInt) (a.toFloat / b.toFloat).floor)
  | a, int b => if b.toInt = 0 then .error .dividedByZero else .ok (float (a.toFloat / b.toFloat))
  | a, float b => .ok (float (a.toFloat / b))

/-- What division leaves on floats. -/
def floatRemainder (a b : Float) : Float := a - b * (a / b).floor

/-- What division leaves, with the sign of the divisor. -/
def remainder : Number → Number → Except Fault Number
  | int a, int b =>
    if b.toInt = 0 then .error .dividedByZero
    else .ok (exactly (Int.fmod a.toInt b.toInt) (floatRemainder a.toFloat b.toFloat))
  | a, int b => if b.toInt = 0 then .error .dividedByZero else .ok (float (floatRemainder a.toFloat b.toFloat))
  | a, float b => .ok (float (floatRemainder a.toFloat b))

/-- A float times a power of ten and back, rounded in between to the nearest integer, halves away from zero. -/
def roundPlaces (x : Float) (places : Int) : Float :=
  let factor := power 10 places
  (x * factor).round / factor
where
  /-- Repeated squaring, with one division at the end for a negative exponent. -/
  power (base : Float) (exponent : Int) : Float :=
    let result := square base exponent.natAbs 1
    if exponent < 0 then 1 / result else result
  /-- Multiplies the powers that the binary digits of the exponent select. -/
  square (base : Float) (exponent : Nat) (result : Float) : Float :=
    let result := if exponent % 2 == 1 then result * base else result
    if exponent ≤ 1 then result else square (base * base) (exponent / 2) result
  termination_by exponent

/-- The absolute value of a number. -/
def absolute : Number → Number
  | int value => exactly value.toInt.natAbs value.toFloat.abs
  | float value => float value.abs

end Number

namespace Value

/-- The number that a value is. -/
def number? : Value → Option Number
  | int value => some (.int value)
  | float value => some (.float value)
  | _ => none

/-- The number that a value stands for: nothing is zero, and a text is what it writes. -/
def toNumber? : Value → Option Number
  | string text => Number.ofText? text
  | undefined | nil => some (.int 0)
  | value => value.number?

/-- The integer that a value is, also as a float without a fraction. -/
def integer? : Value → Option Int64
  | int value => some value
  | float value =>
    if Number.isIntegral value && value.abs < 9223372036854775808 then some (Number.integerPart value) else none
  | _ => none

/-- The float that a value is, or the nearest one to the integer that it is. -/
def float? (value : Value) : Option Float := value.number?.map Number.toFloat

end Value

end Liquid
