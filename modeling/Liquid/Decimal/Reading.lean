/-!
# Reading numbers

An integer is an optional sign followed by digits. A float may have a point with digits on at least one side of it and
an exponent, or is one of the words for infinity and for what is not a number. A written number denotes the nearest
float.
-/

namespace Liquid.Decimal

/-- The value of a text that consists of digits, at least one. -/
def digitsValue? (text : List Char) : Option Nat :=
  if text.isEmpty || !text.all Char.isDigit then none
  else some (text.foldl (fun value c ↦ value * 10 + (c.toNat - '0'.toNat)) 0)

/-- Splits off a sign: whether the number is negative, and the rest. -/
def splitSign : List Char → Bool × List Char
  | '-' :: rest => (true, rest)
  | '+' :: rest => (false, rest)
  | text => (false, text)

/-- The integer that a text writes. -/
def integer? (text : List Char) : Option Int :=
  let (negative, digits) := splitSign text
  (digitsValue? digits).map fun value ↦ if negative then -(value : Int) else (value : Int)

/-- The float nearest to `digits * 10 ^ ten`; exponents far outside the range are decided by size alone. -/
def nearest (digits : Nat) (ten : Int) : Float :=
  let size := ten + (Nat.toDigits 10 digits).length
  if digits == 0 then 0
  else if size > 400 then Float.ofBits 0x7FF0000000000000
  else if size < -400 then 0
  else Float.ofScientific digits (ten < 0) ten.natAbs

/-- The float of half the width that is nearest to `digits * 10 ^ ten`. -/
def nearestSingle (digits : Nat) (ten : Int) : Float :=
  let size := ten + (Nat.toDigits 10 digits).length
  if digits == 0 then 0
  else if size > 400 then Float.ofBits 0x7FF0000000000000
  else if size < -400 then 0
  else (Float32.ofScientific digits (ten < 0) ten.natAbs).toFloat

/-- The digits and the power of ten of a number without sign and exponent. -/
def mantissa? (text : List Char) : Option (Nat × Int) :=
  let whole := text.takeWhile Char.isDigit
  match text.dropWhile Char.isDigit with
  | [] => (digitsValue? whole).map fun value ↦ (value, 0)
  | '.' :: fraction =>
    if fraction.all Char.isDigit then
      (digitsValue? (whole ++ fraction)).map fun value ↦ (value, -(fraction.length : Int))
    else none
  | _ => none

/-- The float that a text without a sign writes; `round` gives the float of a decimal. -/
def unsignedFloat? (round : Nat → Int → Float) (text : List Char) : Option Float :=
  let lowered := text.map Char.toLower
  if lowered == "inf".toList || lowered == "infinity".toList then some (Float.ofBits 0x7FF0000000000000)
  else if lowered == "nan".toList then some (Float.ofBits 0x7FF8000000000000)
  else
    match lowered.dropWhile (· != 'e') with
    | [] => (mantissa? lowered).map fun (digits, ten) ↦ round digits ten
    | _ :: exponent => do
      let (digits, ten) ← mantissa? (lowered.takeWhile (· != 'e'))
      let shift ← integer? exponent
      some (round digits (ten + shift))

/-- The float that a text writes; `round` gives the float of a decimal. -/
def floatWith? (round : Nat → Int → Float) (text : List Char) : Option Float :=
  let (negative, rest) := splitSign text
  (unsignedFloat? round rest).map fun x ↦ if negative then -x else x

/-- The float that a text writes. -/
def float? : List Char → Option Float := floatWith? nearest

/-- The float of half the width that a text writes. -/
def single? : List Char → Option Float := floatWith? nearestSingle

end Liquid.Decimal
