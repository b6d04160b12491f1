import Liquid.Decimal.Shortest

/-!
# Laying out digits

A notation decides where positional writing ends, what is written behind an integral number, and how the numbers
that are not finite are spelled. Writing a float selects its shortest digits and lays them out.
-/

namespace Liquid.Decimal

/-- The decisions of a number format. -/
structure Notation where
  /-- The least exponent of the leading digit that is written positionally. -/
  positionalFrom : Int
  /-- The least exponent of the leading digit from which on an exponent is written, if there is one. -/
  positionalBelow : Option Int
  /-- Whether an integral number is written with a point and a zero. -/
  pointZero : Bool
  /-- Whether an exponent that is not negative is written with its sign. -/
  plusSign : Bool
  tie : Tie
  notANumber : String
  infinite : String

namespace Notation

/-- Whether a leading digit of this exponent is written positionally. -/
def isPositional (notation_ : Notation) (exponent : Int) : Bool :=
  match notation_.positionalBelow with
  | some bound => notation_.positionalFrom ≤ exponent && exponent < bound
  | none => true

/-- Digits with the point at its place and zeros where there is no digit. -/
def positional (notation_ : Notation) (d : Digits) : List Char :=
  if d.point ≤ 0 then '0' :: '.' :: List.replicate (-d.point).toNat '0' ++ d.digits
  else
    let point := d.point.toNat
    if d.digits.length ≤ point then
      d.digits ++ List.replicate (point - d.digits.length) '0' ++
        (if notation_.pointZero then ['.', '0'] else [])
    else d.digits.take point ++ '.' :: d.digits.drop point

/-- One digit before the point, the others behind it, and an exponent. -/
def scientific (notation_ : Notation) (d : Digits) : List Char :=
  let head := d.digits.take 1
  let tail := d.digits.drop 1
  let mantissa := if tail.isEmpty then head else head ++ '.' :: tail
  let sign := if notation_.plusSign && 0 < d.point then ['+'] else []
  mantissa ++ 'e' :: sign ++ (toString (d.point - 1)).toList

/-- The text of a positive number. -/
def layout (notation_ : Notation) (d : Digits) : List Char :=
  if notation_.isPositional (d.point - 1) then notation_.positional d else notation_.scientific d

/-- The text of a float. -/
def write (notation_ : Notation) (x : Float) : String :=
  let bits := x.toBits
  let sign := if bits >>> 63 == 1 then "-" else ""
  if x.isNaN then notation_.notANumber
  else if x.isInf then sign ++ notation_.infinite
  else
    let binary := Binary.ofBits bits
    if binary.significand == 0 then sign ++ (if notation_.pointZero then "0.0" else "0")
    else sign ++ String.ofList (notation_.layout (binary.shortest notation_.tie))

end Notation

end Liquid.Decimal
