import Liquid.Context.Basic

/-!
# Stock format providers

Ways to show numbers and moments that a host can choose.
-/

namespace Liquid.Host

/-- Shows numbers with a fraction with a decimal comma. -/
def decimalComma : FormatProvider where
  number? number :=
    let x := number.toFloat
    if Number.isIntegral x then none
    else some (String.ofList ((plainFloat.write x).toList.map fun c ↦ if c == '.' then ',' else c))
  moment? _ := none

/-- Shows numbers, and of moments the years, in brackets. -/
def brackets : FormatProvider where
  number? number := some ("<" ++ number.toValue.text [] ++ ">")
  moment? moment := some ("<" ++ toString moment.date.year ++ ">")

/-- Formats nothing. -/
def unformatted : FormatProvider := ⟨fun _ ↦ none, fun _ ↦ none⟩

/-- The stock format provider of a name. -/
def format? (name : String) : Option FormatProvider :=
  match name with
  | "comma" => some decimalComma
  | "brackets" => some brackets
  | "nothing" | "defaults" => some unformatted
  | _ => none

end Liquid.Host
