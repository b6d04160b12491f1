import Liquid.Value.Text

/-!
# Stock objects

Objects that a host can offer to its templates: an amount of money, a counter, a greeter and a shelf of items.
-/

namespace Liquid.Host

/-- An amount of money, given in cents. -/
def money (cents : Int64) : Object :=
  let whole := toString (Int.tdiv cents.toInt 100)
  let part := Calendar.paddedSigned 2 (Int.tmod cents.toInt 100)
  .host ("$" ++ whole ++ "." ++ part) true
    [("cents", .constant (.int cents)),
      ("amount", .constant (.float (cents.toFloat / 100))),
      ("is_free", .constant (.bool (cents == 0)))]
    none

/-- An object whose member counts how often it has been read. -/
def counter : Object := .host "<counter>" true [("next", .tally)] none

/-- An object that greets whoever a variable names. -/
def greeter : Object := .host "Greeter" true [("greeting", .phrase "Hello " "who" "nobody")] none

/-- Items that can be walked over, and nothing else. -/
def shelf (items : List Value) : Object :=
  .host ("<shelf " ++ toString items.length ++ ">") (!items.isEmpty) [] (some items)

end Liquid.Host
