import Liquid.Decimal.Notation
import Liquid.Text.Quoted
import Liquid.Value.Basic

/-!
# Texts of values

A value has three texts: the one that templates print, the one that messages quote, and the one that JSON has for it.
The text of an object may say how far it has counted.
-/

namespace Liquid

/-- Templates print floats positionally, with the fewest digits, and mark them by a point. -/
def printedFloat : Decimal.Notation where
  positionalFrom := 0
  positionalBelow := none
  pointZero := true
  plusSign := false
  tie := .upward
  notANumber := "NaN"
  infinite := "Infinity"

/-- Messages quote floats positionally as long as the leading digit lies between `10 ^ -4` and `10 ^ 15`. -/
def quotedFloat : Decimal.Notation where
  positionalFrom := -4
  positionalBelow := some 16
  pointZero := true
  plusSign := false
  tie := .upward
  notANumber := "NaN"
  infinite := "inf"

/-- Markup repeats floats positionally and without a point behind an integral number. -/
def plainFloat : Decimal.Notation where
  positionalFrom := 0
  positionalBelow := none
  pointZero := false
  plusSign := false
  tie := .upward
  notANumber := "NaN"
  infinite := "inf"

/-- JSON has floats positionally as long as the leading digit lies between `10 ^ -5` and `10 ^ 15`, and writes the sign
of every exponent. -/
def jsonFloat : Decimal.Notation where
  positionalFrom := -5
  positionalBelow := some 16
  pointZero := true
  plusSign := true
  tie := .toEven
  notANumber := "null"
  infinite := "null"

/-- The text of a truth value. -/
def truthText (value : Bool) : String := if value then "true" else "false"

/-- The text of an object. -/
def Object.text (count : Nat) : Object → String
  | .forLoop _ length _ => "<forloop " ++ toString count ++ "/" ++ toString length ++ ">"
  | .tableRow _ length _ => "<tablerowloop " ++ toString count ++ "/" ++ toString length ++ ">"
  | .host text _ _ _ => text

namespace Value

/-- What a map shows of a value with the given text: texts are quoted and nothing is named. -/
def entryText (value : Value) (printed : String) : String :=
  match value with
  | string text => Text.Quoted.show_ text
  | undefined | nil => "nil"
  | _ => printed

mutual

/-- The text that templates print. -/
def text (tallies : Tallies) : Value → String
  | undefined | nil | empty | blank => ""
  | bool value => truthText value
  | int value => toString value.toInt
  | float value => printedFloat.write value
  | string text => text
  | seq items => itemsText tallies items
  | map entries => "\x7b" ++ entriesText tallies entries ++ "\x7d"
  | range first last => toString first.toInt ++ ".." ++ toString last.toInt
  | moment instant => instant.text
  | object id shown => shown.text (tallies.count id)

/-- The texts of items, one after the other. -/
def itemsText (tallies : Tallies) : List Value → String
  | [] => ""
  | item :: rest => text tallies item ++ itemsText tallies rest

/-- Keys with arrows to the texts of their values, separated by commas. -/
def entriesText (tallies : Tallies) : List (String × Value) → String
  | [] => ""
  | [(key, value)] => Text.Quoted.show_ key ++ "=>" ++ entryText value (text tallies value)
  | (key, value) :: rest =>
    Text.Quoted.show_ key ++ "=>" ++ entryText value (text tallies value) ++ ", " ++
      entriesText tallies rest

end

/-- A moment as messages quote it: with the fraction of the second and the seconds of the offset. -/
def quotedMoment (moment : Calendar.Moment) : String :=
  let date := moment.date
  let fraction := (Calendar.padded '0' 9 moment.nanosecond).toList
  let kept := (fraction.reverse.dropWhile (· == '0')).reverse
  let digits := if kept.isEmpty then ['0'] else kept
  let offset := moment.offset.natAbs
  Calendar.paddedSigned 4 date.year ++ "-" ++ Calendar.padded '0' 2 date.month ++ "-" ++
    Calendar.padded '0' 2 date.day ++ " " ++ toString moment.hour ++ ":" ++
    Calendar.padded '0' 2 moment.minute ++ ":" ++ Calendar.padded '0' 2 moment.second ++ "." ++
    String.ofList digits ++ " " ++ (if moment.offset < 0 then "-" else "+") ++
    Calendar.padded '0' 2 (offset / 3600) ++ ":" ++ Calendar.padded '0' 2 (offset / 60 % 60) ++ ":" ++
    Calendar.padded '0' 2 (offset % 60)

mutual

/-- The text that messages quote. -/
def quoted (tallies : Tallies) : Value → String
  | undefined => "undefined"
  | nil => "nil"
  | empty => "empty"
  | blank => "blank"
  | bool value => truthText value
  | int value => toString value.toInt
  | float value => quotedFloat.write value
  | string text => Text.Quoted.show_ text
  | seq items => "[" ++ quotedItems tallies items ++ "]"
  | map entries => "\x7b" ++ quotedEntries tallies entries ++ "\x7d"
  | range first last => "(" ++ toString first.toInt ++ ".." ++ toString last.toInt ++ ")"
  | moment instant => quotedMoment instant
  | object id shown => shown.text (tallies.count id)

/-- Quoted items, separated by commas. -/
def quotedItems (tallies : Tallies) : List Value → String
  | [] => ""
  | [item] => quoted tallies item
  | item :: rest => quoted tallies item ++ ", " ++ quotedItems tallies rest

/-- Quoted entries, separated by commas. -/
def quotedEntries (tallies : Tallies) : List (String × Value) → String
  | [] => ""
  | [(key, value)] => Text.Quoted.show_ key ++ ": " ++ quoted tallies value
  | (key, value) :: rest =>
    Text.Quoted.show_ key ++ ": " ++ quoted tallies value ++ ", " ++ quotedEntries tallies rest

end

/-- A character inside a JSON text. -/
def jsonChar (c : Char) : List Char :=
  if c == '"' then ['\\', '"']
  else if c == '\\' then ['\\', '\\']
  else if c == '\n' then ['\\', 'n']
  else if c == '\r' then ['\\', 'r']
  else if c == '\t' then ['\\', 't']
  else if c == '\x08' then ['\\', 'b']
  else if c == '\x0c' then ['\\', 'f']
  else if c.toNat < 0x20 then
    let digits := Nat.toDigits 16 c.toNat
    '\\' :: 'u' :: List.replicate (4 - digits.length) '0' ++ digits
  else [c]

/-- A JSON text. -/
def jsonText (text : String) : String :=
  String.ofList ('"' :: text.toList.flatMap jsonChar ++ ['"'])

/-- The integers of a range as JSON has them. -/
def jsonRange (first last : Int64) : String :=
  let count := (last.toInt - first.toInt + 1).toNat
  ",".intercalate ((List.range count).map fun (step : Nat) ↦ toString (first.toInt + step))

mutual

/-- The text that JSON has for a value. -/
def json (tallies : Tallies) : Value → String
  | undefined | nil | empty | blank => "null"
  | bool value => truthText value
  | int value => toString value.toInt
  | float value => if value.isNaN || value.isInf then "null" else jsonFloat.write value
  | string text => jsonText text
  | seq items => "[" ++ jsonItems tallies items ++ "]"
  | map entries => "\x7b" ++ jsonEntries tallies entries ++ "\x7d"
  | range first last => "[" ++ jsonRange first last ++ "]"
  | moment instant => jsonText instant.text
  | object _ (.host _ _ _ (some items)) => "[" ++ jsonItems tallies items ++ "]"
  | object id shown => jsonText (shown.text (tallies.count id))

/-- The JSON of items, separated by commas. -/
def jsonItems (tallies : Tallies) : List Value → String
  | [] => ""
  | [item] => json tallies item
  | item :: rest => json tallies item ++ "," ++ jsonItems tallies rest

/-- The JSON of entries, separated by commas. -/
def jsonEntries (tallies : Tallies) : List (String × Value) → String
  | [] => ""
  | [(key, value)] => jsonText key ++ ":" ++ json tallies value
  | (key, value) :: rest =>
    jsonText key ++ ":" ++ json tallies value ++ "," ++ jsonEntries tallies rest

end

end Value

end Liquid
