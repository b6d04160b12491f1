import Liquid.Calendar.Directive
import Liquid.Calendar.Reading
import Liquid.Filter.Basic
import Liquid.Filter.Sequence
import Liquid.Filter.Text
import Liquid.Text.Html
import Liquid.Text.Percent

/-!
# Built-in filters

The filters that every environment has unless it starts empty.
-/

namespace Liquid.Filter

open Text

/-- A filter that turns the text of a value into another text. -/
def onText (change : List Char → List Char) : Filter :=
  direct [.one .printed] fun (value, ()) ↦ .ofText (change value.toList)

/-- A filter on the texts of a value and of one argument. -/
def onTwoTexts (combine : List Char → List Char → List Char) : Filter :=
  direct [.one .printed, .one .printed] fun (value, argument, ()) ↦ .ofText (combine value.toList argument.toList)

/-- A filter that replaces a pattern, by nothing if no replacement is given. -/
def replacing (replace : List Char → List Char → List Char → List Char) : Filter :=
  direct [.one .printed, .one .printed, .one (.option .printed)] fun (value, pattern, replacement, ()) ↦
    .ofText (replace pattern.toList (replacement.getD "").toList value.toList)

/-- A filter on the items of a value; other values pass unchanged. -/
def onItems (change : List Value → List Value) : Filter :=
  direct [.one .value] fun (value, ()) ↦
    match value.items? with
    | some items => .seq (change items)
    | none => value

/-- The number of an operand; the verb names the operation in the fault. -/
def operand (verb : String) (tallies : Tallies) (value : Value) : Except Fault Number :=
  match value.toNumber? with
  | some number => .ok number
  | none => .error (.badOperand verb (value.text tallies))

/-- A filter that computes with numbers. -/
def arithmetic (verb : String) (operation : Number → Number → Except Fault Number) : Filter :=
  atOnce [.one .value, .one .value] fun (value, argument, ()) _ ↦ do
    let tallies := (← get).tallies
    let a ← operand verb tallies value
    let b ← operand verb tallies argument
    return (← operation a b).toValue

/-- The number that a filter works on. -/
def numberOf (tallies : Tallies) (value : Value) : Except Fault Number :=
  match value.toNumber? with
  | some number => .ok number
  | none => .error (.notANumber (value.text tallies))

/-- A number rounded to the given number of places, to an integer without places. -/
def round (places : Int) : Number → Number
  | .int value => .int value
  | .float value =>
    if places = 0 then .int (Number.integerPart value.round) else .float (Number.roundPlaces value places)

/-- The first or the last item of a value, or character of a text. -/
def itemAt (index : Int) (ofText : List Char → Option Char) : Filter :=
  direct [.one .value] fun (value, ()) ↦
    match value with
    | .string text => ((ofText text.toList).map Value.ofChar).getD .nil
    | _ => (value.index? index).getD .nil

/-- The pieces of a text between the occurrences of a separator, which is a space unless it is given. -/
def splitText : Filter :=
  direct [.one .printed, .one (.option .printed)] fun (value, separator, ()) ↦
    .seq ((split (separator.getD " ").toList value.toList).map Value.ofText)

/-- The texts of the items with a separator between them; a text stays as it is. -/
def join : Filter :=
  atOnce [.one .value, .one (.option .printed)] fun (value, separator, ()) _ ↦ do
    let tallies := (← get).tallies
    match value with
    | .string text => return .string text
    | _ =>
      match value.items? with
      | some items => return .string ((separator.getD " ").intercalate (items.map (·.text tallies)))
      | none => return .string (value.text tallies)

/-- The items or the characters in reverse. -/
def reverse : Filter :=
  direct [.one .value] fun (value, ()) ↦
    match value with
    | .string text => .ofText text.toList.reverse
    | _ =>
      match value.items? with
      | some items => .seq items.reverse
      | none => value

/-- Sorts items by themselves or by a member. -/
def sort : Filter :=
  atOnce [.context, .one .value, .one (.option .printed)] fun (value, key, ()) ↦
    match value.items? with
    | some items => do return .seq (← Query.counting fun context ↦ sortItems context key items)
    | none => return value

/-- A member of each item, or of a value without items. -/
def map : Filter :=
  atOnce [.context, .one .value, .one .printed] fun (value, key, ()) ↦
    match value.items? with
    | some items => do return .seq (← Query.counting fun context ↦ membersOf context key items)
    | none => do return (← Query.counting fun context ↦ context.member? value key).getD .nil

/-- A part of a text, from a level on also of a sequence; one character or item unless a length is given. -/
def slice : Filter :=
  atOnce [.context, .one .value, .one (.integer .signed64), .one (.option (.integer .signed64))]
    fun (value, start, length, ()) context ↦ do
      let length : Int := length.getD 1
      match value, context.level.includes .liquid22a with
      | .seq items, true => return .seq ((slice? start length items).getD [])
      | _, _ => return .ofText ((slice? start length (value.text (← get).tallies).toList).getD [])

/-- The fallback for values that are false or empty. -/
def fallback : Filter :=
  direct [.one .value, .one (.option .value)] fun (value, other, ()) ↦
    if !value.isTruthy || value.isEmpty then other.getD (.string "") else value

/-- The moment that a value stands for. -/
def toMoment? (value : Value) : Option Calendar.Moment :=
  match value with
  | .moment instant => some instant
  | .string text => Calendar.Moment.ofText? (trim text.toList)
  | _ => value.integer?.bind fun seconds ↦ Calendar.Moment.ofUnix? seconds.toInt

/-- Formats moments; other values and empty formats change nothing. -/
def date : Filter :=
  direct [.one .value, .one .printed] fun (value, format, ()) ↦
    if format.isEmpty then value
    else
      match toMoment? value with
      | some instant => .ofText (Calendar.format instant format.toList)
      | none => value

/-- The escaped text of a value. -/
def escape : Filter :=
  direct [.one (.option .printed)] fun (value, ()) ↦ .ofText (Html.escape (value.getD "").toList)

/-- The built-in filters with their names. -/
def builtins : List (String × Filter) :=
  [("escape", escape),
    ("h", escape),
    ("size", direct [.one .value] fun (value, ()) ↦ .ofCount (value.length?.getD 0)),
    ("upcase", onText upper),
    ("downcase", onText lower),
    ("capitalize", atOnce [.context, .one .printed] fun (value, ()) context ↦
      return .ofText (capitalize context.level value.toList)),
    ("append", onTwoTexts fun value suffix ↦ value ++ suffix),
    ("prepend", onTwoTexts fun value beginning ↦ beginning ++ value),
    ("strip", onText trim),
    ("lstrip", onText trimStart),
    ("rstrip", onText trimEnd),
    ("replace", replacing replaceAll),
    ("replace_first", replacing replaceOnce),
    ("remove", onTwoTexts fun value pattern ↦ replaceAll pattern [] value),
    ("remove_first", onTwoTexts fun value pattern ↦ replaceOnce pattern [] value),
    ("truncate", direct [.one .printed, .one (.option (.integer .signed64)), .one (.option .printed)]
      fun (value, length, ellipsis, ()) ↦
        .ofText (truncate (length.getD 50).toNat (ellipsis.getD "...").toList value.toList)),
    ("truncatewords", direct [.one .printed, .one (.option (.integer .signed64)), .one (.option .printed)]
      fun (value, count, ellipsis, ()) ↦
        .ofText (truncateWords (max (count.getD 15) 1).toNat (ellipsis.getD "...").toList value.toList)),
    ("split", splitText),
    ("join", join),
    ("first", itemAt 0 List.head?),
    ("last", itemAt (-1) List.getLast?),
    ("reverse", reverse),
    ("sort", sort),
    ("uniq", onItems uniqueItems),
    ("map", map),
    ("compact", onItems fun items ↦ items.filter (!·.isNil)),
    ("slice", slice),
    ("default", fallback),
    ("plus", arithmetic "add" fun a b ↦ .ok (a.add b)),
    ("minus", arithmetic "subtract" fun a b ↦ .ok (a.subtract b)),
    ("times", arithmetic "multiply" fun a b ↦ .ok (a.multiply b)),
    ("divided_by", arithmetic "divide" Number.divide),
    ("modulo", arithmetic "modulo" Number.remainder),
    ("round", atOnce [.one .value, .one (.option (.integer .signed32))] fun (value, places, ()) _ ↦ do
      return (round (places.getD 0) (← numberOf (← get).tallies value)).toValue),
    ("abs", atOnce [.one .value] fun (value, ()) _ ↦ do
      return (← numberOf (← get).tallies value).absolute.toValue),
    ("newline_to_br", onText newlineToBreak),
    ("strip_newlines", onText stripNewlines),
    ("date", date),
    ("json", atOnce [.one .value] fun (value, ()) _ ↦ do
      return .string (value.json (← get).tallies)),
    ("url_encode", onText Percent.encode),
    ("url_decode", onText Percent.decode)]

end Liquid.Filter
