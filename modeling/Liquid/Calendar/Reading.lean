import Liquid.Calendar.Moment
import Liquid.Decimal.Reading
import Liquid.Text.Blank

/-!
# Reading moments

A moment is written as a date, a time with an optional fraction and an offset, as a date with a time, or as a date
alone. Without an offset it is shown by a clock that has none.
-/

namespace Liquid.Calendar

/-- Reads exactly `count` digits. -/
def takeDigits (count : Nat) (text : List Char) : Option (Nat × List Char) :=
  if count ≤ text.length then
    (Decimal.digitsValue? (text.take count)).map fun value ↦ (value, text.drop count)
  else none

/-- Reads one given character. -/
def takeChar (c : Char) : List Char → Option (List Char)
  | d :: rest => if c == d then some rest else none
  | [] => none

/-- Reads a date whose year has four digits, with a sign in front if one is allowed. -/
def takeDate (signed : Bool) (text : List Char) : Option (Date × List Char) := do
  let (negative, text) := if signed then Decimal.splitSign text else (false, text)
  let (year, text) ← takeDigits 4 text
  let text ← takeChar '-' text
  let (month, text) ← takeDigits 2 text
  let text ← takeChar '-' text
  let (day, text) ← takeDigits 2 text
  let date : Date := ⟨if negative then -(year : Int) else year, month, day⟩
  if date.isValid then some (date, text) else none

/-- Reads hours, minutes and seconds with colons between them. -/
def takeTime (text : List Char) : Option ((Nat × Nat × Nat) × List Char) := do
  let (hour, text) ← takeDigits 2 text
  let text ← takeChar ':' text
  let (minute, text) ← takeDigits 2 text
  let text ← takeChar ':' text
  let (second, text) ← takeDigits 2 text
  some ((hour, minute, second), text)

/-- The nanoseconds that the digits of a fraction write; digits behind the ninth do not count. -/
def nanoseconds (fraction : List Char) : Nat :=
  let nine := (fraction ++ List.replicate 9 '0').take 9
  (Decimal.digitsValue? nine).getD 0

/-- Reads the fraction of a second, if there is one. -/
def takeFraction : List Char → Option (Nat × List Char)
  | '.' :: text =>
    let fraction := text.takeWhile Char.isDigit
    if fraction.isEmpty then none else some (nanoseconds fraction, text.dropWhile Char.isDigit)
  | text => some (0, text)

/-- Reads an offset: the letter Z or a sign with hours and minutes. -/
def takeOffset : List Char → Option (Int × List Char)
  | [] => none
  | c :: text =>
    if c == 'Z' || c == 'z' then some (0, text)
    else if c == '+' || c == '-' then do
      let (hours, text) ← takeDigits 2 text
      let text ← takeChar ':' text
      let (minutes, text) ← takeDigits 2 text
      if hours ≤ 23 && minutes ≤ 59 then
        let offset : Int := hours * 3600 + minutes * 60
        some (if c == '-' then -offset else offset, text)
      else none
    else none

/-- Whether a moment lies within the last second of a month, where a leap second may be inserted. -/
def mayLeap (moment : Moment) : Bool :=
  let plain : Moment := ⟨moment.seconds, 0, 0⟩
  plain.secondOfDay == 86399 && plain.date.day == daysInMonth plain.date.year plain.date.month

namespace Moment

/-- The moment that a date, a time and an offset write. A leap second stands for the end of the second before it. -/
def ofStamp? (text : List Char) : Option Moment := do
  let (date, text) ← takeDate false text
  let text ← match text with
    | c :: rest => if c.toNat < 0x80 then some rest else none
    | [] => none
  let ((hour, minute, second), text) ← takeTime text
  let (nanosecond, text) ← takeFraction text
  let (offset, text) ← takeOffset text
  if !text.isEmpty || hour > 23 || minute > 59 || second > 60 then none
  else if second == 60 then
    let moment := ofClock date (hour * 3600 + minute * 60 + 59) 999999999 offset
    if mayLeap moment then some moment else none
  else some (ofClock date (hour * 3600 + minute * 60 + second) nanosecond offset)

/-- The moment that a date with a time writes. -/
def ofDateTime? (text : List Char) : Option Moment := do
  let (date, text) ← takeDate true text
  let text ← takeChar ' ' text
  let ((hour, minute, second), text) ← takeTime text
  if !text.isEmpty || hour > 23 || minute > 59 || second > 59 then none
  else some (ofClock date (hour * 3600 + minute * 60 + second) 0 0)

/-- The moment at which a written date begins. -/
def ofDate? (text : List Char) : Option Moment := do
  let (date, text) ← takeDate true text
  if text.isEmpty then some (ofClock date 0 0 0) else none

/-- The moment that a text writes, as a unix time or in one of the written forms. -/
def ofText? (text : List Char) : Option Moment :=
  match Decimal.integer? text with
  | some seconds =>
    if -9223372036854775808 ≤ seconds && seconds ≤ 9223372036854775807 then ofUnix? seconds else none
  | none => ofStamp? text <|> ofDateTime? text <|> ofDate? text

end Moment

end Liquid.Calendar
