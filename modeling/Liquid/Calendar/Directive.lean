import Liquid.Calendar.Moment

/-!
# Formatting moments

A format is a text in which a percent sign and the letter behind it name a part of the moment. A letter that names
nothing is written with its percent sign.
-/

namespace Liquid.Calendar

/-- The hour on a clock of twelve hours. -/
def twelveHour (hour : Nat) : Nat := if hour % 12 == 0 then 12 else hour % 12

/-- The part of a moment that a letter names. -/
def directive? (moment : Moment) : Char → Option String
  | 'Y' => some (toString moment.date.year)
  | 'y' => some (padded '0' 2 (moment.date.year % 100).toNat)
  | 'm' => some (padded '0' 2 moment.date.month)
  | 'd' => some (padded '0' 2 moment.date.day)
  | 'e' => some (padded ' ' 2 moment.date.day)
  | 'j' => some (padded '0' 3 moment.date.dayOfYear)
  | 'H' => some (padded '0' 2 moment.hour)
  | 'I' => some (padded '0' 2 (twelveHour moment.hour))
  | 'l' => some (padded ' ' 2 (twelveHour moment.hour))
  | 'M' => some (padded '0' 2 moment.minute)
  | 'S' => some (padded '0' 2 moment.second)
  | 'L' => some (padded '0' 3 (moment.nanosecond / 1000000))
  | 'p' => some (if moment.hour < 12 then "AM" else "PM")
  | 'P' => some (if moment.hour < 12 then "am" else "pm")
  | 'B' => some moment.date.monthName
  | 'b' | 'h' => some (String.ofList (moment.date.monthName.toList.take 3))
  | 'A' => some moment.date.weekdayName
  | 'a' => some (String.ofList (moment.date.weekdayName.toList.take 3))
  | 'u' => some (toString (if moment.date.daysFromSunday == 0 then 7 else moment.date.daysFromSunday))
  | 'w' => some (toString moment.date.daysFromSunday)
  | 's' => some (toString moment.seconds)
  | 'z' => some (offsetText moment.offset)
  | 'F' =>
    some (toString moment.date.year ++ "-" ++ padded '0' 2 moment.date.month ++ "-" ++
      padded '0' 2 moment.date.day)
  | 'T' =>
    some (padded '0' 2 moment.hour ++ ":" ++ padded '0' 2 moment.minute ++ ":" ++
      padded '0' 2 moment.second)
  | '%' => some "%"
  | _ => none

/-- The text that a format gives for a moment. -/
def format (moment : Moment) : List Char → List Char
  | '%' :: c :: rest =>
    match directive? moment c with
    | some part => part.toList ++ format moment rest
    | none => '%' :: c :: format moment rest
  | c :: rest => c :: format moment rest
  | [] => []

end Liquid.Calendar
