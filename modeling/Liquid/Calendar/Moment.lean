import Liquid.Calendar.Date

/-!
# Moments

A moment is a point on the time line together with the offset of the clock that shows it. Moments are compared by their
point alone, and shown by the clock.
-/

namespace Liquid.Calendar

/-- A point in time, in seconds and nanoseconds since the start of 1970, and the offset of a clock in seconds. -/
structure Moment where
  seconds : Int
  nanosecond : Nat
  offset : Int
deriving Repr, DecidableEq

namespace Moment

/-- The first and the last second that a moment of a unix time may have. -/
def unixBounds : Int × Int := (-377705116800, 253402300799)

/-- The moment of a unix time, shown without an offset; only years of four digits are known. -/
def ofUnix? (seconds : Int) : Option Moment :=
  if unixBounds.1 ≤ seconds && seconds ≤ unixBounds.2 then some ⟨seconds, 0, 0⟩ else none

/-- The moment at which a clock with the offset shows a date and a second of that day. -/
def ofClock (date : Date) (secondOfDay nanosecond : Nat) (offset : Int) : Moment :=
  ⟨date.toDays * 86400 + secondOfDay - offset, nanosecond, offset⟩

/-- The seconds that the clock shows since the start of 1970. -/
def clockSeconds (moment : Moment) : Int := moment.seconds + moment.offset

/-- The date that the clock shows. -/
def date (moment : Moment) : Date := Date.ofDays (moment.clockSeconds / 86400)

/-- The second of the day that the clock shows. -/
def secondOfDay (moment : Moment) : Nat := (moment.clockSeconds % 86400).toNat

/-- The hour that the clock shows. -/
def hour (moment : Moment) : Nat := moment.secondOfDay / 3600

/-- The minute that the clock shows. -/
def minute (moment : Moment) : Nat := moment.secondOfDay / 60 % 60

/-- The second that the clock shows. -/
def second (moment : Moment) : Nat := moment.secondOfDay % 60

/-- Whether two moments are the same point in time. -/
def sameInstant (a b : Moment) : Bool := a.seconds == b.seconds && a.nanosecond == b.nanosecond

/-- Orders moments by their point in time. -/
def compareInstant (a b : Moment) : Ordering :=
  (compare a.seconds b.seconds).then (compare a.nanosecond b.nanosecond)

end Moment

/-- A natural number with at least `width` characters, filled from the left. -/
def padded (fill : Char) (width n : Nat) : String :=
  let text := toString n
  String.ofList (List.replicate (width - text.length) fill) ++ text

/-- An integer whose sign and digits together take at least `width` characters. -/
def paddedSigned (width : Nat) (n : Int) : String :=
  if n < 0 then "-" ++ padded '0' (width - 1) n.natAbs else padded '0' width n.natAbs

/-- The offset of a clock as sign, hours and minutes. -/
def offsetText (offset : Int) : String :=
  (if offset < 0 then "-" else "+") ++ padded '0' 2 (offset.natAbs / 3600) ++
    padded '0' 2 (offset.natAbs / 60 % 60)

/-- The text of a moment: date, time and offset. -/
def Moment.text (moment : Moment) : String :=
  let date := moment.date
  s!"{paddedSigned 4 date.year}-" ++ padded '0' 2 date.month ++ "-" ++ padded '0' 2 date.day ++ " " ++
    padded '0' 2 moment.hour ++ ":" ++ padded '0' 2 moment.minute ++ ":" ++ padded '0' 2 moment.second ++ " " ++
    offsetText moment.offset

end Liquid.Calendar
