import Spreadsheet.Double.Binary

/-!
# The calendar

Days of the Gregorian calendar, extended to all years, and the serial numbers that sheets use for
them: whole days since 30 December 1899, with the time of day as the fraction.
-/

namespace Spreadsheet

/-- A day of the calendar. -/
structure Date where
  /-- The year; the year zero precedes the year one. -/
  year : Int
  /-- The month, from 1 to 12. -/
  month : Nat
  /-- The day of the month, from 1. -/
  day : Nat
deriving DecidableEq, Repr

namespace Date

/-- The year has a 29 February. -/
def isLeap (year : Int) : Bool := year % 4 == 0 && (year % 100 != 0 || year % 400 == 0)

/-- The lengths of the months of a year. -/
def monthLengths (year : Int) : List Nat :=
  [31, if isLeap year then 29 else 28, 31, 30, 31, 30, 31, 31, 30, 31, 30, 31]

/-- How many days lie between the first day of the year one and the first day of a year. -/
def daysBeforeYear (year : Int) : Int :=
  let past := year - 1
  365 * past + past / 4 - past / 100 + past / 400

/-- How many days of a year precede a month. -/
def daysBeforeMonth (year : Int) (month : Nat) : Nat :=
  ((monthLengths year).take (month - 1)).foldl (· + ·) 0

/-- The number of a day, where the first day of the year one has the number zero. -/
def dayNumber (d : Date) : Int :=
  daysBeforeYear d.year + daysBeforeMonth d.year d.month + d.day - 1

/-- The month and day of a day of the year counted from zero, given the lengths of the months from
some month on and the number of that month. -/
def monthAndDay (month : Nat) : List Nat → Nat → Nat × Nat
  | [], days => (month, days + 1)
  | length :: lengths, days =>
    if days < length then (month, days + 1) else monthAndDay (month + 1) lengths (days - length)

/-- The year that a day number lies in, and the day of that year counted from zero. The days are
taken apart into spans of 400, 100, 4 and 1 years; the last century of 400 years and the last year
of 4 are a day longer than the others. -/
def yearAndDay (number : Int) : Int × Nat :=
  let inCycle := (number % 146097).toNat
  let century := min (inCycle / 36524) 3
  let inCentury := inCycle - 36524 * century
  let quad := inCentury / 1461
  let inQuad := inCentury % 1461
  let single := min (inQuad / 365) 3
  (400 * (number / 146097) + 100 * century + 4 * quad + single + 1, inQuad - 365 * single)

/-- The day with a day number. -/
def ofDayNumber (number : Int) : Date :=
  let (year, dayOfYear) := yearAndDay number
  let (month, day) := monthAndDay 1 (monthLengths year) dayOfYear
  ⟨year, month, day⟩

/-- The first day of the month that lies a number of months after January of a year. -/
def ofMonths (year months : Int) : Date :=
  let total := 12 * year + months
  ⟨total / 12, (total % 12).toNat + 1, 1⟩

/-- The day number of the day that serial numbers count from. -/
def epoch : Int := 693593

/-- The serial number of a day. -/
def serial (d : Date) : Int := d.dayNumber - epoch

/-- The day of the week, counted from Monday as zero. -/
def weekday (d : Date) : Nat := (d.dayNumber % 7).toNat

end Date

/-- A second of the calendar. -/
structure Moment where
  /-- The day. -/
  date : Date
  /-- The second of the day. -/
  second : Nat
deriving DecidableEq, Repr

namespace Moment

/-- The seconds of a day. -/
def secondsPerDay : Nat := 86400

/-- The serial number of the last day of the year 9999, beyond which there are no dates. -/
def maxSerial : Int := 2958465

/-- The moment that a number of seconds follows the day that serial numbers count from. -/
def ofSeconds (seconds : Int) : Moment :=
  ⟨.ofDayNumber (Date.epoch + seconds / secondsPerDay), (seconds % secondsPerDay).toNat⟩

/-- The moment of a serial number, to the nearest second. There is none for negative numbers and
none beyond the last date. -/
def ofSerial? (serial : Float) : Option Moment :=
  if 0.0 ≤ serial ∧ serial ≤ Float.ofInt maxSerial then
    let days := Double.floor serial
    let seconds := Double.round ((serial - days) * Float.ofNat secondsPerDay)
    some (ofSeconds (Double.toInt days * secondsPerDay + Double.toInt seconds))
  else
    none

/-- The serial number of a moment. -/
def serial (m : Moment) : Float :=
  Float.ofInt m.date.serial + Float.ofNat m.second / Float.ofNat secondsPerDay

/-- The hour of the day. -/
def hour (m : Moment) : Nat := m.second / 3600

/-- The minute of the hour. -/
def minute (m : Moment) : Nat := m.second / 60 % 60

/-- The second of the minute. -/
def secondOfMinute (m : Moment) : Nat := m.second % 60

end Moment
end Spreadsheet
