import Spreadsheet.Calendar
import Spreadsheet.Library.Arguments

/-!
# Date functions

Dates as serial numbers, and the parts of dates and times. The two functions that ask for the
present are given it when the library is built.
-/

namespace Spreadsheet
namespace Library
namespace Dates

/-- An integer as the result of a call. -/
def whole (n : Int) : Outcome Value := .ok (.number (Float.ofInt n))

/-- The moment that an argument is the serial number of. -/
def moment (argument : Value) : Outcome Moment := do
  match Moment.ofSerial? (← number argument) with
  | some m => .ok m
  | none => fail .number

/-- The years before 1900 count from 1900. -/
def fullYear (year : Int) : Outcome Int :=
  if 0 ≤ year ∧ year < 1900 then signed (year + 1900) else .ok year

/-- The first and the last year that months may roll over to. -/
def rollOverYears : Int × Int := (-262143, 262142)

/-- The serial number of a date, where months and days roll over into the periods around them. The
year given has to be between 1900 and 9999, and the date reached has to have a serial number. -/
def serialOf? (year month day : Int) : Option Int :=
  let first := Date.ofMonths year (month - 1)
  let serial := first.serial + (day - 1)
  if 1900 ≤ year ∧ year ≤ 9999 ∧
      rollOverYears.1 ≤ first.year ∧ first.year ≤ rollOverYears.2 ∧
      0 ≤ serial ∧ serial ≤ Moment.maxSerial then
    some serial
  else
    none

/-- The serial number of a year, a month and a day. -/
def date (yearArgument monthArgument dayArgument : Value) : Outcome Value := do
  let year ← integer yearArgument
  let month ← integer monthArgument
  let day ← integer dayArgument
  match serialOf? (← fullYear year) month day with
  | some serial => whole serial
  | none => fail .number

/-- A part of the moment that an argument is the serial number of. -/
def part (select : Moment → Int) (argument : Value) : Outcome Value := do
  whole (select (← moment argument))

/-- The number of a day of the week. The week begins with Sunday as one, with Monday as one or with
Monday as zero. -/
def weekday (argument : Value) (system : Option Value) : Outcome Value := do
  let day := (← moment argument).date.weekday
  match ← optional integer 1 system with
  | 1 => whole ((day + 1) % 7 + 1)
  | 2 => whole (day + 1)
  | 3 => whole day
  | _ => fail .number

/-- The whole days between two dates. -/
def daysBetween (last first : Value) : Outcome Value := do
  let stop := Double.floor (← number last)
  let start := Double.floor (← number first)
  return .number (stop - start)

/-- The date functions of the library, given the present. -/
def definitions (now : Moment) : List Definition :=
  [ .nullary "NOW" (.number now.serial),
    .nullary "TODAY" (.number (Float.ofInt now.date.serial)),
    .ternary "DATE" date,
    .unary "YEAR" (part (·.date.year)),
    .unary "MONTH" (part fun m => m.date.month),
    .unary "DAY" (part fun m => m.date.day),
    .oneOrTwo "WEEKDAY" weekday,
    .unary "HOUR" (part fun m => m.hour),
    .unary "MINUTE" (part fun m => m.minute),
    .unary "SECOND" (part fun m => m.secondOfMinute),
    .binary "DAYS" daysBetween ]

end Dates
end Library
end Spreadsheet
