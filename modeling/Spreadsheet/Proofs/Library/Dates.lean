import Spreadsheet.Proofs.Calendar
import Spreadsheet.Proofs.Library.Arguments
import Spreadsheet.Proofs.Library.Calling

/-!
# Dates by year, month and day

The serial number of a year, a month and a day is the number of days from 30 December 1899 to the
day that is reached by going ahead or back by months and then by days. The parts of the serial
number are those of the day reached, so that they lead to the serial number again.
-/

namespace Spreadsheet
namespace Library
namespace Dates

open Date

variable {now : Moment} {y m d : Value} {year month day serial : ℤ} {date : Date} {s : Float}

/-- The year that a year is taken for: the years before 1900 count from 1900. -/
def completeYear (year : ℤ) : ℤ := if 0 ≤ year ∧ year < 1900 then year + 1900 else year

theorem fullYear_eq (year : ℤ) : fullYear year = .ok (completeYear year) := by
  rw [fullYear, completeYear]
  split <;> rename_i early
  · have lower : Int64.minValue.toInt = -9223372036854775808 := rfl
    have upper : Int64.maxValue.toInt = 9223372036854775807 := rfl
    rw [signed, if_pos (by omega)]
  · rfl

theorem find?_date : (standard now).find? "DATE" = some (.ternary "DATE" Dates.date) := by
  with_unfolding_all rfl

theorem find?_year : (standard now).find? "YEAR" = some (.unary "YEAR" (part (·.date.year))) := by
  with_unfolding_all rfl

theorem find?_month :
    (standard now).find? "MONTH" = some (.unary "MONTH" (part fun m => m.date.month)) := by
  with_unfolding_all rfl

theorem find?_day :
    (standard now).find? "DAY" = some (.unary "DAY" (part fun m => m.date.day)) := by
  with_unfolding_all rfl

/-- What a year, a month and a day amount to. -/
theorem call_date (yearRead : integer y = .ok year) (monthRead : integer m = .ok month)
    (dayRead : integer d = .ok day) :
    (standard now).call "DATE" [y, m, d] =
      match serialOf? (completeYear year) month day with
      | some serial => .number (Float.ofInt serial)
      | none => .error .number := by
  rw [call_ternary find?_date, Dates.date, yearRead, monthRead, dayRead]
  change valueOf (fullYear year >>= fun year => match serialOf? year month day with
    | some serial => whole serial
    | none => fail .number) = _
  rw [fullYear_eq]
  change valueOf (match serialOf? (completeYear year) month day with
    | some serial => whole serial
    | none => fail .number) = _
  cases serialOf? (completeYear year) month day with
  | none => rfl
  | some serial => rfl

/-! ## Serial numbers -/

/-- The day that serial numbers count from. -/
theorem dayNumber_start : dayNumber ⟨1899, 12, 30⟩ = epoch := by decide

/-- A number that is the result for a year, a month and a day is the serial number for them. -/
theorem exists_serialOf? (yearRead : integer y = .ok year) (monthRead : integer m = .ok month)
    (dayRead : integer d = .ok day) (called : (standard now).call "DATE" [y, m, d] = .number s) :
    ∃ serial, serialOf? (completeYear year) month day = some serial ∧ s = Float.ofInt serial := by
  rw [call_date yearRead monthRead dayRead] at called
  cases found : serialOf? (completeYear year) month day with
  | none =>
      rw [found] at called
      exact absurd called.symm (number_ne_error s .number)
  | some serial =>
      rw [found] at called
      exact ⟨serial, rfl, (CellValue.number.inj (Value.single.inj called)).symm⟩

/-- Serial numbers are counted from the first day of the month, and they are limited. -/
theorem serialOf?_eq_some (found : serialOf? year month day = some serial) :
    serial = (ofMonths year (month - 1)).serial + (day - 1) ∧ 0 ≤ serial ∧
      serial ≤ Moment.maxSerial := by
  rw [serialOf?] at found
  split at found <;> rename_i fits
  · obtain ⟨-, -, -, -, lower, upper⟩ := fits
    obtain rfl := Option.some.inj found
    exact ⟨rfl, lower, upper⟩
  · cases found

/-- The moment of a whole serial number is the beginning of its day. -/
theorem ofSerial?_ofInt (lower : 0 ≤ serial) (upper : serial ≤ Moment.maxSerial) :
    Moment.ofSerial? (Float.ofInt serial) = some ⟨ofDayNumber (epoch + serial), 0⟩ := by
  obtain ⟨n, rfl⟩ := Int.eq_ofNat_of_zero_le lower
  have n_le : n ≤ 2958465 := Int.ofNat_le.mp upper
  have small : n < 2 ^ 53 := by omega
  have zero_eq : (0.0 : Float) = Float.ofNat 0 := by decide +kernel
  have inRange : 0.0 ≤ Float.ofNat n ∧ Float.ofNat n ≤ Float.ofInt Moment.maxSerial := by
    refine ⟨?_, Double.ofNat_le_ofNat n_le (by decide)⟩
    rw [zero_eq]
    exact Double.ofNat_le_ofNat (Nat.zero_le n) small
  have noSeconds : Double.toInt (Double.round (0.0 * Float.ofNat Moment.secondsPerDay)) = 0 := by
    decide +kernel
  change Moment.ofSerial? (Float.ofNat n) = _
  rw [Moment.ofSerial?, if_pos inRange]
  dsimp only
  rw [Double.floor_ofNat small, Double.ofNat_sub_self small, noSeconds, Double.toInt_ofNat small,
    Int.add_zero, Moment.ofSeconds, Int.mul_ediv_cancel _ (by decide), Int.mul_emod_left]
  rfl

/-- The parts of a whole serial number are those of its day. -/
theorem part_ofInt {select : Moment → ℤ} (lower : 0 ≤ serial) (upper : serial ≤ Moment.maxSerial) :
    valueOf (part select (.number (Float.ofInt serial))) =
      .number (Float.ofInt (select ⟨ofDayNumber (epoch + serial), 0⟩)) := by
  have read : moment (.number (Float.ofInt serial)) = .ok ⟨ofDayNumber (epoch + serial), 0⟩ := by
    have given : number (.number (Float.ofInt serial)) = .ok (Float.ofInt serial) := rfl
    rw [moment, given]
    dsimp only [bind, Except.bind]
    rw [ofSerial?_ofInt lower upper]
  rw [part, read]
  rfl

/-- The year, the month and the day of a whole serial number. -/
theorem call_parts (now : Moment) (lower : 0 ≤ serial) (upper : serial ≤ Moment.maxSerial) :
    let call := (standard now).call
    let date := ofDayNumber (epoch + serial)
    call "YEAR" [.number (Float.ofInt serial)] = .number (Float.ofInt date.year) ∧
      call "MONTH" [.number (Float.ofInt serial)] = .count date.month ∧
      call "DAY" [.number (Float.ofInt serial)] = .count date.day :=
  ⟨(call_unary find?_year).trans (part_ofInt lower upper),
    (call_unary find?_month).trans (part_ofInt lower upper),
    (call_unary find?_day).trans (part_ofInt lower upper)⟩

/-- From the second day on, serial numbers are those of days from 1900 to 9999. -/
theorem year_bounds (valid : date.IsValid) (lower : 2 ≤ date.serial)
    (upper : date.serial ≤ Moment.maxSerial) :
    1900 ≤ date.year ∧ date.year ≤ 9999 := by
  have bounds := valid.dayNumber_bounds
  have first : daysBeforeYear 1900 = epoch + 2 := by decide
  have last : daysBeforeYear 9999 + yearLength 9999 = epoch + Moment.maxSerial + 1 := by decide
  rw [Date.serial] at lower upper
  constructor
  · by_contra early
    have before := daysBeforeYear_le (not_le.mp early)
    omega
  · by_contra late
    have behind := daysBeforeYear_le (not_le.mp late)
    omega

/-- A day from 1900 on is reached from its year, month and day. -/
theorem serialOf?_parts (valid : date.IsValid) (lower : 2 ≤ date.serial)
    (upper : date.serial ≤ Moment.maxSerial) :
    serialOf? (completeYear date.year) date.month date.day = some date.serial := by
  obtain ⟨year_ge, year_le⟩ := year_bounds valid lower upper
  have serial_eq : (⟨date.year, date.month, 1⟩ : Date).serial + (date.day - 1) = date.serial := by
    rw [Date.serial, Date.serial, dayNumber_mk, dayNumber]
    omega
  rw [completeYear, if_neg (by omega), serialOf?, ofMonths_of_month valid.month_pos valid.month_le]
  dsimp only
  rw [serial_eq]
  refine if_pos ⟨year_ge, year_le, ?_, ?_, by omega, upper⟩
  · exact Int.le_trans (by decide) year_ge
  · exact Int.le_trans year_le (by decide)

theorem call_date_parts (valid : date.IsValid) (lower : 2 ≤ date.serial)
    (upper : date.serial ≤ Moment.maxSerial) :
    (standard now).call "DATE" [.number (Float.ofInt date.year), .count date.month,
      .count date.day] =
      .number (Float.ofInt date.serial) := by
  obtain ⟨year_ge, year_le⟩ := year_bounds valid lower upper
  have month_le := valid.month_le
  have day_le : date.day ≤ 31 := Nat.le_trans valid.day_le (monthLength_le _ _)
  have yearRead : integer (.number (Float.ofInt date.year)) = .ok date.year :=
    integer_ofInt (by omega) (by omega)
  have monthRead : integer (.count date.month) = .ok date.month := integer_count (by omega)
  have dayRead : integer (.count date.day) = .ok date.day := integer_count (by omega)
  rw [call_date yearRead monthRead dayRead, serialOf?_parts valid lower upper]

theorem two_le_of_le_ofInt (lower : 0 ≤ serial) (late : 2.0 ≤ Float.ofInt serial) :
    2 ≤ serial := by
  by_contra early
  obtain rfl | rfl : serial = 0 ∨ serial = 1 := by omega
  · exact absurd late (by decide +kernel)
  · exact absurd late (by decide +kernel)

/-! ## Dates -/

/-- A year, a month and a day have the serial number of the day that is reached from the first day
of the year by going first by months and then by days, and its parts are those of the day. If the
day is not before 1900, the parts have the serial number again. -/
theorem date_rolls_over (now : Moment) (yearRead : integer y = .ok year)
    (monthRead : integer m = .ok month) (dayRead : integer d = .ok day)
    (called : (standard now).call "DATE" [y, m, d] = .number s) :
    let call := (standard now).call
    ∃ (first reached : Date) (serial : ℤ),
      (first.IsFirst ∧ Leads nextMonth (month - 1) ⟨completeYear year, 1, 1⟩ first) ∧
      (reached.IsValid ∧ Leads tomorrow (day - 1) first reached) ∧
      (Leads tomorrow serial ⟨1899, 12, 30⟩ reached ∧ s = Float.ofInt serial) ∧
      (call "YEAR" [.number s] = .number (Float.ofInt reached.year) ∧
        call "MONTH" [.number s] = .count reached.month ∧
        call "DAY" [.number s] = .count reached.day) ∧
      (2.0 ≤ s →
        call "DATE" [call "YEAR" [.number s], call "MONTH" [.number s], call "DAY" [.number s]] =
          .number s) := by
  dsimp only
  obtain ⟨serial, found, rfl⟩ := exists_serialOf? yearRead monthRead dayRead called
  obtain ⟨serial_eq, lower, upper⟩ := serialOf?_eq_some found
  obtain ⟨isFirst, first_number⟩ := ofMonths_spec (completeYear year) (month - 1)
  generalize ofMonths (completeYear year) (month - 1) = first at serial_eq isFirst first_number
  obtain ⟨reached_valid, reached_number⟩ := ofDayNumber_spec (epoch + serial)
  obtain ⟨years, months, days⟩ := call_parts now lower upper
  generalize ofDayNumber (epoch + serial) = reached
    at reached_valid reached_number years months days
  have january : IsFirst ⟨completeYear year, 1, 1⟩ := isFirst_mk (Nat.le_refl 1) (by decide)
  have start_valid : IsValid ⟨1899, 12, 30⟩ := ⟨by decide, by decide, by decide, by decide⟩
  refine ⟨first, reached, serial, ⟨isFirst, ?_⟩, ⟨reached_valid, ?_⟩, ⟨?_, rfl⟩,
    ⟨years, months, days⟩, fun late => ?_⟩
  · rw [isNumbering_nextMonth.leads_iff january isFirst, first_number, monthNumber_mk]
    omega
  · rw [isNumbering_tomorrow.leads_iff isFirst.valid reached_valid, reached_number, serial_eq,
      Date.serial]
    omega
  · rw [isNumbering_tomorrow.leads_iff start_valid reached_valid, reached_number, dayNumber_start]
  · have reached_serial : reached.serial = serial := by
      rw [Date.serial, reached_number]
      omega
    have two_le := two_le_of_le_ofInt lower late
    rw [years, months, days, ← reached_serial]
    exact call_date_parts reached_valid (reached_serial ▸ two_le) (reached_serial ▸ upper)

/-- Ten months back and one day back from the first day of 2001 is the leap day of 2000. -/
theorem date_rolls_over_to_leap_day :
    let call := (standard ⟨⟨2000, 1, 1⟩, 0⟩).call
    integer (.number 2001.0) = .ok 2001 ∧ integer (.number (-9.0)) = .ok (-9) ∧
      integer (.number 0.0) = .ok 0 ∧
      call "DATE" [.number 2001.0, .number (-9.0), .number 0.0] = .number 36585.0 ∧
      call "YEAR" [.number 36585.0] = .number (Float.ofInt 2000) ∧
      call "MONTH" [.number 36585.0] = .count 2 ∧
      call "DAY" [.number 36585.0] = .count 29 ∧
      call "DATE" [call "YEAR" [.number 36585.0], call "MONTH" [.number 36585.0],
        call "DAY" [.number 36585.0]] =
        .number 36585.0 := by
  intro call
  have yearRead : integer (.number 2001.0) = .ok 2001 := by decide +kernel
  have monthRead : integer (.number (-9.0)) = .ok (-9) := by decide +kernel
  have dayRead : integer (.number 0.0) = .ok 0 := by decide +kernel
  have serial_eq : 36585.0 = Float.ofInt 36585 := by decide +kernel
  have called : call "DATE" [.number 2001.0, .number (-9.0), .number 0.0] = .number 36585.0 := by
    have found : serialOf? (completeYear 2001) (-9) 0 = some 36585 := by decide
    exact (call_date yearRead monthRead dayRead).trans (by rw [found, serial_eq])
  obtain ⟨first, reached, serial, ⟨isFirst, months⟩, ⟨valid, days⟩, -,
      ⟨yearPart, monthPart, dayPart⟩, again⟩ :=
    date_rolls_over ⟨⟨2000, 1, 1⟩, 0⟩ yearRead monthRead dayRead called
  have first_eq : first = ⟨2000, 3, 1⟩ := by
    have march : IsFirst ⟨2000, 3, 1⟩ := isFirst_mk (by decide) (by decide)
    have january : IsFirst ⟨completeYear 2001, 1, 1⟩ := isFirst_mk (by decide) (by decide)
    exact isNumbering_nextMonth.number_inj isFirst march
      ((isNumbering_nextMonth.leads_iff january isFirst).mp months)
  have reached_eq : reached = ⟨2000, 2, 29⟩ := by
    have leapDay : IsValid ⟨2000, 2, 29⟩ := ⟨by decide, by decide, by decide, by decide⟩
    refine isNumbering_tomorrow.number_inj valid leapDay ?_
    rw [(isNumbering_tomorrow.leads_iff isFirst.valid valid).mp days, first_eq]
    decide
  rw [reached_eq] at yearPart monthPart dayPart
  exact ⟨yearRead, monthRead, dayRead, called, yearPart, monthPart, dayPart,
    again (by decide +kernel)⟩

end Dates
end Library
end Spreadsheet
