import Mathlib.Tactic.IntervalCases
import Mathlib.Algebra.Order.Group.Int
import Mathlib.Algebra.BigOperators.Group.List.Basic
import Mathlib.Logic.Function.Iterate
import Spreadsheet.Calendar

/-!
# Going through the calendar

The calendar by its rules: how long a month is, which day follows a day and which month follows a
month. The numbers of days are counted by these rules, every number is that of one valid day, and
so going a number of days or months ahead or back is an addition.
-/

namespace Spreadsheet

namespace Date

/-! ## The rules -/

/-- The length of a month. Every fourth year has a leap day, but of the full centuries only every
fourth has one. -/
def monthLength (year : ℤ) (month : ℕ) : ℕ :=
  if month = 2 then
    if 4 ∣ year ∧ ¬ 100 ∣ year ∨ 400 ∣ year then 29 else 28
  else if month ∈ [4, 6, 9, 11] then 30
  else 31

/-- The month is one of the year, and the day is one of the month. -/
structure IsValid (d : Date) : Prop where
  /-- Months are counted from one. -/
  month_pos : 1 ≤ d.month
  /-- A year has twelve months. -/
  month_le : d.month ≤ 12
  /-- Days are counted from one. -/
  day_pos : 1 ≤ d.day
  /-- The month is long enough. -/
  day_le : d.day ≤ monthLength d.year d.month

/-- The first day of the month after the month of a day. -/
def nextMonth (d : Date) : Date :=
  if d.month < 12 then ⟨d.year, d.month + 1, 1⟩ else ⟨d.year + 1, 1, 1⟩

/-- The day after a day. -/
def tomorrow (d : Date) : Date :=
  if d.day < monthLength d.year d.month then ⟨d.year, d.month, d.day + 1⟩ else d.nextMonth

/-- A number of steps leads from one day to another. Steps back lead to a day from which as many
steps lead ahead. -/
def Leads (step : Date → Date) (n : ℤ) (d e : Date) : Prop :=
  step^[n.toNat] d = step^[(-n).toNat] e

/-- The first day of a month. -/
structure IsFirst (d : Date) : Prop where
  /-- It is a day of the calendar. -/
  valid : d.IsValid
  /-- It is the first one of its month. -/
  day_eq : d.day = 1

/-! ## Steps and numbers -/

variable {good : Date → Prop} {step : Date → Date} {number : Date → ℤ} {d e : Date} {n year : ℤ}
  {month k : ℕ}

/-- Steps go through some of the days, and the days are numbered one after the other. -/
structure IsNumbering (good : Date → Prop) (step : Date → Date) (number : Date → ℤ) : Prop where
  /-- A step stays among the days. -/
  step_good {d : Date} : good d → good (step d)
  /-- A step has the next number. -/
  number_step {d : Date} : good d → number (step d) = number d + 1
  /-- The number tells which day it is. -/
  number_inj {d e : Date} : good d → good e → number d = number e → d = e

theorem IsNumbering.iterate (numbering : IsNumbering good step number) (is_good : good d) (k : ℕ) :
    good (step^[k] d) ∧ number (step^[k] d) = number d + k := by
  induction k with
  | zero => exact ⟨is_good, (Int.add_zero _).symm⟩
  | succ k ih =>
      obtain ⟨still_good, number_eq⟩ := ih
      rw [Function.iterate_succ_apply']
      refine ⟨numbering.step_good still_good, ?_⟩
      rw [numbering.number_step still_good, number_eq, Nat.cast_succ, Int.add_assoc]

/-- Going a number of steps adds the number. -/
theorem IsNumbering.leads_iff (numbering : IsNumbering good step number) (d_good : good d)
    (e_good : good e) :
    Leads step n d e ↔ number e = number d + n := by
  -- One of the two numbers of steps is zero.
  obtain ⟨ahead_good, ahead_eq⟩ := numbering.iterate d_good n.toNat
  obtain ⟨back_good, back_eq⟩ := numbering.iterate e_good (-n).toNat
  constructor
  · intro leads
    have same := congrArg number leads
    omega
  · intro number_eq
    exact numbering.number_inj ahead_good back_good (by omega)

/-! ## The lengths of months and years -/

/-- The length of a year. -/
def yearLength (year : ℤ) : ℕ := if isLeap year then 366 else 365

theorem isLeap_iff (year : ℤ) : isLeap year ↔ 4 ∣ year ∧ ¬ 100 ∣ year ∨ 400 ∣ year := by
  simp only [isLeap, Bool.and_eq_true, Bool.or_eq_true, beq_iff_eq, bne_iff_ne]
  omega

theorem monthLengths_getElem? (year : ℤ) (pos : 1 ≤ month) (le : month ≤ 12) :
    (monthLengths year)[month - 1]? = some (monthLength year month) := by
  simp only [monthLength, ← isLeap_iff]
  interval_cases month <;> rfl

theorem monthLength_pos (year : ℤ) (month : ℕ) : 1 ≤ monthLength year month := by
  unfold monthLength
  split_ifs <;> decide

theorem monthLength_le (year : ℤ) (month : ℕ) : monthLength year month ≤ 31 := by
  unfold monthLength
  split_ifs <;> decide

theorem daysBeforeMonth_one (year : ℤ) : daysBeforeMonth year 1 = 0 := rfl

theorem dayNumber_mk (year : ℤ) (month day : ℕ) :
    dayNumber ⟨year, month, day⟩ = daysBeforeYear year + daysBeforeMonth year month + day - 1 :=
  rfl

theorem daysBeforeMonth_eq (year : ℤ) (month : ℕ) :
    daysBeforeMonth year month = ((monthLengths year).take (month - 1)).sum :=
  List.sum_eq_foldl.symm

/-- The days before the next month are those of the month besides. -/
theorem daysBeforeMonth_succ (pos : 1 ≤ month) (le : month ≤ 12) :
    daysBeforeMonth year (month + 1) = daysBeforeMonth year month + monthLength year month := by
  obtain ⟨before, rfl⟩ := Nat.exists_eq_add_of_le' pos
  have length := monthLengths_getElem? year pos le
  rw [Nat.add_sub_cancel] at length
  rw [daysBeforeMonth_eq, daysBeforeMonth_eq, Nat.add_sub_cancel, Nat.add_sub_cancel,
    List.take_add_one, length, List.sum_append]
  rfl

/-- The months before the end of a year make up the year. -/
theorem daysBeforeMonth_thirteen (year : ℤ) : daysBeforeMonth year 13 = yearLength year := by
  rw [daysBeforeMonth_eq, monthLengths, yearLength]
  cases isLeap year <;> rfl

theorem daysBeforeMonth_le (year : ℤ) (pos : 1 ≤ month) (lt : month < k) (le : k ≤ 13) :
    daysBeforeMonth year month + monthLength year month ≤ daysBeforeMonth year k := by
  induction k, lt using Nat.le_induction with
  | base => rw [daysBeforeMonth_succ pos (by omega)]
  | succ k lt ih =>
      rw [daysBeforeMonth_succ (by omega) (by omega)]
      exact Nat.le_add_right_of_le (ih (by omega))

theorem daysBeforeYear_succ (year : ℤ) :
    daysBeforeYear (year + 1) = daysBeforeYear year + yearLength year := by
  have leap := isLeap_iff year
  rw [yearLength, daysBeforeYear, daysBeforeYear]
  split <;> rename_i isLeap
  · have rule := leap.mp isLeap
    omega
  · have rule := mt leap.mpr isLeap
    omega

theorem daysBeforeYear_le {later : ℤ} (lt : year < later) :
    daysBeforeYear year + yearLength year ≤ daysBeforeYear later := by
  rw [← daysBeforeYear_succ, daysBeforeYear, daysBeforeYear]
  omega

/-! ## The number of a day -/

/-- A day lies in its year. -/
theorem IsValid.dayNumber_bounds (valid : d.IsValid) :
    daysBeforeYear d.year ≤ dayNumber d ∧
      dayNumber d < daysBeforeYear d.year + yearLength d.year := by
  have inMonth := daysBeforeMonth_le d.year valid.month_pos (Nat.lt_succ_of_le valid.month_le)
    (Nat.le_refl 13)
  have day_pos := valid.day_pos
  have day_le := valid.day_le
  rw [daysBeforeMonth_thirteen] at inMonth
  rw [dayNumber]
  omega

theorem isFirst_mk (pos : 1 ≤ month) (le : month ≤ 12) : IsFirst ⟨year, month, 1⟩ :=
  ⟨⟨pos, le, Nat.le_refl 1, monthLength_pos year month⟩, rfl⟩

theorem isFirst_nextMonth (d : Date) : d.nextMonth.IsFirst := by
  rw [nextMonth]
  split <;> rename_i inYear
  · exact isFirst_mk (Nat.le_add_left 1 _) inYear
  · exact isFirst_mk (Nat.le_refl 1) (by decide)

theorem IsValid.dayNumber_nextMonth (valid : d.IsValid) :
    dayNumber d.nextMonth = daysBeforeYear d.year + daysBeforeMonth d.year (d.month + 1) := by
  rw [Date.nextMonth]
  split <;> rename_i inYear
  · rw [dayNumber_mk]
    omega
  · have last : d.month = 12 := Nat.le_antisymm valid.month_le (Nat.le_of_not_lt inYear)
    rw [last, daysBeforeMonth_thirteen, dayNumber_mk, daysBeforeYear_succ, daysBeforeMonth_one]
    omega

theorem IsValid.tomorrow (valid : d.IsValid) : d.tomorrow.IsValid := by
  rw [Date.tomorrow]
  split <;> rename_i inMonth
  · exact ⟨valid.month_pos, valid.month_le, Nat.le_add_left 1 _, inMonth⟩
  · exact (isFirst_nextMonth d).valid

/-- Days have numbers one after the other. -/
theorem IsValid.dayNumber_tomorrow (valid : d.IsValid) :
    dayNumber d.tomorrow = dayNumber d + 1 := by
  rw [Date.tomorrow]
  split <;> rename_i inMonth
  · rw [dayNumber_mk, dayNumber]
    omega
  · have last : d.day = monthLength d.year d.month :=
      Nat.le_antisymm valid.day_le (Nat.le_of_not_lt inMonth)
    rw [valid.dayNumber_nextMonth, daysBeforeMonth_succ valid.month_pos valid.month_le,
      dayNumber, last]
    omega

/-- Days with the same number agree in the year, then in the month and then in the day. -/
theorem IsValid.eq_of_dayNumber (d_valid : d.IsValid) (e_valid : e.IsValid)
    (same : dayNumber d = dayNumber e) :
    d = e := by
  have year_eq : d.year = e.year := by
    have d_bounds := d_valid.dayNumber_bounds
    have e_bounds := e_valid.dayNumber_bounds
    rcases lt_trichotomy d.year e.year with lt | eq | gt
    · have apart := daysBeforeYear_le lt
      omega
    · exact eq
    · have apart := daysBeforeYear_le gt
      omega
  obtain ⟨year, month, day⟩ := d
  obtain ⟨year', month', day'⟩ := e
  obtain rfl : year = year' := year_eq
  have d_day := d_valid.day_le
  have e_day := e_valid.day_le
  have d_pos := d_valid.day_pos
  have e_pos := e_valid.day_pos
  rw [dayNumber_mk, dayNumber_mk] at same
  dsimp only at d_day e_day d_pos e_pos
  have month_eq : month = month' := by
    have d_le : month ≤ 13 := Nat.le_succ_of_le d_valid.month_le
    have e_le : month' ≤ 13 := Nat.le_succ_of_le e_valid.month_le
    rcases lt_trichotomy month month' with lt | eq | gt
    · have apart : daysBeforeMonth year month + monthLength year month ≤
          daysBeforeMonth year month' :=
        daysBeforeMonth_le year d_valid.month_pos lt e_le
      omega
    · exact eq
    · have apart : daysBeforeMonth year month' + monthLength year month' ≤
          daysBeforeMonth year month :=
        daysBeforeMonth_le year e_valid.month_pos gt d_le
      omega
  subst month_eq
  rw [show day = day' by omega]

/-- The numbers of days count days. -/
theorem isNumbering_tomorrow : IsNumbering IsValid tomorrow dayNumber where
  step_good := IsValid.tomorrow
  number_step := IsValid.dayNumber_tomorrow
  number_inj := IsValid.eq_of_dayNumber

/-! ## The day of a number -/

/-- The days of a year are taken apart into full months and the days of one month. -/
theorem monthAndDay_spec (month : ℕ) (lengths : List ℕ) {days : ℕ} (within : days < lengths.sum) :
    ∃ before length after k, lengths = before ++ length :: after ∧ k < length ∧
      days = before.sum + k ∧
      monthAndDay month lengths days = (month + before.length, k + 1) := by
  induction lengths generalizing month days with
  | nil => exact absurd within (Nat.not_lt_zero _)
  | cons length lengths ih =>
      rw [List.sum_cons] at within
      rw [monthAndDay]
      split <;> rename_i inMonth
      · exact ⟨[], length, lengths, days, rfl, inMonth, (Nat.zero_add _).symm, rfl⟩
      · have within_rest : days - length < lengths.sum := by omega
        obtain ⟨before, last, after, k, rfl, k_lt, days_eq, result⟩ := ih (month + 1) within_rest
        refine ⟨length :: before, last, after, k, rfl, k_lt, ?_, ?_⟩
        · rw [List.sum_cons]
          omega
        · rw [result, List.length_cons, Nat.add_assoc, Nat.add_comm 1]

theorem sum_monthLengths (year : ℤ) : (monthLengths year).sum = yearLength year := by
  rw [← daysBeforeMonth_thirteen, daysBeforeMonth_eq]
  rfl

section Cycles

variable {cycle : ℤ} {century quad single : ℕ}

theorem daysBeforeYear_of_cycles (century_le : century ≤ 3) (quad_le : quad ≤ 24)
    (single_le : single ≤ 3) :
    daysBeforeYear (400 * cycle + 100 * century + 4 * quad + single + 1) =
      146097 * cycle + 36524 * century + 1461 * quad + 365 * single := by
  rw [daysBeforeYear]
  omega

/-- The last of four years is a leap year, except the last one of a century that is not the last of
four. -/
theorem isLeap_of_cycles (century_le : century ≤ 3) (quad_le : quad ≤ 24)
    (single_le : single ≤ 3) :
    isLeap (400 * cycle + 100 * century + 4 * quad + single + 1) ↔
      single = 3 ∧ (quad < 24 ∨ century = 3) := by
  rw [isLeap_iff]
  omega

/-- Every number lies in the year that the cycles of 400, 100, 4 and 1 years lead to. -/
theorem yearAndDay_spec (n : ℤ) :
    n = daysBeforeYear (yearAndDay n).1 + (yearAndDay n).2 ∧
      (yearAndDay n).2 < yearLength (yearAndDay n).1 := by
  obtain ⟨inCycle, inCycle_eq⟩ :=
    Int.eq_ofNat_of_zero_le (Int.emod_nonneg n (show (146097 : ℤ) ≠ 0 by decide))
  have cycle_eq := Int.mul_ediv_add_emod n 146097
  have inCycle_lt := Int.emod_lt_of_pos n (show (0 : ℤ) < 146097 by decide)
  rw [inCycle_eq] at cycle_eq inCycle_lt
  unfold yearAndDay
  rw [inCycle_eq, Int.toNat_natCast]
  dsimp only
  generalize n / 146097 = cycle at cycle_eq
  obtain ⟨century, century_eq⟩ : ∃ century, min (inCycle / 36524) 3 = century := ⟨_, rfl⟩
  rw [century_eq]
  obtain ⟨inCentury, inCentury_eq⟩ : ∃ inCentury, inCycle - 36524 * century = inCentury := ⟨_, rfl⟩
  rw [inCentury_eq]
  obtain ⟨single, single_eq⟩ : ∃ single, min (inCentury % 1461 / 365) 3 = single := ⟨_, rfl⟩
  rw [single_eq]
  -- The last day of a leap year fills up the last year of four, so that the quotients stay below
  -- the next digit.
  have century_le : century ≤ 3 := by omega
  have quad_le : inCentury / 1461 ≤ 24 := by omega
  have single_le : single ≤ 3 := by omega
  rw [daysBeforeYear_of_cycles century_le quad_le single_le, yearLength]
  refine ⟨by omega, ?_⟩
  simp only [isLeap_of_cycles century_le quad_le single_le]
  split_ifs with leap
  · omega
  · omega

end Cycles

theorem ofDayNumber_eq {n : ℤ} {month day : ℕ}
    (result : monthAndDay 1 (monthLengths (yearAndDay n).1) (yearAndDay n).2 = (month, day)) :
    ofDayNumber n = ⟨(yearAndDay n).1, month, day⟩ := by
  rw [ofDayNumber]
  generalize yearAndDay n = found at result ⊢
  obtain ⟨year, dayOfYear⟩ := found
  dsimp only at result ⊢
  rw [result]

/-- Every number is the number of a valid day. -/
theorem ofDayNumber_spec (n : ℤ) : (ofDayNumber n).IsValid ∧ dayNumber (ofDayNumber n) = n := by
  obtain ⟨number_eq, inYear⟩ := yearAndDay_spec n
  rw [← sum_monthLengths] at inYear
  obtain ⟨before, length, after, k, lengths_eq, k_lt, days_eq, result⟩ :=
    monthAndDay_spec 1 _ inYear
  have count := congrArg List.length lengths_eq
  rw [List.length_append, List.length_cons] at count
  change 12 = _ at count
  have month_le : 1 + before.length ≤ 12 := by omega
  have month_eq : 1 + before.length - 1 = before.length := Nat.add_sub_cancel_left ..
  have length_eq : monthLength (yearAndDay n).1 (1 + before.length) = length := by
    have there := monthLengths_getElem? (yearAndDay n).1
      (Nat.le_add_right 1 before.length) month_le
    rw [month_eq, lengths_eq, List.getElem?_append_right (Nat.le_refl _), Nat.sub_self] at there
    exact (Option.some.inj there).symm
  have before_eq : daysBeforeMonth (yearAndDay n).1 (1 + before.length) = before.sum := by
    rw [daysBeforeMonth_eq, month_eq, lengths_eq, List.take_left]
  rw [ofDayNumber_eq result]
  refine ⟨⟨Nat.le_add_right 1 _, month_le, Nat.le_add_left 1 _, ?_⟩, ?_⟩
  · rw [length_eq]
    exact k_lt
  · rw [dayNumber_mk]
    omega

/-! ## Months -/

/-- The number of a month, where January of the year zero has the number zero. -/
def monthNumber (d : Date) : ℤ := 12 * d.year + (d.month - 1)

theorem monthNumber_mk (year : ℤ) (month day : ℕ) :
    monthNumber ⟨year, month, day⟩ = 12 * year + (month - 1) := rfl

/-- The numbers of months count months. -/
theorem isNumbering_nextMonth : IsNumbering IsFirst nextMonth monthNumber where
  step_good _ := isFirst_nextMonth _
  number_step := by
    intro d first
    have month_le := first.valid.month_le
    rw [nextMonth]
    split
    · rw [monthNumber_mk, monthNumber]
      omega
    · rw [monthNumber_mk, monthNumber]
      omega
  number_inj := by
    rintro ⟨year, month, day⟩ ⟨year', month', day'⟩ ⟨⟨d_pos, d_le, -, -⟩, d_first⟩
      ⟨⟨e_pos, e_le, -, -⟩, e_first⟩ same
    rw [monthNumber_mk, monthNumber_mk] at same
    dsimp only at d_pos d_le d_first e_pos e_le e_first
    obtain rfl : year = year' := by omega
    obtain rfl : month = month' := by omega
    rw [d_first, e_first]

/-- Months are counted from January of a year. -/
theorem ofMonths_spec (year months : ℤ) :
    (ofMonths year months).IsFirst ∧ monthNumber (ofMonths year months) = 12 * year + months := by
  rw [ofMonths, monthNumber_mk]
  exact ⟨isFirst_mk (Nat.le_add_left 1 _) (by omega), by omega⟩

/-- The first day of a valid month is the month as many months after January as it stands behind
it. -/
theorem ofMonths_of_month (pos : 1 ≤ month) (le : month ≤ 12) :
    ofMonths year (month - 1) = ⟨year, month, 1⟩ := by
  have year_eq : (12 * year + ((month : ℤ) - 1)) / 12 = year := by omega
  have month_eq : ((12 * year + ((month : ℤ) - 1)) % 12).toNat + 1 = month := by omega
  rw [ofMonths, year_eq, month_eq]

end Date
end Spreadsheet
