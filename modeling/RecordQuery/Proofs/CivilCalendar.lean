import Mathlib.Tactic.IntervalCases
import RecordQuery.Calendar

/-!
# Days and dates

Days count the dates of the calendar without a gap: the date of a day is the one valid date whose
day it is, and the day after a date is that of the next date.
-/

namespace RecordQuery.CivilDate

/-! ### Years of a cycle -/

theorem isLeapYear_iff {year : Int} :
    isLeapYear year = true ↔ year % 4 = 0 ∧ (year % 100 ≠ 0 ∨ year % 400 = 0) := by
  simp [isLeapYear]

/-- The number of days of a year from March to February, whose leap day is that of the next civil
year. -/
def yearLength (year : Int) : Int := if isLeapYear (year + 1) then 366 else 365

/-- The days from the start of a cycle of 400 years to the start of a year of it. -/
def yearStart (year : Int) : Int := year * 365 + year / 4 - year / 100

/-- The year of a cycle that a day of it lies in. -/
def yearOfCycle (day : Int) : Int := (day - day / 1460 + day / 36524 - day / 146096) / 365

/-- The length of a year by the multiples of 4, 100 and 400 that the next civil year passes. -/
theorem yearLength_eq (year : Int) :
    yearLength year = 365 + ((year + 1) / 4 - year / 4) - ((year + 1) / 100 - year / 100) +
      ((year + 1) / 400 - year / 400) := by
  unfold yearLength
  split
  next leap =>
    rw [isLeapYear_iff] at leap
    omega
  next common =>
    rw [isLeapYear_iff] at common
    omega

theorem yearLength_cases (year : Int) :
    yearLength year = 365 ∧ (year % 4 ≠ 3 ∨ year % 100 = 99 ∧ year % 400 ≠ 399) ∨
      yearLength year = 366 ∧ year % 4 = 3 ∧ (year % 100 ≠ 99 ∨ year % 400 = 399) := by
  have length := yearLength_eq year
  omega

theorem yearLength_add_cycle (year cycle : Int) :
    yearLength (year + cycle * 400) = yearLength year := by
  rw [yearLength_eq, yearLength_eq]
  omega

/-- The start of a year by its century, the fours of years in that and its place among them. -/
theorem yearStart_eq {century fours place : Int} (few : 0 ≤ fours) (fits : fours < 25)
    (low : 0 ≤ place) (high : place < 4) :
    yearStart (100 * century + 4 * fours + place) =
      36524 * century + 1461 * fours + 365 * place := by
  unfold yearStart
  omega

/-- The days of a year are found to be in it. -/
theorem yearOfCycle_add {year day : Int} (first : 0 ≤ year) (last : year < 400) (low : 0 ≤ day)
    (high : day < yearLength year) : yearOfCycle (yearStart year + day) = year := by
  have lengths := yearLength_cases year
  obtain ⟨century, fours, place, rfl, _, _, _, _, _, _⟩ : ∃ century fours place : Int,
      year = 100 * century + 4 * fours + place ∧ 0 ≤ century ∧ century < 4 ∧ 0 ≤ fours ∧
        fours < 25 ∧ 0 ≤ place ∧ place < 4 :=
    ⟨year / 100, year % 100 / 4, year % 4, by omega⟩
  have longest : day < 365 ∨ day = 365 ∧ place = 3 ∧ (fours < 24 ∨ century = 3) := by omega
  clear lengths
  rw [yearStart_eq (by omega) (by omega) (by omega) (by omega)]
  unfold yearOfCycle
  generalize total : 36524 * century + 1461 * fours + 365 * place + day = days
  -- Whole fours of years hold a day more than 1460. The days in excess are one more four of years
  -- at the end of it only.
  have split_fours : days / 1460 =
      25 * century + fours + (24 * century + fours + 365 * place + day) / 1460 := by omega
  by_cases within : 24 * century + fours + 365 * place + day < 1460
  · have none_more : (24 * century + fours + 365 * place + day) / 1460 = 0 := by omega
    have centuries : days / 36524 = century := by omega
    have cycles : days / 146096 = 0 := by omega
    omega
  · have one_more : (24 * century + fours + 365 * place + day) / 1460 = 1 := by omega
    have fourth : place = 3 := by omega
    have later : 0 < day := by omega
    by_cases final : century = 3 ∧ fours = 24 ∧ day = 365
    · omega
    · have centuries : days / 36524 = century := by omega
      have cycles : days / 146096 = 0 := by omega
      omega

/-- Each day of a cycle is in one of its years. -/
theorem exists_year {days : Int} (low : 0 ≤ days) (high : days < 146097) :
    ∃ year day, 0 ≤ year ∧ year < 400 ∧ 0 ≤ day ∧ day < yearLength year ∧
      days = yearStart year + day := by
  obtain ⟨century, inCentury, rfl, _, _, _, _⟩ : ∃ century rest : Int,
      days = 36524 * century + rest ∧ 0 ≤ century ∧ century < 4 ∧ 0 ≤ rest ∧
        (rest < 36524 ∨ rest = 36524 ∧ century = 3) := by
    -- Only the fourth century of a cycle ends with a leap day, which would begin a fifth.
    by_cases final : days = 146096
    · exact ⟨3, 36524, by omega⟩
    · exact ⟨days / 36524, days % 36524, by omega⟩
  obtain ⟨fours, inFours, rfl, _, _, _, _⟩ : ∃ fours rest : Int,
      inCentury = 1461 * fours + rest ∧ 0 ≤ fours ∧ fours < 25 ∧ 0 ≤ rest ∧ rest < 1461 :=
    ⟨inCentury / 1461, inCentury % 1461, by omega⟩
  obtain ⟨place, day, rfl, _, _, _, _⟩ : ∃ place rest : Int,
      inFours = 365 * place + rest ∧ 0 ≤ place ∧ place < 4 ∧ 0 ≤ rest ∧
        (rest < 365 ∨ rest = 365 ∧ place = 3) := by
    -- The leap day would begin a fifth year.
    by_cases final : inFours = 1460
    · exact ⟨3, 365, by omega⟩
    · exact ⟨inFours / 365, inFours % 365, by omega⟩
  refine ⟨100 * century + 4 * fours + place, day, by omega, by omega, by omega, ?_, ?_⟩
  · have lengths := yearLength_cases (100 * century + 4 * fours + place)
    by_cases leap : day = 365 <;> omega
  · rw [yearStart_eq (by omega) (by omega) (by omega) (by omega)]
    omega

/-! ### Months of a year from March -/

/-- The days from the first of March to the first of a month, March having the number 0. -/
def monthStart (month : Int) : Int := (153 * month + 2) / 5

/-- The number of a month in a year from March. -/
def marchMonth (month : Nat) : Int := ((month : Int) + 9) % 12

/-- The month that has a number in a year from March. -/
def civilMonth (month : Int) : Int := if month < 10 then month + 3 else month - 9

/-- The year from March that a date is in. -/
def marchYear (date : CivilDate) : Int := if date.month ≤ 2 then date.year - 1 else date.year

/-- The days from the first of March to a date. -/
def dayOfYear (date : CivilDate) : Int := monthStart (marchMonth date.month) + date.day - 1

/-- The date of a day of a year from March. -/
def ofYear (year day : Int) : CivilDate :=
  let month := (5 * day + 2) / 153
  { year := if civilMonth month ≤ 2 then year + 1 else year
    month := (civilMonth month).toNat
    day := (day - monthStart month + 1).toNat }

theorem isValid_iff {date : CivilDate} :
    date.isValid = true ↔ 1 ≤ date.month ∧ date.month ≤ 12 ∧ 1 ≤ date.day ∧
      date.day ≤ monthLength date.year date.month := by
  simp [isValid, and_assoc]

/-- The months other than February have one length in all years. -/
theorem monthLength_eq {year : Int} {month : Nat} (low : 1 ≤ month) (high : month ≤ 12)
    (other : month ≠ 2) :
    (monthLength year month : Int) =
      monthStart (marchMonth month + 1) - monthStart (marchMonth month) := by
  interval_cases month
  all_goals first | exact absurd rfl other | rfl

/-- February is what the other months leave of a year. -/
theorem monthLength_february (year : Int) :
    (monthLength year 2 : Int) = yearLength (year - 1) - monthStart 11 := by
  unfold monthLength yearLength
  rw [Int.sub_add_cancel]
  cases isLeapYear year <;> rfl

theorem civilMonth_marchMonth {month : Nat} (low : 1 ≤ month) (high : month ≤ 12) :
    civilMonth (marchMonth month) = month := by
  unfold civilMonth marchMonth
  omega

theorem marchMonth_civilMonth {month : Int} (low : 0 ≤ month) (high : month ≤ 11) :
    1 ≤ civilMonth month ∧ civilMonth month ≤ 12 ∧ marchMonth (civilMonth month).toNat = month := by
  unfold civilMonth marchMonth
  omega

/-- A day of a year lies in the month that its number falls to. -/
theorem month_of_day {month day : Int} :
    (5 * day + 2) / 153 = month ↔ monthStart month ≤ day ∧ day < monthStart (month + 1) := by
  unfold monthStart
  omega

theorem ofYear_of_month {year month day : Int} (number : (5 * day + 2) / 153 = month) :
    ofYear year day =
      ⟨if civilMonth month ≤ 2 then year + 1 else year, (civilMonth month).toNat,
        (day - monthStart month + 1).toNat⟩ := by
  rw [← number]
  rfl

/-- A day is one of its month when it lies before the next month and before the end of the year,
which cuts February short. -/
theorem isValid_iff_dayOfYear {date : CivilDate} :
    date.isValid = true ↔ 1 ≤ date.month ∧ date.month ≤ 12 ∧ 1 ≤ date.day ∧
      date.dayOfYear < monthStart (marchMonth date.month + 1) ∧
      date.dayOfYear < yearLength date.marchYear := by
  rw [isValid_iff]
  refine and_congr_right fun low => and_congr_right fun high => and_congr_right fun _ => ?_
  have lengths := yearLength_cases date.marchYear
  unfold dayOfYear
  by_cases february : date.month = 2
  · -- The next month would begin behind the end of the year, which is the bound that counts.
    have length := monthLength_february date.year
    have before : date.marchYear = date.year - 1 := if_pos (by omega)
    have number : marchMonth 2 = 11 := rfl
    have last : monthStart (11 + 1) = 367 := rfl
    rw [february, number, last]
    rw [before] at lengths ⊢
    omega
  · -- The other months end before the year does.
    have length := @monthLength_eq date.year date.month low high february
    unfold monthStart marchMonth at *
    omega

theorem dayOfYear_nonneg {date : CivilDate} (valid : date.isValid = true) : 0 ≤ date.dayOfYear := by
  have first := (isValid_iff.mp valid).2.2.1
  unfold dayOfYear monthStart marchMonth
  omega

theorem ofYear_dayOfYear {date : CivilDate} (valid : date.isValid = true) :
    ofYear date.marchYear date.dayOfYear = date := by
  obtain ⟨low, high, first, next, _⟩ := isValid_iff_dayOfYear.mp valid
  have start : monthStart (marchMonth date.month) ≤ date.dayOfYear := by
    unfold dayOfYear
    omega
  have number := month_of_day.mpr ⟨start, next⟩
  have month := civilMonth_marchMonth low high
  rw [ofYear_of_month number, month]
  unfold dayOfYear marchYear
  obtain ⟨year, month, day⟩ := date
  rw [mk.injEq]
  dsimp only at first ⊢
  refine ⟨?_, ?_, ?_⟩
  · split <;> omega
  · omega
  · omega

/-- A day of a year is that of a date in it. -/
theorem ofYear_valid {year day : Int} (first : 0 ≤ day) (last : day < yearLength year) :
    (ofYear year day).isValid = true ∧ (ofYear year day).marchYear = year ∧
      (ofYear year day).dayOfYear = day := by
  obtain ⟨month, number⟩ : ∃ month, (5 * day + 2) / 153 = month := ⟨_, rfl⟩
  have lengths := yearLength_cases year
  obtain ⟨start, next⟩ := month_of_day.mp number
  obtain ⟨low, high, civil⟩ := marchMonth_civilMonth (show 0 ≤ month by omega) (by omega)
  have date : ofYear year day = _ := ofYear_of_month number
  have inYear : (ofYear year day).marchYear = year := by
    rw [date]
    unfold marchYear
    dsimp only
    split <;> split <;> omega
  have place : (ofYear year day).dayOfYear = day := by
    rw [date]
    unfold dayOfYear
    rw [civil]
    dsimp only
    omega
  refine ⟨isValid_iff_dayOfYear.mpr ?_, inYear, place⟩
  rw [place, inYear, date]
  dsimp only
  rw [civil]
  exact ⟨by omega, by omega, by omega, next, last⟩

/-! ### Days -/

/-- The day of a date by its cycle, its year in that and its day of the year. -/
theorem toDays_eq (date : CivilDate) :
    date.toDays = date.marchYear / 400 * 146097 +
      (yearStart (date.marchYear - date.marchYear / 400 * 400) + date.dayOfYear) - 719468 :=
  rfl

theorem ofDays_eq (days : Int) :
    ofDays days =
      let cycle := (days + 719468) / 146097
      let day := days + 719468 - cycle * 146097
      let year := yearOfCycle day
      ofYear (year + cycle * 400) (day - (365 * year + year / 4 - year / 100)) :=
  rfl

/-- The date of a day of a cycle of 400 years. -/
theorem ofDays_add {cycle year day : Int} (low : 0 ≤ year) (high : year < 400) (first : 0 ≤ day)
    (last : day < yearLength year) :
    ofDays (cycle * 146097 + (yearStart year + day) - 719468) =
      ofYear (year + cycle * 400) day := by
  have within : 0 ≤ yearStart year + day ∧ yearStart year + day < 146097 := by
    have lengths := yearLength_cases year
    unfold yearStart
    omega
  have shifted : cycle * 146097 + (yearStart year + day) - 719468 + 719468 =
      cycle * 146097 + (yearStart year + day) := by omega
  have cycles : (cycle * 146097 + (yearStart year + day)) / 146097 = cycle := by omega
  have dayOfCycle : cycle * 146097 + (yearStart year + day) - cycle * 146097 =
      yearStart year + day := by omega
  have inYear : yearStart year + day - (365 * year + year / 4 - year / 100) = day := by
    unfold yearStart
    omega
  rw [ofDays_eq]
  simp only [shifted, cycles, dayOfCycle, yearOfCycle_add low high first last, inYear]

/-- The date of a day is the one valid date that has this day. -/
theorem ofDays_eq_iff {days : Int} {date : CivilDate} :
    ofDays days = date ↔ date.isValid = true ∧ date.toDays = days := by
  constructor
  · -- A day is one of a year of a cycle, and so one of a date of that year.
    rintro rfl
    obtain ⟨cycle, day, rfl, low, high⟩ : ∃ cycle day : Int,
        days = cycle * 146097 + day - 719468 ∧ 0 ≤ day ∧ day < 146097 :=
      ⟨(days + 719468) / 146097, (days + 719468) % 146097, by omega⟩
    obtain ⟨year, day, before, after, first, last, rfl⟩ := exists_year low high
    rw [ofDays_add before after first last]
    rw [← yearLength_add_cycle year cycle] at last
    obtain ⟨valid, inYear, place⟩ := ofYear_valid first last
    have cycles : (year + cycle * 400) / 400 = cycle := by omega
    have rest : year + cycle * 400 - cycle * 400 = year := by omega
    refine ⟨valid, ?_⟩
    rw [toDays_eq, inYear, place, cycles, rest]
  · -- The year of the date is moved into the first cycle and back.
    rintro ⟨valid, rfl⟩
    have year : date.marchYear - date.marchYear / 400 * 400 + date.marchYear / 400 * 400 =
        date.marchYear := by omega
    have last := (isValid_iff_dayOfYear.mp valid).2.2.2.2
    rw [← year, yearLength_add_cycle] at last
    rw [toDays_eq, ofDays_add (by omega) (by omega) (dayOfYear_nonneg valid) last, year,
      ofYear_dayOfYear valid]

/-! ### The next date -/

/-- The first day after a month. -/
def nextMonth (year : Int) (month : Nat) : CivilDate :=
  if month < 12 then ⟨year, month + 1, 1⟩ else ⟨year + 1, 1, 1⟩

/-- The date after a date of the calendar. -/
def tomorrow (date : CivilDate) : CivilDate :=
  if date.day < monthLength date.year date.month then { date with day := date.day + 1 }
  else nextMonth date.year date.month

theorem isValid_tomorrow {date : CivilDate} (valid : date.isValid = true) :
    date.tomorrow.isValid = true := by
  obtain ⟨low, high, first, last⟩ := isValid_iff.mp valid
  have filled (year : Int) (month : Nat) : 1 ≤ monthLength year month := by
    unfold monthLength
    split <;> split <;> decide
  unfold tomorrow nextMonth
  split
  next more => exact isValid_iff.mpr ⟨low, high, by simp, more⟩
  split
  next later => exact isValid_iff.mpr ⟨by simp, later, Nat.le_refl 1, filled _ _⟩
  next => exact isValid_iff.mpr ⟨Nat.le_refl 1, by simp, Nat.le_refl 1, filled _ _⟩

theorem toDays_eq_sum (date : CivilDate) :
    date.toDays = 365 * date.marchYear + date.marchYear / 4 - date.marchYear / 100 +
      date.marchYear / 400 + date.dayOfYear - 719468 := by
  rw [toDays_eq]
  unfold yearStart
  omega

/-- The first of the next month is as many days away as the month is long. -/
theorem toDays_nextMonth {year : Int} {month : Nat} (low : 1 ≤ month) (high : month ≤ 12) :
    (nextMonth year month).toDays = toDays ⟨year, month, 1⟩ + monthLength year month := by
  rw [toDays_eq_sum, toDays_eq_sum]
  by_cases february : month = 2
  · -- The leap day, if there is one, ends the year from March.
    subst february
    have length := monthLength_february year
    have inYear := yearLength_eq (year - 1)
    have march : marchMonth (2 + 1) = 0 := rfl
    have number : marchMonth 2 = 11 := rfl
    have start : monthStart 0 = 0 := rfl
    have later : marchYear ⟨year, 2 + 1, 1⟩ = year := rfl
    have before : marchYear ⟨year, 2, 1⟩ = year - 1 := rfl
    rw [Int.sub_add_cancel] at inYear
    rw [nextMonth, if_pos (by decide), later, before]
    unfold dayOfYear
    dsimp only
    rw [march, number, start]
    omega
  · have length := @monthLength_eq year month low high february
    by_cases later : month < 12
    · have number : marchMonth (month + 1) = marchMonth month + 1 := by
        unfold marchMonth
        omega
      rw [nextMonth, if_pos later]
      unfold marchYear dayOfYear
      dsimp only
      rw [number]
      omega
    · have december : month = 12 := by omega
      subst december
      have number : marchMonth 12 + 1 = marchMonth 1 := rfl
      have after : marchYear ⟨year + 1, 1, 1⟩ = year := Int.add_sub_cancel year 1
      have before : marchYear ⟨year, 12, 1⟩ = year := rfl
      rw [nextMonth, if_neg later, after, before]
      unfold dayOfYear
      dsimp only
      rw [number] at length
      omega

/-- Days count the dates of the calendar one after the other. -/
theorem toDays_tomorrow {date : CivilDate} (valid : date.isValid = true) :
    date.tomorrow.toDays = date.toDays + 1 := by
  obtain ⟨low, high, first, last⟩ := isValid_iff.mp valid
  have inMonth (day : Nat) : toDays ⟨date.year, date.month, day⟩ =
      toDays ⟨date.year, date.month, 1⟩ + day - 1 := by
    unfold toDays
    dsimp only
    omega
  have here : date.toDays = toDays ⟨date.year, date.month, 1⟩ + date.day - 1 := inMonth date.day
  unfold tomorrow
  by_cases more : date.day < monthLength date.year date.month
  · rw [if_pos more, inMonth]
    omega
  · rw [if_neg more, toDays_nextMonth low high]
    omega

end RecordQuery.CivilDate
