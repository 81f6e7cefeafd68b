/-
The proleptic Gregorian calendar day by day. Every day has the number after that of the day before
it, so the numbers are settled by the lengths of the months and by one day; dates are found again
from their numbers, and come in the order of these.
-/

import Mathlib.Algebra.Order.Group.Int
import Mathlib.Order.Monotone.Basic
import Mathlib.Tactic.IntervalCases
import SignedRest.Time.Civil

namespace SignedRest.Time

namespace Date

/-! ### The day after -/

def next (date : Date) : Date :=
  if date.day < daysInMonth date.year date.month then { date with day := date.day + 1 }
  else if date.month < 12 then ⟨date.year, date.month + 1, 1⟩
  else ⟨date.year + 1, 1, 1⟩

/-- Days are counted from 1 January 1970, one by one in both directions. -/
inductive IsDay : Date → Int → Prop where
  | start : IsDay ⟨1970, 1, 1⟩ 0
  | later {date : Date} {number : Int} (day : IsDay date number) : IsDay date.next (number + 1)
  | earlier {date : Date} {number : Int} (valid : date.isValid = true)
      (day : IsDay date.next (number + 1)) : IsDay date number

theorem isValid_iff (date : Date) :
    date.isValid = true ↔ (1 ≤ date.month ∧ date.month ≤ 12) ∧
      1 ≤ date.day ∧ date.day ≤ daysInMonth date.year date.month := by
  simp only [isValid, Bool.and_eq_true, decide_eq_true_eq, and_assoc]

theorem isValid_of {year : Int} {month day : Nat} (firstMonth : 1 ≤ month) (lastMonth : month ≤ 12)
    (firstDay : 1 ≤ day) (lastDay : day ≤ daysInMonth year month) :
    isValid ⟨year, month, day⟩ = true :=
  (isValid_iff _).mpr ⟨⟨firstMonth, lastMonth⟩, firstDay, lastDay⟩

theorem daysInMonth_pos (year : Int) (month : Nat) : 28 ≤ daysInMonth year month := by
  unfold daysInMonth
  split_ifs <;> decide

theorem daysInMonth_le (year : Int) (month : Nat) : daysInMonth year month ≤ 31 := by
  unfold daysInMonth
  split_ifs <;> decide

theorem isLeapYear_iff (year : Int) :
    isLeapYear year = true ↔ year % 4 = 0 ∧ (year % 100 ≠ 0 ∨ year % 400 = 0) := by
  simp only [isLeapYear, Bool.and_eq_true, Bool.or_eq_true, decide_eq_true_eq]

theorem daysInFebruary (year : Int) :
    (daysInMonth year 2 : Int) =
      if year % 4 = 0 ∧ (year % 100 ≠ 0 ∨ year % 400 = 0) then 29 else 28 := by
  rw [daysInMonth, if_pos rfl]
  by_cases leap : isLeapYear year = true
  · rw [if_pos leap, if_pos ((isLeapYear_iff year).mp leap)]
    rfl
  · rw [if_neg leap, if_neg (mt (isLeapYear_iff year).mpr leap)]
    rfl

/-- From March on, months have 31 and 30 days in turn but for the one step from July to August, and
from December to January. -/
theorem daysInMonth_summer (year : Int) {month : Nat} (summer : ¬ month ≤ 2)
    (last : month ≤ 12) :
    (daysInMonth year month : Int) =
      (153 * (month - 3 + 1 : Int) + 2) / 5 - (153 * (month - 3 : Int) + 2) / 5 := by
  interval_cases month <;> simp [daysInMonth]

/-- The number of 1 March. A leap day is the last day before it. -/
def marchStart (year : Int) : Int :=
  365 * year + year / 4 - year / 100 + year / 400 - daysBeforeEpoch

theorem dayNumber_winter (year : Int) {month : Nat} (winter : month ≤ 2) (day : Nat) :
    dayNumber ⟨year, month, day⟩ =
      marchStart (year - 1) + (153 * (month + 9 : Int) + 2) / 5 + day - 1 := by
  simp only [dayNumber, if_pos winter, marchStart, daysPerEra]
  omega

theorem dayNumber_summer (year : Int) {month : Nat} (summer : ¬ month ≤ 2) (day : Nat) :
    dayNumber ⟨year, month, day⟩ =
      marchStart year + (153 * (month - 3 : Int) + 2) / 5 + day - 1 := by
  simp only [dayNumber, if_neg summer, marchStart, daysPerEra]
  omega

theorem dayNumber_day (year : Int) (month day : Nat) :
    dayNumber ⟨year, month, day⟩ = dayNumber ⟨year, month, 1⟩ + day - 1 := by
  by_cases winter : month ≤ 2
  · rw [dayNumber_winter year winter, dayNumber_winter year winter]
    omega
  · rw [dayNumber_summer year winter, dayNumber_summer year winter]
    omega

theorem dayNumber_nextMonth (year : Int) {month : Nat} (first : 1 ≤ month) (last : month < 12) :
    dayNumber ⟨year, month + 1, 1⟩ = dayNumber ⟨year, month, 1⟩ + daysInMonth year month := by
  by_cases february : month = 2
  · subst february
    rw [daysInFebruary, dayNumber_summer year (by decide), dayNumber_winter year (by decide)]
    unfold marchStart
    split_ifs <;> omega
  · by_cases january : month = 1
    · subst january
      rw [dayNumber_winter year (by decide), dayNumber_winter year (by decide)]
      have whole : daysInMonth year 1 = 31 := rfl
      rw [whole]
      omega
    · rw [dayNumber_summer year (by omega), dayNumber_summer year (by omega)]
      rw [daysInMonth_summer year (by omega) last.le]
      omega

theorem dayNumber_nextYear (year : Int) :
    dayNumber ⟨year + 1, 1, 1⟩ = dayNumber ⟨year, 12, 1⟩ + 31 := by
  rw [dayNumber_winter (year + 1) (by decide), dayNumber_summer year (by decide), Int.add_sub_cancel]
  omega

theorem isValid_next {date : Date} (valid : date.isValid = true) : date.next.isValid = true := by
  obtain ⟨⟨firstMonth, lastMonth⟩, firstDay, lastDay⟩ := (isValid_iff date).mp valid
  unfold next
  split_ifs with inside before
  · exact isValid_of firstMonth lastMonth (Nat.le_add_left 1 _) inside
  · have days := daysInMonth_pos date.year (date.month + 1)
    exact isValid_of (Nat.le_add_left 1 _) before (le_refl 1) (by omega)
  · have days := daysInMonth_pos (date.year + 1) 1
    exact isValid_of (le_refl 1) (by decide) (le_refl 1) (by omega)

theorem dayNumber_next {date : Date} (valid : date.isValid = true) :
    date.next.dayNumber = date.dayNumber + 1 := by
  obtain ⟨year, month, day⟩ := date
  obtain ⟨⟨firstMonth, lastMonth⟩, firstDay, lastDay⟩ := (isValid_iff _).mp valid
  dsimp only at firstMonth lastMonth firstDay lastDay
  unfold next
  dsimp only
  split_ifs with inside before
  · rw [dayNumber_day year month (day + 1), dayNumber_day year month day]
    omega
  · rw [dayNumber_nextMonth year firstMonth before, dayNumber_day year month day]
    omega
  · have december : month = 12 := by omega
    subst december
    have whole : daysInMonth year 12 = 31 := rfl
    rw [dayNumber_nextYear, dayNumber_day year 12 day]
    omega

/-! ### Months in their order -/

/-- The number of the first day of a month; months are counted from January of year 0. -/
def monthStart (index : Int) : Int :=
  dayNumber ⟨index / 12, (index % 12).toNat + 1, 1⟩

def monthIndex (date : Date) : Int :=
  12 * date.year + date.month - 1

theorem monthStart_succ (index : Int) :
    monthStart (index + 1) =
      monthStart index + daysInMonth (index / 12) ((index % 12).toNat + 1) := by
  unfold monthStart
  by_cases december : index % 12 = 11
  · have year : (index + 1) / 12 = index / 12 + 1 := by omega
    have month : (index + 1) % 12 = 0 := by omega
    rw [year, month, december]
    exact dayNumber_nextYear (index / 12)
  · have year : (index + 1) / 12 = index / 12 := by omega
    have month : ((index + 1) % 12).toNat = (index % 12).toNat + 1 := by omega
    rw [year, month]
    exact dayNumber_nextMonth (index / 12) (by omega) (by omega)

theorem monthStart_mono {first last : Int} (within : first ≤ last) :
    monthStart first ≤ monthStart last := by
  refine monotone_int_of_le_succ (fun index => ?_) within
  have days := daysInMonth_pos (index / 12) ((index % 12).toNat + 1)
  rw [monthStart_succ]
  omega

/-- A day lies in its month. -/
theorem dayNumber_in_month {date : Date} (valid : date.isValid = true) :
    date.dayNumber = monthStart date.monthIndex + date.day - 1 ∧
      date.dayNumber < monthStart (date.monthIndex + 1) := by
  obtain ⟨⟨firstMonth, lastMonth⟩, firstDay, lastDay⟩ := (isValid_iff date).mp valid
  have year : date.monthIndex / 12 = date.year := by
    unfold monthIndex
    omega
  have month : (date.monthIndex % 12).toNat + 1 = date.month := by
    unfold monthIndex
    omega
  have started : date.dayNumber = monthStart date.monthIndex + date.day - 1 := by
    rw [monthStart, year, month]
    exact dayNumber_day date.year date.month date.day
  refine ⟨started, ?_⟩
  rw [monthStart_succ, year, month]
  omega

/-- Earlier by year, then by month, then by day. -/
def Before (left right : Date) : Prop :=
  left.year < right.year ∨ left.year = right.year ∧
    (left.month < right.month ∨ left.month = right.month ∧ left.day < right.day)

theorem dayNumber_lt_of_before {left right : Date} (leftValid : left.isValid = true)
    (rightValid : right.isValid = true) (before : left.Before right) :
    left.dayNumber < right.dayNumber := by
  obtain ⟨leftStart, leftEnd⟩ := dayNumber_in_month leftValid
  obtain ⟨rightStart, -⟩ := dayNumber_in_month rightValid
  obtain ⟨⟨leftFirst, leftLast⟩, -⟩ := (isValid_iff left).mp leftValid
  obtain ⟨⟨rightFirst, rightLast⟩, rightDay, -⟩ := (isValid_iff right).mp rightValid
  have months : left.monthIndex < right.monthIndex ∨
      left.monthIndex = right.monthIndex ∧ left.day < right.day := by
    unfold Before at before
    unfold monthIndex
    omega
  rcases months with earlier | ⟨same, earlier⟩
  · have ends := monthStart_mono (Int.add_one_le_of_lt earlier)
    omega
  · rw [same] at leftStart
    omega

theorem eq_of_not_before {left right : Date} (notBefore : ¬ left.Before right)
    (notAfter : ¬ right.Before left) : left = right := by
  obtain ⟨leftYear, leftMonth, leftDay⟩ := left
  obtain ⟨rightYear, rightMonth, rightDay⟩ := right
  simp only [Before] at notBefore notAfter
  simp only [Date.mk.injEq]
  omega

/-! ### Dates from their numbers -/

/-- A year of an era is found from a day of it: a year has 365 days, or 366 if a leap day ends
it. -/
theorem yearOfEra_eq {yearOfEra dayOfYear dayOfEra : Int} (low : 0 ≤ yearOfEra)
    (high : yearOfEra < 400) (first : 0 ≤ dayOfYear)
    (last : dayOfYear ≤ 364 ∨ dayOfYear = 365 ∧ yearOfEra % 4 = 3 ∧
      (yearOfEra % 100 ≠ 99 ∨ yearOfEra = 399))
    (told : dayOfEra = yearOfEra * 365 + yearOfEra / 4 - yearOfEra / 100 + dayOfYear) :
    (dayOfEra - dayOfEra / 1460 + dayOfEra / 36524 - dayOfEra / 146096) / 365 = yearOfEra := by
  -- a year is made of centuries, fours of years, and single years
  obtain ⟨century, four, single, parts, centuryRange, fourRange, singleRange⟩ :
      ∃ century four single : Int, yearOfEra = 100 * century + 4 * four + single ∧
        (0 ≤ century ∧ century ≤ 3) ∧ (0 ≤ four ∧ four ≤ 24) ∧ (0 ≤ single ∧ single ≤ 3) :=
    ⟨yearOfEra / 100, yearOfEra % 100 / 4, yearOfEra % 4, by omega, by omega, by omega, by omega⟩
  have centuries : dayOfEra / 36524 - dayOfEra / 146096 = century := by
    obtain ⟨dayOfCentury, split, low, high⟩ : ∃ rest, dayOfEra = 36524 * century + rest ∧
        0 ≤ rest ∧ (rest ≤ 36523 ∨ rest = 36524 ∧ century = 3) :=
      ⟨1461 * four + 365 * single + dayOfYear, by omega, by omega, by omega⟩
    clear told last parts
    omega
  have leapDays : dayOfEra / 1460 = 25 * century + four ∧ dayOfYear ≤ 364 ∨
      dayOfEra / 1460 = 25 * century + four + 1 ∧ 0 < dayOfYear := by
    obtain ⟨rest, split, low, high, ends⟩ : ∃ rest,
        dayOfEra = 1460 * (25 * century + four) + rest ∧ 0 ≤ rest ∧ rest < 2920 ∧
          (rest < 1460 ∧ dayOfYear ≤ 364 ∨ 1460 ≤ rest ∧ 0 < dayOfYear) :=
      ⟨24 * century + four + 365 * single + dayOfYear, by omega, by omega, by omega, by omega⟩
    clear told last parts
    omega
  have days : dayOfEra = 36524 * century + 1461 * four + 365 * single + dayOfYear := by omega
  omega

/-- The day `dayOfYear` of a year that starts in March, in month `month` from March on. -/
theorem ofDayNumber_march {year month day dayOfYear : Int} (monthRange : 0 ≤ month ∧ month ≤ 11)
    (first : 1 ≤ day) (placed : dayOfYear = (153 * month + 2) / 5 + day - 1)
    (inMonth : dayOfYear < (153 * (month + 1) + 2) / 5)
    (inYear : dayOfYear ≤ 364 ∨ dayOfYear = 365 ∧ year % 4 = 3 ∧
      (year % 100 ≠ 99 ∨ year % 400 = 399)) :
    ofDayNumber (marchStart year + dayOfYear) =
      if month < 10 then ⟨year, (month + 3).toNat, day.toNat⟩
      else ⟨year + 1, (month - 9).toNat, day.toNat⟩ := by
  have start : 0 ≤ dayOfYear := by omega
  obtain ⟨dayOfEra, told⟩ : ∃ dayOfEra, dayOfEra =
      year % 400 * 365 + year % 400 / 4 - year % 400 / 100 + dayOfYear := ⟨_, rfl⟩
  have range : 0 ≤ dayOfEra ∧ dayOfEra < 146097 := by omega
  have shifted : marchStart year + dayOfYear + daysBeforeEpoch =
      year / 400 * 146097 + dayOfEra := by
    have fours : year / 4 = 100 * (year / 400) + year % 400 / 4 := by omega
    have hundreds : year / 100 = 4 * (year / 400) + year % 400 / 100 := by omega
    rw [marchStart, fours, hundreds, told]
    omega
  have era : (year / 400 * 146097 + dayOfEra) / 146097 = year / 400 := by omega
  have inEra : (year / 400 * 146097 + dayOfEra) % 146097 = dayOfEra := by omega
  have yearOfEra := yearOfEra_eq (by omega : 0 ≤ year % 400) (by omega) start (by omega) told
  have inside : dayOfEra - (365 * (year % 400) + year % 400 / 4 - year % 400 / 100) =
      dayOfYear := by omega
  have months : (5 * dayOfYear + 2) / 153 = month := by omega
  have whole : year % 400 + year / 400 * 400 = year := by omega
  simp only [ofDayNumber, shifted, daysPerEra, era, inEra, yearOfEra, inside, months, whole]
  have days : dayOfYear - (153 * month + 2) / 5 + 1 = day := by omega
  rw [days]
  split_ifs <;> first | rfl | omega

theorem ofDayNumber_dayNumber {date : Date} (valid : date.isValid = true) :
    ofDayNumber date.dayNumber = date := by
  obtain ⟨year, month, day⟩ := date
  obtain ⟨⟨firstMonth, lastMonth⟩, firstDay, lastDay⟩ := (isValid_iff _).mp valid
  dsimp only at firstMonth lastMonth firstDay lastDay
  by_cases winter : month ≤ 2
  · have days : day ≤ 28 ∨ month = 1 ∧ day ≤ 31 ∨ month = 2 ∧ day = 29 ∧
        year % 4 = 0 ∧ (year % 100 ≠ 0 ∨ year % 400 = 0) := by
      by_cases january : month = 1
      · subst january
        exact Or.inr (Or.inl ⟨rfl, lastDay⟩)
      · have february : month = 2 := by omega
        subst february
        have length := daysInFebruary year
        split_ifs at length <;> omega
    rw [dayNumber_winter year winter, add_sub_assoc, add_assoc, ← add_sub_assoc,
      ofDayNumber_march (by omega) (by omega) rfl (by omega) (by omega),
      if_neg (by omega), Date.mk.injEq]
    omega
  · have length := daysInMonth_summer year winter lastMonth
    rw [dayNumber_summer year winter, add_sub_assoc, add_assoc, ← add_sub_assoc,
      ofDayNumber_march (by omega) (by omega) rfl (by omega) (by omega),
      if_pos (by omega), Date.mk.injEq]
    exact ⟨rfl, by omega, Int.toNat_natCast day⟩

/-! ### The calendar -/

theorem exists_dayBefore {date : Date} (valid : date.isValid = true) :
    ∃ before : Date, before.isValid = true ∧ before.next = date := by
  obtain ⟨year, month, day⟩ := date
  obtain ⟨⟨firstMonth, lastMonth⟩, firstDay, lastDay⟩ := (isValid_iff _).mp valid
  dsimp only at firstMonth lastMonth firstDay lastDay
  by_cases inside : day = 1
  · subst inside
    by_cases january : month = 1
    · subst january
      refine ⟨⟨year - 1, 12, 31⟩, isValid_of (by decide) (le_refl 12) (by decide) (le_refl 31), ?_⟩
      simp [next, daysInMonth]
    · have days := daysInMonth_pos year (month - 1)
      refine ⟨⟨year, month - 1, daysInMonth year (month - 1)⟩, ?_, ?_⟩
      · exact isValid_of (by omega) (by omega) (by omega) (le_refl _)
      · have back : month - 1 + 1 = month := by omega
        rw [next, if_neg (lt_irrefl _), if_pos (by dsimp only; omega), back]
  · refine ⟨⟨year, month, day - 1⟩, ?_, ?_⟩
    · exact isValid_of firstMonth lastMonth (by omega) (by omega)
    · have back : day - 1 + 1 = day := by omega
      rw [next, if_pos (by dsimp only; omega), back]

/-- Every number is that of a day. -/
theorem exists_date (number : Int) :
    ∃ date : Date, date.isValid = true ∧ date.dayNumber = number := by
  induction number using Int.induction_on with
  | zero => exact ⟨⟨1970, 1, 1⟩, by decide, by decide⟩
  | succ number ih =>
      obtain ⟨date, valid, numbered⟩ := ih
      refine ⟨date.next, isValid_next valid, ?_⟩
      rw [dayNumber_next valid, numbered]
  | pred number ih =>
      obtain ⟨date, valid, numbered⟩ := ih
      obtain ⟨before, beforeValid, same⟩ := exists_dayBefore valid
      have step := dayNumber_next beforeValid
      rw [same, numbered] at step
      exact ⟨before, beforeValid, by omega⟩

theorem ofDayNumber_spec (number : Int) :
    (ofDayNumber number).isValid = true ∧ (ofDayNumber number).dayNumber = number := by
  obtain ⟨date, valid, rfl⟩ := exists_date number
  rw [ofDayNumber_dayNumber valid]
  exact ⟨valid, rfl⟩

theorem next_ofDayNumber (number : Int) : (ofDayNumber number).next = ofDayNumber (number + 1) := by
  obtain ⟨valid, numbered⟩ := ofDayNumber_spec number
  rw [← ofDayNumber_dayNumber (isValid_next valid), dayNumber_next valid, numbered]

/-- The date of a number is the day that is reached by counting. -/
theorem isDay_ofDayNumber (number : Int) : IsDay (ofDayNumber number) number := by
  induction number using Int.induction_on with
  | zero => exact .start
  | succ number ih =>
      rw [← next_ofDayNumber]
      exact .later ih
  | pred number ih =>
      apply IsDay.earlier (ofDayNumber_spec _).1
      rwa [next_ofDayNumber, Int.sub_add_cancel]

theorem isDay_iff {date : Date} {number : Int} :
    IsDay date number ↔ date.isValid = true ∧ date.dayNumber = number := by
  constructor
  · intro day
    induction day with
    | start => decide
    | later day ih =>
        obtain ⟨valid, rfl⟩ := ih
        exact ⟨isValid_next valid, dayNumber_next valid⟩
    | earlier valid day ih =>
        have step := dayNumber_next valid
        exact ⟨valid, by omega⟩
  · rintro ⟨valid, rfl⟩
    have day := isDay_ofDayNumber date.dayNumber
    rwa [ofDayNumber_dayNumber valid] at day

end Date

/-! ### Civil times -/

namespace Civil

/-- A time of day, on the day that is reached by counting. -/
structure IsAt (civil : Civil) (instant : Int) : Prop where
  hourRange : civil.hour < 24
  minuteRange : civil.minute < 60
  secondRange : civil.second < 60
  counted : ∃ day, Date.IsDay civil.date day ∧
    instant = day * 86400 + civil.hour * 3600 + civil.minute * 60 + civil.second

theorem isAt_ofSeconds (seconds : Int) : (ofSeconds seconds).IsAt seconds where
  hourRange := by
    simp only [ofSeconds]
    omega
  minuteRange := by
    simp only [ofSeconds]
    omega
  secondRange := by
    simp only [ofSeconds]
    omega
  counted := by
    refine ⟨seconds / 86400, Date.isDay_ofDayNumber _, ?_⟩
    simp only [ofSeconds]
    omega

/-- Earlier by date, then by hour, minute and second. -/
def Before (left right : Civil) : Prop :=
  left.date.Before right.date ∨ left.date = right.date ∧
    (left.hour < right.hour ∨ left.hour = right.hour ∧
      (left.minute < right.minute ∨ left.minute = right.minute ∧ left.second < right.second))

variable {left right : Civil} {leftInstant rightInstant : Int}

theorem IsAt.unique (leftAt : left.IsAt leftInstant) (rightAt : left.IsAt rightInstant) :
    leftInstant = rightInstant := by
  obtain ⟨leftDay, leftCounted, rfl⟩ := leftAt.counted
  obtain ⟨rightDay, rightCounted, rfl⟩ := rightAt.counted
  obtain ⟨-, rfl⟩ := Date.isDay_iff.mp leftCounted
  obtain ⟨-, rfl⟩ := Date.isDay_iff.mp rightCounted
  rfl

theorem IsAt.lt_of_before (leftAt : left.IsAt leftInstant) (rightAt : right.IsAt rightInstant)
    (before : left.Before right) : leftInstant < rightInstant := by
  obtain ⟨leftHour, leftMinute, leftLast, leftDay, leftCounted, rfl⟩ := leftAt
  obtain ⟨rightHour, rightMinute, rightLast, rightDay, rightCounted, rfl⟩ := rightAt
  obtain ⟨leftValid, rfl⟩ := Date.isDay_iff.mp leftCounted
  obtain ⟨rightValid, rfl⟩ := Date.isDay_iff.mp rightCounted
  rcases before with earlier | ⟨same, later⟩
  · have days := Date.dayNumber_lt_of_before leftValid rightValid earlier
    omega
  · rw [same]
    omega

theorem eq_of_not_before (notBefore : ¬ left.Before right) (notAfter : ¬ right.Before left) :
    left = right := by
  obtain ⟨leftDate, leftHour, leftMinute, leftSecond⟩ := left
  obtain ⟨rightDate, rightHour, rightMinute, rightSecond⟩ := right
  simp only [Before, not_or, not_and] at notBefore notAfter
  have date := Date.eq_of_not_before notBefore.1 notAfter.1
  subst date
  simp only [Civil.mk.injEq, true_and, forall_const] at notBefore notAfter ⊢
  omega

theorem IsAt.before_iff (leftAt : left.IsAt leftInstant) (rightAt : right.IsAt rightInstant) :
    left.Before right ↔ leftInstant < rightInstant := by
  constructor
  · exact leftAt.lt_of_before rightAt
  · intro earlier
    by_contra notBefore
    by_cases after : right.Before left
    · exact absurd (rightAt.lt_of_before leftAt after) earlier.le.not_gt
    · have same := eq_of_not_before notBefore after
      subst same
      exact absurd (leftAt.unique rightAt) earlier.ne

end Civil

end SignedRest.Time
