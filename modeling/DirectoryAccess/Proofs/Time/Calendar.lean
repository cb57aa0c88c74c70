import DirectoryAccess.Time.Calendar
import Mathlib

/-!
# Dates and days

A date is counted as a day, and a day is read as a date, by calculations of their own. They are inverse to
each other: every day falls in one year (`yearOfDay_eq`) and in one month of it (`monthOfDay_eq`), the date
and time of day of a point in time are in the calendar (`isValid_toDateTime`) and stand for that point in time
(`toInstant_toDateTime`), and a date in the calendar is read back from its point in time
(`toDateTime_toInstant`). Everything rests on how many days a year and a month have (`daysBeforeYear_succ`,
`daysBeforeMonth_succ`).
-/

namespace DirectoryAccess

/-! ### Years -/

/-- The number of days of a year. -/
def daysInYear (year : Int) : Nat := if isLeapYear year then 366 else 365

theorem isLeapYear_iff {year : Int} :
    isLeapYear year = true ↔ year % 4 = 0 ∧ (year % 100 ≠ 0 ∨ year % 400 = 0) := by
  simp [isLeapYear]

/-- A year begins after all days of the year before. -/
theorem daysBeforeYear_succ (year : Int) :
    daysBeforeYear (year + 1) = daysBeforeYear year + daysInYear year := by
  have h4 : (year + 1 + 3) / 4 = (year + 3) / 4 + if year % 4 = 0 then 1 else 0 := by split <;> omega
  have h100 : (year + 1 + 99) / 100 = (year + 99) / 100 + if year % 100 = 0 then 1 else 0 := by
    split <;> omega
  have h400 : (year + 1 + 399) / 400 = (year + 399) / 400 + if year % 400 = 0 then 1 else 0 := by
    split <;> omega
  have hleap : (daysInYear year : Int) = 365 + (if year % 4 = 0 then 1 else 0) -
      (if year % 100 = 0 then 1 else 0) + if year % 400 = 0 then 1 else 0 := by
    simp only [daysInYear, isLeapYear_iff]
    split_ifs <;> omega
  rw [daysBeforeYear, daysBeforeYear, h4, h100, h400, hleap]
  omega

theorem strictMono_daysBeforeYear : StrictMono daysBeforeYear := by
  refine strictMono_int_of_lt_succ fun year => ?_
  rw [daysBeforeYear_succ, daysInYear]
  split <;> omega

/-- How far the start of a year is from that of an average year, with 146097 days in 400 years. -/
theorem daysBeforeYear_bounds (year : Int) :
    146097 * year - 400 ≤ 400 * daysBeforeYear year ∧ 400 * daysBeforeYear year ≤ 146097 * year + 700 := by
  unfold daysBeforeYear
  omega

/-- A day falls in its year. -/
theorem yearOfDay_spec (day : Int) :
    daysBeforeYear (yearOfDay day) ≤ day ∧ day < daysBeforeYear (yearOfDay day + 1) := by
  -- the year before the guess and the one after the next enclose the day in any case
  have hbefore := daysBeforeYear_bounds (400 * day / 146097 - 1)
  have hafter := daysBeforeYear_bounds (400 * day / 146097 + 1 + 1)
  unfold yearOfDay
  dsimp only
  split
  · rw [Int.sub_add_cancel]
    omega
  · split <;> omega

/-- A day falls in no other year. -/
theorem yearOfDay_eq {day year : Int} (h : daysBeforeYear year ≤ day)
    (h' : day < daysBeforeYear (year + 1)) : yearOfDay day = year := by
  obtain ⟨hfrom, hto⟩ := yearOfDay_spec day
  have hle : yearOfDay day < year + 1 := strictMono_daysBeforeYear.lt_iff_lt.1 (by omega)
  have hge : year < yearOfDay day + 1 := strictMono_daysBeforeYear.lt_iff_lt.1 (by omega)
  omega

/-! ### Months -/

/-- A month begins after all days of the month before. -/
theorem daysBeforeMonth_succ (year : Int) {month : Nat} (h : 1 ≤ month) :
    daysBeforeMonth year (month + 1) = daysBeforeMonth year month + daysInMonth year month := by
  obtain ⟨month, rfl⟩ := Nat.exists_eq_add_of_le' h
  rfl

theorem monotone_daysBeforeMonth (year : Int) : Monotone (daysBeforeMonth year) := by
  refine monotone_nat_of_le_succ fun month => ?_
  cases month with
  | zero => exact le_rfl
  | succ month => exact Nat.le_add_right _ _

/-- The days of the months are the days of the year. -/
theorem daysBeforeMonth_end (year : Int) : daysBeforeMonth year (12 + 1) = daysInYear year := by
  simp only [daysBeforeMonth, daysInMonth, daysInYear]
  split <;> rfl

/-- Of the months up to `last`, one holds a day of the year that lies before the end of `last`. -/
theorem monthOfDay_spec (year : Int) {dayOfYear last : Nat} (hlast : 1 ≤ last)
    (h : dayOfYear < daysBeforeMonth year (last + 1)) :
    (1 ≤ monthOfDay year dayOfYear last ∧ monthOfDay year dayOfYear last ≤ last) ∧
      daysBeforeMonth year (monthOfDay year dayOfYear last) ≤ dayOfYear ∧
      dayOfYear < daysBeforeMonth year (monthOfDay year dayOfYear last + 1) := by
  induction last with
  | zero => omega
  | succ last ih =>
    rw [monthOfDay]
    split
    · next hle => exact ⟨⟨by omega, le_rfl⟩, hle, h⟩
    · next hlt =>
      have hpos : 1 ≤ last := by
        by_contra hzero
        obtain rfl : last = 0 := by omega
        exact hlt (Nat.zero_le _)
      obtain ⟨⟨hmin, hmax⟩, hwithin⟩ := ih hpos (by omega)
      exact ⟨⟨hmin, by omega⟩, hwithin⟩

/-- No other month holds the day. -/
theorem monthOfDay_eq {year : Int} {month dayOfYear : Nat} (hmonth : month ≤ 12)
    (h : daysBeforeMonth year month ≤ dayOfYear) (h' : dayOfYear < daysBeforeMonth year (month + 1)) :
    monthOfDay year dayOfYear 12 = month := by
  have hmono := monotone_daysBeforeMonth year
  have hyear : dayOfYear < daysBeforeMonth year (12 + 1) :=
    lt_of_lt_of_le h' (hmono (Nat.succ_le_succ hmonth))
  obtain ⟨-, hfrom, hto⟩ := monthOfDay_spec year (by decide) hyear
  have hle : monthOfDay year dayOfYear 12 < month + 1 := hmono.reflect_lt (lt_of_le_of_lt hfrom h')
  have hge : month < monthOfDay year dayOfYear 12 + 1 := hmono.reflect_lt (lt_of_le_of_lt h hto)
  omega

/-! ### From dates to points in time and back -/

namespace DateTime

variable {t : DateTime}

theorem isValid_iff :
    t.isValid = true ↔ (1 ≤ t.month ∧ t.month ≤ 12) ∧ (1 ≤ t.day ∧ t.day ≤ daysInMonth t.year t.month) ∧
      t.hour < 24 ∧ t.minute < 60 ∧ t.second < 60 := by
  simp [isValid, and_assoc]

/-- A date lies before the end of its month. -/
theorem dayOfYear_lt (h : t.isValid = true) :
    daysBeforeMonth t.year t.month + (t.day - 1) < daysBeforeMonth t.year (t.month + 1) := by
  obtain ⟨⟨hmonth, -⟩, ⟨hday, hlast⟩, -⟩ := isValid_iff.1 h
  rw [daysBeforeMonth_succ t.year hmonth]
  omega

/-- A date lies in its year. -/
theorem dayNumber_bounds (h : t.isValid = true) :
    daysBeforeYear t.year ≤ t.dayNumber ∧ t.dayNumber < daysBeforeYear (t.year + 1) := by
  obtain ⟨⟨-, hmonth⟩, -⟩ := isValid_iff.1 h
  have hday := dayOfYear_lt h
  have hend : daysBeforeMonth t.year (t.month + 1) ≤ daysInYear t.year :=
    daysBeforeMonth_end t.year ▸ monotone_daysBeforeMonth t.year (Nat.succ_le_succ hmonth)
  rw [dayNumber, daysBeforeYear_succ]
  omega

/-- A date in the calendar is read back from its point in time. -/
theorem toDateTime_toInstant (h : t.isValid = true) : t.toInstant.toDateTime = t := by
  obtain ⟨⟨-, hmonth⟩, ⟨hday, -⟩, hhour, hminute, hsecond⟩ := isValid_iff.1 h
  obtain ⟨hfrom, hto⟩ := dayNumber_bounds h
  have hdays : t.toInstant.seconds / 86400 + daysBeforeYear 1970 = t.dayNumber := by
    simp only [toInstant]
    omega
  have hclock : (t.toInstant.seconds % 86400).toNat = 3600 * t.hour + 60 * t.minute + t.second := by
    simp only [toInstant]
    omega
  have hyear : yearOfDay t.dayNumber = t.year := yearOfDay_eq hfrom hto
  have hdayOfYear : (t.dayNumber - daysBeforeYear t.year).toNat =
      daysBeforeMonth t.year t.month + (t.day - 1) := by
    rw [dayNumber]
    omega
  have hmonthOfDay := monthOfDay_eq hmonth (Nat.le_add_right _ _) (dayOfYear_lt h)
  simp only [Instant.toDateTime, hdays, hclock, hyear, hdayOfYear, hmonthOfDay]
  obtain ⟨year, month, day, hour, minute, second⟩ := t
  simp only [mk.injEq, true_and] at hday hhour hminute hsecond ⊢
  omega

end DateTime

namespace Instant

/-- The number of days from the start of the year 0 to the day of a point in time. -/
def dayNumber (t : Instant) : Int := t.seconds / 86400 + daysBeforeYear 1970

/-- How many days of its year lie before the day of a point in time. -/
def dayOfYear (t : Instant) : Nat := (t.dayNumber - daysBeforeYear (yearOfDay t.dayNumber)).toNat

variable (t : Instant)

theorem dayNumber_eq : t.dayNumber = daysBeforeYear (yearOfDay t.dayNumber) + t.dayOfYear := by
  obtain ⟨hfrom, -⟩ := yearOfDay_spec t.dayNumber
  rw [dayOfYear]
  omega

/-- The month of a point in time holds its day. -/
theorem month_toDateTime :
    (1 ≤ t.toDateTime.month ∧ t.toDateTime.month ≤ 12) ∧
      daysBeforeMonth t.toDateTime.year t.toDateTime.month ≤ t.dayOfYear ∧
      t.dayOfYear < daysBeforeMonth t.toDateTime.year (t.toDateTime.month + 1) := by
  refine monthOfDay_spec _ (by decide) ?_
  obtain ⟨-, hto⟩ := yearOfDay_spec t.dayNumber
  have heq := t.dayNumber_eq
  rw [daysBeforeYear_succ] at hto
  rw [daysBeforeMonth_end]
  change t.dayOfYear < daysInYear (yearOfDay t.dayNumber)
  omega

theorem day_toDateTime :
    t.toDateTime.day = t.dayOfYear - daysBeforeMonth t.toDateTime.year t.toDateTime.month + 1 := rfl

/-- The date of a point in time is in the calendar, and its time within a day. -/
theorem isValid_toDateTime : t.toDateTime.isValid = true := by
  obtain ⟨⟨hmin, hmax⟩, hfrom, hto⟩ := t.month_toDateTime
  rw [daysBeforeMonth_succ _ hmin] at hto
  refine DateTime.isValid_iff.2 ⟨⟨hmin, hmax⟩, ?_, ?_⟩
  · rw [day_toDateTime]
    omega
  · simp only [toDateTime]
    omega

/-- The date and time of day of a point in time stand for it. -/
theorem toInstant_toDateTime : t.toDateTime.toInstant = t := by
  obtain ⟨-, hfrom, -⟩ := t.month_toDateTime
  have hday : t.toDateTime.dayNumber = t.dayNumber := by
    have heq := t.dayNumber_eq
    rw [DateTime.dayNumber, day_toDateTime]
    change daysBeforeYear (yearOfDay t.dayNumber) + _ + _ = _
    omega
  obtain ⟨seconds⟩ := t
  simp only [DateTime.toInstant, hday, mk.injEq]
  simp only [toDateTime, dayNumber]
  omega

end Instant

end DirectoryAccess
