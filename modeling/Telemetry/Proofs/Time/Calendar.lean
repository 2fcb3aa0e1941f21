import Mathlib.Order.Monotone.Basic
import Mathlib.Order.Nat
import Telemetry.Time.Calendar

/-!
# Dates and day numbers

Every day number is that of a valid date. The year of a day is found by a division that corrects
for leap days, and no linear argument sees through it. But it never goes down from one day to the
next (`yearOfEra_mono`), so it is enough to know it on the first and the last day of each of the
four hundred years of an era.
-/

namespace Telemetry.Date

/-! ## The years of an era -/

/-- The first day of a year of the era. -/
def firstDay (year : Nat) : Nat := 365 * year + year / 4 - year / 100

/-- The last day of a year of the era. The era itself ends with a leap day. -/
def lastDay (year : Nat) : Nat := if year = 399 then 146096 else firstDay (year + 1) - 1

theorem yearOfEra_le_succ (day : Nat) : yearOfEra day ≤ yearOfEra (day + 1) := by
  have hera (n : Nat) : n / 146096 = n / 36524 / 4 := by rw [Nat.div_div_eq_div_mul]
  rw [yearOfEra, yearOfEra, hera, hera]
  refine Nat.div_le_div_right ?_
  omega

theorem yearOfEra_mono {a b : Nat} (h : a ≤ b) : yearOfEra a ≤ yearOfEra b :=
  monotone_nat_of_le_succ yearOfEra_le_succ h

theorem yearOfEra_lt {day : Nat} (h : day < 146097) : yearOfEra day < 400 := by
  have hlast : yearOfEra 146096 = 399 := rfl
  exact Nat.lt_of_le_of_lt (yearOfEra_mono (Nat.le_of_lt_succ h)) (hlast ▸ by decide)

theorem yearOfEra_ends {year : Nat} (h : year < 400) :
    yearOfEra (firstDay year) = year ∧ yearOfEra (lastDay year) = year := by
  have hall : ∀ year < 400, yearOfEra (firstDay year) = year ∧ yearOfEra (lastDay year) = year := by
    decide +kernel
  exact hall year h

theorem firstDay_le {day : Nat} (h : day < 146097) : firstDay (yearOfEra day) ≤ day := by
  refine Nat.le_of_not_lt fun hlt ↦ ?_
  have hyear := yearOfEra_lt h
  obtain ⟨year, hsucc⟩ : ∃ year, yearOfEra day = year + 1 :=
    Nat.exists_eq_add_one_of_ne_zero fun hzero ↦ by
      rw [hzero] at hlt
      exact Nat.not_lt_zero day hlt
  -- The last day of the year before would then lie in this year already.
  have hlast : lastDay year = firstDay (yearOfEra day) - 1 := by
    rw [lastDay, if_neg (by omega), hsucc]
  have hmono : yearOfEra day ≤ yearOfEra (lastDay year) := yearOfEra_mono (by omega)
  rw [(yearOfEra_ends (by omega)).2] at hmono
  omega

theorem le_lastDay {day : Nat} (h : day < 146097) : day ≤ lastDay (yearOfEra day) := by
  refine Nat.le_of_not_lt fun hlt ↦ ?_
  have hyear := yearOfEra_lt h
  by_cases hlast : yearOfEra day = 399
  · rw [lastDay, if_pos hlast] at hlt
    omega
  · rw [lastDay, if_neg hlast] at hlt
    have hmono : yearOfEra (firstDay (yearOfEra day + 1)) ≤ yearOfEra day :=
      yearOfEra_mono (by omega)
    rw [(yearOfEra_ends (by omega)).1] at hmono
    omega

/-! ## The months of a year -/

/-- The last day of a year that begins in March, counted from zero. -/
def lastDayOfYear (yearOfEra : Nat) : Nat := if isLeapYear (yearOfEra + 1) then 365 else 364

theorem lastDayOfYear_le (year : Nat) : lastDayOfYear year ≤ 365 := by
  rw [lastDayOfYear]
  split
  · exact Nat.le_refl 365
  · exact Nat.le_succ 364

theorem lastDay_eq {year : Nat} (h : year < 400) :
    lastDay year = firstDay year + lastDayOfYear year := by
  have hall : ∀ year < 400, lastDay year = firstDay year + lastDayOfYear year := by decide +kernel
  exact hall year h

/-- The month that a day of a year lies in, counted from March. -/
def monthOfDay (dayOfYear : Nat) : Nat := (5 * dayOfYear + 2) / 153

/-- The month in which a month from March lies. -/
def monthOf (fromMarch : Nat) : Nat := if fromMarch < 10 then fromMarch + 3 else fromMarch - 9

/-- The day of its month on which a day of the year falls. -/
def dayOfMonth (dayOfYear : Nat) : Nat := dayOfYear - (153 * monthOfDay dayOfYear + 2) / 5 + 1

theorem dayOfYear_monthOf {day : Nat} (h : day ≤ 365) :
    dayOfYear (monthOf (monthOfDay day)) (dayOfMonth day) = day := by
  have hall : ∀ day < 366, dayOfYear (monthOf (monthOfDay day)) (dayOfMonth day) = day := by
    decide +kernel
  exact hall day (Nat.lt_succ_of_le h)

/-- Of a year, the length of its months depends on its leap day alone. -/
theorem dayOfMonth_le {year : Int} {day : Nat} (h : day ≤ if isLeapYear year then 365 else 364) :
    dayOfMonth day ≤ daysInMonth year (monthOf (monthOfDay day)) := by
  have hall : ∀ leap : Bool, ∀ day < 366, (day ≤ if leap then 365 else 364) →
      dayOfMonth day ≤
        if monthOf (monthOfDay day) = 2 then (if leap then 29 else 28)
        else if monthOf (monthOfDay day) = 4 || monthOf (monthOfDay day) = 6 ||
          monthOf (monthOfDay day) = 9 || monthOf (monthOfDay day) = 11 then 30
        else if 1 ≤ monthOf (monthOfDay day) && monthOf (monthOfDay day) ≤ 12 then 31
        else 0 := by decide +kernel
  have hday : day < 366 := by
    split at h
    · omega
    · omega
  rw [daysInMonth]
  exact hall (isLeapYear year) day hday h

theorem daysInMonth_eq_of_ne_two {month : Nat} (h : month ≠ 2) (year year' : Int) :
    daysInMonth year month = daysInMonth year' month := by
  rw [daysInMonth, daysInMonth, if_neg h, if_neg h]

theorem month_le_of_isValid {d : Date} (h : d.isValid = true) : 1 ≤ d.month ∧ d.month ≤ 12 := by
  rw [isValid, Bool.and_eq_true, decide_eq_true_eq, decide_eq_true_eq, daysInMonth] at h
  by_cases hmonth : (decide (1 ≤ d.month) && decide (d.month ≤ 12)) = true
  · rw [Bool.and_eq_true, decide_eq_true_eq, decide_eq_true_eq] at hmonth
    exact hmonth
  · rw [if_neg hmonth] at h
    simp only [Bool.or_eq_true, decide_eq_true_eq] at h
    split at h
    · omega
    · split at h
      · omega
      · omega

theorem day_le_of_isValid {d : Date} (h : d.isValid = true) : 1 ≤ d.day ∧ d.day ≤ 31 := by
  rw [isValid, Bool.and_eq_true, decide_eq_true_eq, decide_eq_true_eq] at h
  have hbound : daysInMonth d.year d.month ≤ 31 := by
    rw [daysInMonth]
    repeat' split
    all_goals decide
  exact ⟨h.1, Nat.le_trans h.2 hbound⟩

/-! ## All days -/

theorem isLeapYear_add (era : Int) (year : Nat) :
    isLeapYear (era * 400 + year + 1) = isLeapYear (year + 1) := by
  have h4 : (era * 400 + (year : Int) + 1) % 4 = ((year : Int) + 1) % 4 := by omega
  have h100 : (era * 400 + (year : Int) + 1) % 100 = ((year : Int) + 1) % 100 := by omega
  have h400 : (era * 400 + (year : Int) + 1) % 400 = ((year : Int) + 1) % 400 := by omega
  rw [isLeapYear, isLeapYear, h4, h100, h400]

/-- A day is a day of a year of an era. -/
theorem exists_ofDays (days : Int) : ∃ (era : Int) (year day : Nat),
    year < 400 ∧ day ≤ lastDayOfYear year ∧
    days = era * 146097 + firstDay year + day - 719468 ∧
    ofDays days =
      ⟨if monthOf (monthOfDay day) ≤ 2 then era * 400 + year + 1 else era * 400 + year,
        monthOf (monthOfDay day), dayOfMonth day⟩ := by
  -- Days are counted from 1970, eras from the first of March of the year zero.
  have hlt : ((days + 719468) % 146097).toNat < 146097 := by omega
  have hfirst := firstDay_le hlt
  have hlast := le_lastDay hlt
  have hyear := yearOfEra_lt hlt
  rw [lastDay_eq hyear] at hlast
  refine ⟨(days + 719468) / 146097, yearOfEra ((days + 719468) % 146097).toNat,
    ((days + 719468) % 146097).toNat - firstDay (yearOfEra ((days + 719468) % 146097).toNat),
    hyear, by omega, by omega, rfl⟩

theorem isValid_ofDays (days : Int) : (ofDays days).isValid = true := by
  obtain ⟨era, year, day, -, hday, -, h⟩ := exists_ofDays days
  rw [lastDayOfYear, ← isLeapYear_add era] at hday
  have hle := dayOfMonth_le hday
  rw [h, isValid, Bool.and_eq_true, decide_eq_true_eq, decide_eq_true_eq]
  refine ⟨Nat.le_add_left 1 _, ?_⟩
  by_cases hmonth : monthOf (monthOfDay day) ≤ 2
  · rw [if_pos hmonth]
    exact hle
  · rw [if_neg hmonth]
    rwa [daysInMonth_eq_of_ne_two (by omega) _ (era * 400 + year)] at hle

/-- The day number of the date of a day is that of the day. -/
theorem toDays_ofDays (days : Int) : (ofDays days).toDays = days := by
  obtain ⟨era, year, day, hyear, hday, hdays, h⟩ := exists_ofDays days
  have hlast : day ≤ 365 := Nat.le_trans hday (lastDayOfYear_le year)
  have hshift : (if monthOf (monthOfDay day) ≤ 2 then
      (if monthOf (monthOfDay day) ≤ 2 then era * 400 + (year : Int) + 1 else era * 400 + year) - 1
      else (if monthOf (monthOfDay day) ≤ 2 then era * 400 + (year : Int) + 1
        else era * 400 + year)) = era * 400 + year := by
    split
    · omega
    · rfl
  have hera : (era * 400 + (year : Int)) / 400 = era := by omega
  have hrest : ((era * 400 + (year : Int)) % 400).toNat = year := by omega
  have hfirst : firstDay year = 365 * year + year / 4 - year / 100 := rfl
  rw [h, toDays]
  dsimp only
  rw [hshift, hera, hrest, dayOfYear_monthOf hlast, dayOfEra]
  omega

/-- No day from the first of March of the year zero on lies in a year before it. -/
theorem year_ofDays_nonneg {days : Int} (h : -719468 ≤ days) : 0 ≤ (ofDays days).year := by
  obtain ⟨era, year, day, hyear, hday, hdays, hdate⟩ := exists_ofDays days
  have hfirst : firstDay year = 365 * year + year / 4 - year / 100 := rfl
  have hlast : day ≤ 365 := Nat.le_trans hday (lastDayOfYear_le year)
  have hera : 0 ≤ era := by omega
  rw [hdate]
  dsimp only
  split
  · omega
  · omega

/-- No day before 1970 lies in a year after 2000. -/
theorem year_ofDays_le {days : Int} (h : days < 0) : (ofDays days).year ≤ 2000 := by
  obtain ⟨era, year, day, hyear, -, hdays, hdate⟩ := exists_ofDays days
  have hera : era ≤ 4 := by omega
  rw [hdate]
  dsimp only
  split
  · omega
  · omega

end Telemetry.Date
