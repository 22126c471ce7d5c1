/-
This file proves that counting days and reading the calendar are inverse to each other: every day count has one
date, and every date of the calendar has one day count. Four centuries all have the same days, so the argument
is about the days of such an era. A day splits uniquely into a century, a cycle of four years in it, a year in
that and a day of the year. The leap day ends its year; three of the four centuries lack it in their last year.
-/

import Mathlib.Data.Nat.Basic
import Mathlib.Tactic.IntervalCases
import Community.Time.Timestamp

namespace Community

namespace Date

variable {day centuries cycles years dayOfYear : Nat}

/-! ### The days of an era -/

/-- A day of an era that lies in a year after so many centuries, cycles of four years and single years. -/
structure Splits (day centuries cycles years dayOfYear : Nat) : Prop where
  fewCenturies : centuries ≤ 3
  fewCycles : cycles ≤ 24
  fewYears : years ≤ 3
  inYear : dayOfYear ≤ 365
  leapDay : dayOfYear = 365 → years = 3 ∧ (cycles = 24 → centuries = 3)
  sum : day = 36524 * centuries + 1461 * cycles + 365 * years + dayOfYear

/-- Every day of an era splits. The last day of the era is taken for the century before it, and the last day
of a cycle for the year before it. -/
theorem exists_splits (inEra : day < daysPerEra) :
    ∃ centuries cycles years dayOfYear, Splits day centuries cycles years dayOfYear := by
  have within : day < 146097 := inEra
  obtain ⟨centuries, inCentury, fewCenturies, sum, short, last⟩ : ∃ centuries inCentury, centuries ≤ 3 ∧
      day = 36524 * centuries + inCentury ∧ inCentury ≤ 36524 ∧
        (inCentury = 36524 → centuries = 3) := by
    rcases Nat.lt_or_ge day 146096 with early | late
    · exact ⟨day / 36524, day % 36524, by omega, by omega, by omega, by omega⟩
    · exact ⟨3, day - 109572, by omega, by omega, by omega, by omega⟩
  obtain ⟨years, dayOfYear, fewYears, sumInCycle, inYear, leapDay⟩ : ∃ years dayOfYear, years ≤ 3 ∧
      inCentury % 1461 = 365 * years + dayOfYear ∧ dayOfYear ≤ 365 ∧
        (dayOfYear = 365 → years = 3) := by
    rcases Nat.lt_or_ge (inCentury % 1461) 1460 with early | late
    · exact ⟨inCentury % 1461 / 365, inCentury % 1461 % 365, by omega, by omega, by omega, by omega⟩
    · exact ⟨3, 365, by omega, by omega, by omega, by omega⟩
  exact ⟨centuries, inCentury / 1461, years, dayOfYear, fewCenturies, by omega, fewYears, inYear,
    by omega, by omega⟩

namespace Splits

/-- The year of the era is found by leaving out the leap days before it. -/
theorem yearOfEra (splits : Splits day centuries cycles years dayOfYear) :
    (day - day / 1460 + day / 36524 - day / 146096) / 365 =
      100 * centuries + 4 * cycles + years := by
  obtain ⟨fewCenturies, fewCycles, fewYears, inYear, leapDay, sum⟩ := splits
  have leapCenturies : day / 36524 = centuries + day / 146096 := by
    rcases Nat.lt_or_ge (1461 * cycles + 365 * years + dayOfYear) 36524 with early | late
    · have noEra : day / 146096 = 0 := Nat.div_eq_of_lt (by omega)
      have century : day / 36524 = centuries := Nat.div_eq_of_lt_le (by omega) (by omega)
      rw [noEra, century, Nat.add_zero]
    · obtain ⟨-, lastCentury⟩ := leapDay (by omega)
      have lastDay : day = 146096 := by omega
      rw [lastDay, lastCentury (by omega)]
  -- the estimate of the leap days may be one too high, but it is right on the first day of a year
  -- and too high on a leap day
  obtain ⟨extra, leapYears, atMost, atStart, atEnd⟩ : ∃ extra,
      day / 1460 = 25 * centuries + cycles + extra ∧ extra ≤ 1 ∧
        (dayOfYear = 0 → extra = 0) ∧ (dayOfYear = 365 → extra = 1) :=
    ⟨(24 * centuries + cycles + 365 * years + dayOfYear) / 1460, by omega, by omega, by omega, by omega⟩
  rw [leapCenturies, leapYears]
  omega

/-- The days of the era before its year. -/
theorem daysBefore (splits : Splits day centuries cycles years dayOfYear) :
    365 * (100 * centuries + 4 * cycles + years) + (100 * centuries + 4 * cycles + years) / 4 -
      (100 * centuries + 4 * cycles + years) / 100 + dayOfYear = day := by
  obtain ⟨fewCenturies, fewCycles, fewYears, inYear, leapDay, sum⟩ := splits
  omega

end Splits

/-! ### The days of a year -/

/-- A day of the year falls into one of twelve months, counted from March. -/
theorem monthOfYear_le {dayOfYear : Nat} (inYear : dayOfYear ≤ 365) :
    (5 * dayOfYear + 2) / 153 ≤ 11 ∧
      (153 * ((5 * dayOfYear + 2) / 153) + 2) / 5 ≤ dayOfYear := by
  omega

/-- What a day of a month tells about the month. -/
theorem month_of_le_daysInMonth {year : Int} {month day : Nat} (atLeast : 1 ≤ day)
    (atMost : day ≤ daysInMonth year month) :
    1 ≤ month ∧ month ≤ 12 ∧ day ≤ 31 ∧
      (month = 4 ∨ month = 6 ∨ month = 9 ∨ month = 11 → day ≤ 30) ∧
      (month = 2 → day ≤ 29 ∧ (day = 29 → isLeap year)) := by
  unfold daysInMonth at atMost
  split_ifs at atMost with february leap thirty others
  · exact ⟨by omega, by omega, by omega, by omega, fun _ => ⟨by omega, fun _ => leap⟩⟩
  · exact ⟨by omega, by omega, by omega, by omega, fun _ => ⟨by omega, fun _ => by omega⟩⟩
  all_goals exact ⟨by omega, by omega, by omega, by omega, fun same => absurd same february⟩

/-- A day of a month is a day of the year, and the last one of the year is the leap day. -/
theorem dayOfYear_of_day {date : Date} (atLeast : 1 ≤ date.day)
    (atMost : date.day ≤ daysInMonth date.year date.month) :
    let month := (date.month + 9) % 12
    let dayOfYear := (153 * month + 2) / 5 + date.day - 1
    dayOfYear ≤ 365 ∧ (5 * dayOfYear + 2) / 153 = month ∧
      (dayOfYear = 365 → date.month = 2 ∧ isLeap date.year) := by
  obtain ⟨year, month, day⟩ := date
  obtain ⟨first, last, long, thirty, february⟩ := month_of_le_daysInMonth atLeast atMost
  dsimp only at *
  clear atMost
  interval_cases month
  case «2» =>
    obtain ⟨short, leap⟩ := february rfl
    exact ⟨by omega, by omega, fun isLast => ⟨rfl, leap (by omega)⟩⟩
  all_goals exact ⟨by omega, by omega, by omega⟩

/-! ### Both directions -/

/-- The date of a day of an era: its year begins in March, so the last two months belong to the next one. -/
theorem ofDays_eq {days era : Int} (splits : Splits day centuries cycles years dayOfYear)
    (counted : days + daysToEpoch = era * daysPerEra + day) :
    let month := (5 * dayOfYear + 2) / 153
    let january := 10 ≤ month
    let year : Int := (100 * centuries + 4 * cycles + years : Nat) + era * 400
    ofDays days =
      ⟨if january then year + 1 else year, if january then month - 9 else month + 3,
        dayOfYear - (153 * month + 2) / 5 + 1⟩ := by
  intro month january year
  have inEra : (day : Int) < daysPerEra := by
    have := splits.yearOfEra
    obtain ⟨fewCenturies, fewCycles, fewYears, inYear, leapDay, sum⟩ := splits
    unfold daysPerEra
    omega
  have eraOf : (days + daysToEpoch).fdiv daysPerEra = era := by
    rw [counted, Int.fdiv_eq_ediv_of_nonneg _ (Int.natCast_nonneg _), Int.add_comm,
      Int.add_mul_ediv_right _ _ (by decide), Int.ediv_eq_zero_of_lt (Int.natCast_nonneg _) inEra,
      Int.zero_add]
  have dayOf : (days + daysToEpoch - era * daysPerEra).toNat = day := by
    rw [counted]
    omega
  have before := splits.daysBefore
  have yearOf := splits.yearOfEra
  have dayOfYearOf : day - (365 * (100 * centuries + 4 * cycles + years) +
      (100 * centuries + 4 * cycles + years) / 4 - (100 * centuries + 4 * cycles + years) / 100) =
        dayOfYear := by
    omega
  obtain ⟨monthLe, -⟩ := monthOfYear_le splits.inYear
  unfold ofDays
  simp only [eraOf, dayOf, yearOf, dayOfYearOf]
  by_cases late : january
  · have notEarly : ¬ month < 10 := Nat.not_lt.2 late
    have isFirst : month - 9 ≤ 2 := by omega
    simp only [if_pos late, if_neg notEarly, if_pos isFirst, month, year]
  · have early : month < 10 := Nat.not_le.1 late
    have notFirst : ¬ month + 3 ≤ 2 := by omega
    simp only [if_neg late, if_pos early, if_neg notFirst, month, year]

/-- The day count of a date, with its year counted from March. -/
theorem toDays_eq {date : Date} {era : Int} {yearOfEra : Nat} (inEra : yearOfEra < 400)
    (fromMarch : (if date.month ≤ 2 then date.year - 1 else date.year) = yearOfEra + era * 400) :
    date.toDays = era * daysPerEra +
      (yearOfEra * 365 + yearOfEra / 4 - yearOfEra / 100 +
        ((153 * ((date.month + 9) % 12) + 2) / 5 + date.day - 1) : Nat) - daysToEpoch := by
  have eraOf : ((yearOfEra : Int) + era * 400).fdiv 400 = era := by
    rw [Int.fdiv_eq_ediv_of_nonneg _ (by decide), Int.add_mul_ediv_right _ _ (by decide),
      Int.ediv_eq_zero_of_lt (Int.natCast_nonneg _) (by omega), Int.zero_add]
  have yearOf : ((yearOfEra : Int) + era * 400 - era * 400).toNat = yearOfEra := by omega
  unfold toDays
  simp only [fromMarch, eraOf, yearOf]

theorem toDays_ofDays (days : Int) : (ofDays days).toDays = days := by
  obtain ⟨era, dayOfEra, inEra, counted⟩ : ∃ (era : Int) (dayOfEra : Nat), dayOfEra < daysPerEra ∧
      days + daysToEpoch = era * daysPerEra + dayOfEra := by
    have positive : (0 : Int) < daysPerEra := by decide
    have nonneg := Int.emod_nonneg (days + daysToEpoch) positive.ne'
    have below := Int.emod_lt_of_pos (days + daysToEpoch) positive
    refine ⟨(days + daysToEpoch) / daysPerEra, ((days + daysToEpoch) % daysPerEra).toNat, by omega, ?_⟩
    rw [Int.toNat_of_nonneg nonneg, Int.mul_comm]
    exact (Int.mul_ediv_add_emod _ _).symm
  obtain ⟨centuries, cycles, years, dayOfYear, splits⟩ := exists_splits inEra
  obtain ⟨monthLe, monthFits⟩ := monthOfYear_le splits.inYear
  have before := splits.daysBefore
  have yearsOfEra : 100 * centuries + 4 * cycles + years < 400 := by
    have := splits.fewCenturies
    have := splits.fewCycles
    have := splits.fewYears
    omega
  have monthBack : ((if 10 ≤ (5 * dayOfYear + 2) / 153 then (5 * dayOfYear + 2) / 153 - 9
      else (5 * dayOfYear + 2) / 153 + 3) + 9) % 12 = (5 * dayOfYear + 2) / 153 := by
    split <;> omega
  have dayBack : (153 * ((5 * dayOfYear + 2) / 153) + 2) / 5 +
      (dayOfYear - (153 * ((5 * dayOfYear + 2) / 153) + 2) / 5 + 1) - 1 = dayOfYear := by
    omega
  rw [ofDays_eq splits counted, @toDays_eq _ era _ yearsOfEra]
  · simp only [monthBack, dayBack, Nat.mul_comm _ 365, before]
    omega
  · dsimp only
    by_cases late : 10 ≤ (5 * dayOfYear + 2) / 153
    · rw [if_pos late, if_pos late, if_pos (by omega)]
      omega
    · rw [if_neg late, if_neg late, if_neg (by omega)]

/-- A date whose year, counted from March, splits into an era and a year of it. -/
theorem exists_splits_of_valid {date : Date} {yearOfEra : Nat} {era : Int} (inEra : yearOfEra < 400)
    (fromMarch : (if date.month ≤ 2 then date.year - 1 else date.year) = yearOfEra + era * 400)
    (atLeast : 1 ≤ date.day) (atMost : date.day ≤ daysInMonth date.year date.month) :
    Splits (yearOfEra * 365 + yearOfEra / 4 - yearOfEra / 100 +
        ((153 * ((date.month + 9) % 12) + 2) / 5 + date.day - 1))
      (yearOfEra / 100) (yearOfEra % 100 / 4) (yearOfEra % 4)
      ((153 * ((date.month + 9) % 12) + 2) / 5 + date.day - 1) := by
  obtain ⟨inYear, -, leapDay⟩ := dayOfYear_of_day atLeast atMost
  refine ⟨by omega, by omega, by omega, inYear, fun isLast => ?_, by omega⟩
  obtain ⟨february, leap⟩ := leapDay isLast
  rw [if_pos (by omega)] at fromMarch
  simp only [isLeap, decide_eq_true_eq, Bool.and_eq_true, Bool.or_eq_true] at leap
  exact ⟨by omega, fun lastCycle => by omega⟩

theorem ofDays_toDays {date : Date} (valid : date.isValid) : ofDays date.toDays = date := by
  simp only [isValid, Bool.and_eq_true, decide_eq_true_eq] at valid
  obtain ⟨⟨-, atLeast⟩, atMost⟩ := valid
  obtain ⟨first, last, -⟩ := month_of_le_daysInMonth atLeast atMost
  obtain ⟨-, monthOf, -⟩ := dayOfYear_of_day atLeast atMost
  obtain ⟨yearOfEra, era, inEra, fromMarch⟩ : ∃ (yearOfEra : Nat) (era : Int), yearOfEra < 400 ∧
      (if date.month ≤ 2 then date.year - 1 else date.year) = yearOfEra + era * 400 := by
    generalize (if date.month ≤ 2 then date.year - 1 else date.year) = year
    exact ⟨(year % 400).toNat, year / 400, by omega, by omega⟩
  have splits := exists_splits_of_valid inEra fromMarch atLeast atMost
  have counted : date.toDays + daysToEpoch = era * daysPerEra +
      (yearOfEra * 365 + yearOfEra / 4 - yearOfEra / 100 +
        ((153 * ((date.month + 9) % 12) + 2) / 5 + date.day - 1) : Nat) := by
    rw [toDays_eq inEra fromMarch]
    omega
  have yearsOfEra : 100 * (yearOfEra / 100) + 4 * (yearOfEra % 100 / 4) + yearOfEra % 4 = yearOfEra := by
    omega
  obtain ⟨year, month, day⟩ := date
  dsimp only at *
  rw [ofDays_eq splits counted, monthOf, yearsOfEra, ← fromMarch]
  clear splits counted monthOf yearsOfEra fromMarch atMost
  by_cases january : month ≤ 2
  · have late : (month + 9) % 12 = month + 9 := Nat.mod_eq_of_lt (by omega)
    simp only [late, if_pos january, if_pos (by omega : 10 ≤ month + 9), Date.mk.injEq]
    omega
  · have early : (month + 9) % 12 = month - 3 := by omega
    simp only [early, if_neg january, if_neg (by omega : ¬ 10 ≤ month - 3), Date.mk.injEq]
    exact ⟨trivial, by omega, by omega⟩

/-- Two days have different dates. -/
theorem ofDays_injective : Function.Injective ofDays := fun first second same => by
  rw [← toDays_ofDays first, same, toDays_ofDays]

end Date

end Community
