/-
  TfScale.Lib.Calendar

  Dates of the proleptic Gregorian calendar, numbered by the days from 0000-01-01.

  A year is as long as its months together (`daysBeforeMonth_add_le`), so the days of a
  year and those of a month are intervals of numbers, and dates are ordered field by field
  as their numbers are (`Date.before_iff`).
-/

import Mathlib.Algebra.BigOperators.Group.List.Basic
import Mathlib.Algebra.Ring.Nat
import Mathlib.Order.Nat

namespace TfScale.Calendar

def isLeap (year : Nat) : Bool := year % 4 == 0 && (year % 100 != 0 || year % 400 == 0)

def daysInMonth (year : Nat) : Nat → Nat
  | 2 => if isLeap year then 29 else 28
  | 4 | 6 | 9 | 11 => 30
  | _ => 31

def daysInYear (year : Nat) : Nat := if isLeap year then 366 else 365

/-- The days from 0000-01-01 to the first day of the year. -/
def daysBeforeYear (year : Nat) : Nat := ((List.range year).map daysInYear).sum

/-- The days of the year before the month. -/
def daysBeforeMonth (year month : Nat) : Nat :=
  ((List.range (month - 1)).map fun i => daysInMonth year (i + 1)).sum

structure Date where
  year : Nat
  month : Nat
  day : Nat
  month_pos : 1 ≤ month
  month_le : month ≤ 12
  day_pos : 1 ≤ day
  day_le : day ≤ daysInMonth year month

namespace Date

/-- The days from 0000-01-01 to the date. -/
def number (d : Date) : Nat := daysBeforeYear d.year + daysBeforeMonth d.year d.month + (d.day - 1)

/-- The order of dates, field by field. -/
def Before (d e : Date) : Prop :=
  d.year < e.year ∨ d.year = e.year ∧ (d.month < e.month ∨ d.month = e.month ∧ d.day < e.day)

end Date

-- ============================================================================
-- Years and months as intervals
-- ============================================================================

theorem daysBeforeYear_succ (year : Nat) :
    daysBeforeYear (year + 1) = daysBeforeYear year + daysInYear year := by
  simp [daysBeforeYear, List.range_succ]

/-- Every fourth year is leap, but the centuries, but every fourth century. -/
theorem daysBeforeYear_eq (year : Nat) :
    daysBeforeYear year + (year + 99) / 100 = 365 * year + (year + 3) / 4 + (year + 399) / 400 := by
  induction year with
  | zero => rfl
  | succ year ih =>
      rw [daysBeforeYear_succ, daysInYear]
      by_cases hleap : isLeap year = true
      · rw [if_pos hleap]
        simp [isLeap] at hleap
        omega
      · rw [if_neg hleap]
        simp [isLeap] at hleap
        omega

theorem daysBeforeYear_add_le {year year' : Nat} (h : year < year') :
    daysBeforeYear year + daysInYear year ≤ daysBeforeYear year' := by
  induction year', h using Nat.le_induction with
  | base => exact (daysBeforeYear_succ year).ge
  | succ year' _ ih =>
      rw [daysBeforeYear_succ]
      omega

theorem daysBeforeMonth_succ {year month : Nat} (h : 1 ≤ month) :
    daysBeforeMonth year (month + 1) = daysBeforeMonth year month + daysInMonth year month := by
  obtain ⟨i, rfl⟩ := Nat.exists_eq_add_of_le' h
  simp [daysBeforeMonth, List.range_succ]

theorem daysBeforeMonth_add_le_of_lt (year : Nat) {month month' : Nat} (hmonth : 1 ≤ month)
    (h : month < month') :
    daysBeforeMonth year month + daysInMonth year month ≤ daysBeforeMonth year month' := by
  induction month', h using Nat.le_induction with
  | base => exact (daysBeforeMonth_succ hmonth).ge
  | succ month' hle ih =>
      rw [daysBeforeMonth_succ (by omega)]
      omega

/-- The months fill the year. -/
theorem daysBeforeMonth_december (year : Nat) : daysBeforeMonth year 13 = daysInYear year := by
  simp only [daysBeforeMonth, daysInYear, List.range_succ, List.range_zero, List.nil_append,
    List.map_append, List.map_cons, List.map_nil, List.sum_append, List.sum_cons, List.sum_nil,
    daysInMonth]
  split <;> rfl

theorem daysBeforeMonth_add_le (year : Nat) {month : Nat} (hpos : 1 ≤ month) (hle : month ≤ 12) :
    daysBeforeMonth year month + daysInMonth year month ≤ daysInYear year := by
  rw [← daysBeforeMonth_december]
  exact daysBeforeMonth_add_le_of_lt year hpos (by omega)

-- ============================================================================
-- The order of dates
-- ============================================================================

namespace Date

variable {d e : Date}

theorem number_lt_of_before (h : d.Before e) : d.number < e.number := by
  have hday := d.day_pos
  have hday_le := d.day_le
  have hmonth := daysBeforeMonth_add_le d.year d.month_pos d.month_le
  rw [number, number]
  rcases h with hyear | ⟨hyear, hmonths | ⟨hmonths, hdays⟩⟩
  · have hle := daysBeforeYear_add_le hyear
    omega
  · have hle := daysBeforeMonth_add_le_of_lt d.year d.month_pos hmonths
    rw [← hyear]
    omega
  · rw [← hyear, ← hmonths]
    omega

theorem before_trichotomy (d e : Date) : d.Before e ∨ d = e ∨ e.Before d := by
  rcases Nat.lt_trichotomy d.year e.year with hyear | hyear | hyear
  · exact Or.inl (Or.inl hyear)
  · rcases Nat.lt_trichotomy d.month e.month with hmonth | hmonth | hmonth
    · exact Or.inl (Or.inr ⟨hyear, Or.inl hmonth⟩)
    · rcases Nat.lt_trichotomy d.day e.day with hday | hday | hday
      · exact Or.inl (Or.inr ⟨hyear, Or.inr ⟨hmonth, hday⟩⟩)
      · refine Or.inr (Or.inl ?_)
        obtain ⟨year, month, day, _, _, _, _⟩ := d
        obtain ⟨year', month', day', _, _, _, _⟩ := e
        cases hyear
        cases hmonth
        cases hday
        rfl
      · exact Or.inr (Or.inr (Or.inr ⟨hyear.symm, Or.inr ⟨hmonth.symm, hday⟩⟩))
    · exact Or.inr (Or.inr (Or.inr ⟨hyear.symm, Or.inl hmonth⟩))
  · exact Or.inr (Or.inr (Or.inl hyear))

/-- Dates are ordered as their numbers are. -/
theorem before_iff : d.Before e ↔ d.number < e.number := by
  refine ⟨number_lt_of_before, fun h => ?_⟩
  rcases before_trichotomy d e with hbefore | rfl | hafter
  · exact hbefore
  · omega
  · have := number_lt_of_before hafter
    omega

/-- A date before the first day of a year. -/
theorem year_lt_of_number_lt {year : Nat}
    (h : d.number + (year + 99) / 100 < 365 * year + (year + 3) / 4 + (year + 399) / 400) :
    d.year < year := by
  by_contra hle
  have hfirst : daysBeforeYear year ≤ daysBeforeYear d.year := by
    rcases Nat.lt_or_eq_of_le (Nat.le_of_not_lt hle) with hlt | heq
    · exact (Nat.le_add_right _ _).trans (daysBeforeYear_add_le hlt)
    · exact (congrArg daysBeforeYear heq).le
  rw [← daysBeforeYear_eq, number] at h
  omega

theorem number_injective : Function.Injective number := by
  intro d e h
  rcases before_trichotomy d e with hbefore | heq | hafter
  · have := number_lt_of_before hbefore
    omega
  · exact heq
  · have := number_lt_of_before hafter
    omega

end Date

end TfScale.Calendar
