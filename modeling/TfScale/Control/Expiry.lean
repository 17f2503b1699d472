/-
  TfScale.Control.Expiry

  Does an endpoint expire when its `expires_at` says?

  `expires_at` is a text that the device reported, and the queries compare it with the
  text of `CURRENT_TIMESTAMP`.  Both begin with the date, which SQLite's `civilFromDays`
  finds (`exists_civilFromDays`), and dates are ordered as their texts
  (`dateText_lt_iff`).  Behind the date an RFC 3339 text has a `T` where SQLite has a
  space, which is smaller: so within its last day an endpoint has not expired, whatever
  the time of day (`expired_iff`).
-/

import Mathlib.Tactic.Linarith
import Mathlib.Tactic.IntervalCases
import TfScale.Lib.Calendar
import TfScale.Control.Reports

namespace TfScale.Control

open Calendar

-- ============================================================================
-- SQLite's calendar
-- ============================================================================

/-- The year of the era, counted from March, in which a day of the era lies. -/
def yearOfEra (dayOfEra : Nat) : Nat :=
  (dayOfEra - dayOfEra / 1460 + dayOfEra / 36524 - dayOfEra / 146096) / 365

/-- The first day of a year that is counted from March. -/
def marchFirst (year : Nat) : Nat := 365 * year + year / 4 - year / 100 + year / 400

theorem yearOfEra_mono : Monotone yearOfEra := by
  refine monotone_nat_of_le_succ fun day => Nat.div_le_div_right ?_
  omega

theorem yearOfEra_marchFirst : ∀ year < 400,
    yearOfEra (marchFirst year) = year ∧ yearOfEra (marchFirst (year + 1) - 1) = year := by
  decide +kernel

theorem yearOfEra_spec {day : Nat} (h : day < 146097) :
    yearOfEra day < 400 ∧ marchFirst (yearOfEra day) ≤ day ∧ day < marchFirst (yearOfEra day + 1) := by
  have hlast : yearOfEra day ≤ yearOfEra 146096 := yearOfEra_mono (by omega)
  have hyear : yearOfEra day < 400 := Nat.lt_of_le_of_lt hlast (by decide +kernel)
  obtain ⟨hfirst, hend⟩ := yearOfEra_marchFirst _ hyear
  refine ⟨hyear, ?_, ?_⟩
  · by_contra hlt
    -- the day before the first of the year lies in the year before
    obtain ⟨before, hbefore⟩ : ∃ before, yearOfEra day = before + 1 := by
      refine Nat.exists_eq_succ_of_ne_zero fun hzero => ?_
      rw [hzero] at hlt
      exact hlt (Nat.zero_le _)
    have hle : yearOfEra day ≤ yearOfEra (marchFirst (yearOfEra day) - 1) := yearOfEra_mono (by omega)
    rw [hbefore, (yearOfEra_marchFirst before (by omega)).2] at hle
    omega
  · by_contra hge
    have hle : yearOfEra (marchFirst (yearOfEra day + 1)) ≤ yearOfEra day := yearOfEra_mono (by omega)
    by_cases hnext : yearOfEra day + 1 < 400
    · rw [(yearOfEra_marchFirst _ hnext).1] at hle
      omega
    · have h400 : yearOfEra day + 1 = 400 := by omega
      rw [h400] at hge
      exact hge h


theorem daysBeforeYear_marchFirst (year : Nat) :
    daysBeforeYear (year + 1) = marchFirst year + 366 := by
  have h := daysBeforeYear_eq (year + 1)
  rw [marchFirst]
  omega

/-- A year from March to February is as long as the year of its February. -/
theorem marchFirst_succ (year : Nat) :
    marchFirst (year + 1) = marchFirst year + daysInYear (year + 1) := by
  have hthis := daysBeforeYear_marchFirst year
  have hnext := daysBeforeYear_marchFirst (year + 1)
  rw [daysBeforeYear_succ] at hnext
  omega

theorem marchFirst_add (era year : Nat) :
    marchFirst (400 * era + year) = 146097 * era + marchFirst year := by
  have hfourth : (400 * era + year) / 4 = 100 * era + year / 4 := by omega
  have hcentury : (400 * era + year) / 100 = 4 * era + year / 100 := by omega
  have hera : (400 * era + year) / 400 = era + year / 400 := by omega
  rw [marchFirst, marchFirst, hfourth, hcentury, hera]
  omega

/-- The months from March on, which end the year. -/
theorem daysBeforeMonth_march {month : Nat} (year : Nat) (h : month < 10) :
    daysBeforeMonth year (month + 3) + 306 = daysInYear year + (153 * month + 2) / 5 := by
  induction month with
  | zero =>
      have hfebruary : daysBeforeMonth year 3 = 31 + daysInMonth year 2 :=
        daysBeforeMonth_succ (by decide)
      rw [hfebruary, daysInMonth, daysInYear]
      split <;> rfl
  | succ month ih =>
      have hsucc : daysBeforeMonth year (month + 1 + 3) =
          daysBeforeMonth year (month + 3) + daysInMonth year (month + 3) :=
        daysBeforeMonth_succ (by omega)
      have hlength : daysInMonth year (month + 3) + (153 * month + 2) / 5 =
          (153 * (month + 1) + 2) / 5 := by
        have hlt : month < 9 := by omega
        interval_cases month <;> rfl
      have := ih (by omega)
      omega

theorem daysBeforeMonth_january {month : Nat} (year : Nat) (h : 10 ≤ month) (hle : month ≤ 11) :
    daysBeforeMonth year (month - 9) + 306 = (153 * month + 2) / 5 := by
  interval_cases month <;> rfl

/-- The day within its month, for the months from March to February. -/
theorem dayOfMonth_le {day : Nat} (year : Nat) (h : day < daysInYear (year + 1)) :
    let month := (5 * day + 2) / 153
    month ≤ 11 ∧ (153 * month + 2) / 5 ≤ day ∧
      day - (153 * month + 2) / 5 + 1 ≤
        if month < 10 then daysInMonth year (month + 3) else daysInMonth (year + 1) (month - 9) := by
  intro month
  have hyear : daysInYear (year + 1) ≤ 366 := by
    rw [daysInYear]
    split <;> decide
  have hmonth : 153 * month ≤ 5 * day + 2 ∧ 5 * day + 2 < 153 * (month + 1) := by omega
  clear_value month
  have hle : month ≤ 11 := by omega
  refine ⟨hle, by omega, ?_⟩
  by_cases hfebruary : month = 11
  · subst hfebruary
    rw [daysInYear] at h
    show day - 337 + 1 ≤ if isLeap (year + 1) then 29 else 28
    by_cases hleap : isLeap (year + 1) = true
    · rw [if_pos hleap] at h ⊢
      omega
    · rw [if_neg hleap] at h ⊢
      omega
  · interval_cases month <;> simp [daysInMonth] <;> omega

/-- The day `1970-01-01`. -/
def epochDay : Nat := 719528

/-- The number of the day that the clock shows. -/
def clockDay (t : Nat) : Nat := t / 86400 + epochDay

/-- `civilFromDays`, by the year from March and the day in it. -/
theorem civilFromDays_eq {days z year day : Nat} (hz : days + 719468 = z)
    (hyear : year = 400 * (z / 146097) + yearOfEra (z % 146097))
    (hday : day = z % 146097 - (365 * yearOfEra (z % 146097) + yearOfEra (z % 146097) / 4 -
      yearOfEra (z % 146097) / 100)) :
    civilFromDays days =
      if (5 * day + 2) / 153 < 10 then
        (year, (5 * day + 2) / 153 + 3, day - (153 * ((5 * day + 2) / 153) + 2) / 5 + 1)
      else (year + 1, (5 * day + 2) / 153 - 9, day - (153 * ((5 * day + 2) / 153) + 2) / 5 + 1) := by
  rw [hyear, hday, ← hz]
  rfl

/-- `civilFromDays` finds the date of the day. -/
theorem exists_civilFromDays (days : Nat) :
    ∃ d : Date, civilFromDays days = (d.year, d.month, d.day) ∧ d.number = days + epochDay := by
  obtain ⟨z, hz⟩ : ∃ z, days + 719468 = z := ⟨_, rfl⟩
  obtain ⟨hera, hfirst, hend⟩ := yearOfEra_spec (Nat.mod_lt z (by decide))
  -- the year from March in which the day lies, and the day in that year
  obtain ⟨year, hyear⟩ : ∃ year, year = 400 * (z / 146097) + yearOfEra (z % 146097) := ⟨_, rfl⟩
  obtain ⟨day, hday⟩ : ∃ day, day = z % 146097 - marchFirst (yearOfEra (z % 146097)) := ⟨_, rfl⟩
  have hnumber : marchFirst year + day = z := by
    rw [hyear, marchFirst_add]
    omega
  have hlt : day < daysInYear (year + 1) := by
    have hsucc := marchFirst_succ year
    have hnext : marchFirst (year + 1) =
        146097 * (z / 146097) + marchFirst (yearOfEra (z % 146097) + 1) := by
      rw [hyear, Nat.add_assoc, marchFirst_add]
    omega
  obtain ⟨hmonth, hbefore, hlast⟩ := dayOfMonth_le year hlt
  have hquarter : yearOfEra (z % 146097) / 400 = 0 := Nat.div_eq_of_lt hera
  rw [marchFirst, hquarter, Nat.add_zero] at hday
  have hyears := daysBeforeYear_marchFirst year
  rw [civilFromDays_eq hz hyear hday]
  by_cases hmarch : (5 * day + 2) / 153 < 10
  · rw [if_pos hmarch] at hlast ⊢
    refine ⟨⟨_, _, _, by omega, by omega, by omega, hlast⟩, rfl, ?_⟩
    have hmonths := daysBeforeMonth_march year hmarch
    have hsucc := daysBeforeYear_succ year
    simp only [Date.number, epochDay]
    omega
  · rw [if_neg hmarch] at hlast ⊢
    refine ⟨⟨_, _, _, by omega, by omega, by omega, hlast⟩, rfl, ?_⟩
    have hmonths := daysBeforeMonth_january (year + 1) (Nat.le_of_not_lt hmarch) hmonth
    simp only [Date.number, epochDay]
    omega

/-- The last second with a year of four digits. -/
def lastTimestamp : Nat := 253402300799

example : datetime lastTimestamp = "9999-12-31 23:59:59" := by decide +kernel

-- ============================================================================
-- Dates as texts
-- ============================================================================

theorem digits_succ (width n : Nat) :
    digits (width + 1) n = Nat.digitChar (n / 10 ^ width % 10) :: digits width n := by
  rw [digits, List.range_succ, List.reverse_append, List.reverse_singleton, List.singleton_append,
    List.map_cons, digits]

@[simp] theorem digits_length (width n : Nat) : (digits width n).length = width := by
  rw [digits, List.length_map, List.length_reverse, List.length_range]

theorem digitChar_lt_iff {m n : Nat} (hm : m < 10) (hn : n < 10) :
    Nat.digitChar m < Nat.digitChar n ↔ m < n := by
  have hall : ∀ m < 10, ∀ n < 10, (Nat.digitChar m < Nat.digitChar n ↔ m < n) := by decide
  exact hall m hm n hn

/-- The digits see a number up to its last digits. -/
theorem digits_mod {width k : Nat} (h : width ≤ k) (n : Nat) :
    digits width (n % 10 ^ k) = digits width n := by
  refine List.map_congr_left fun i hi => ?_
  have hlt : i < k := Nat.lt_of_lt_of_le (List.mem_range.mp (List.mem_reverse.mp hi)) h
  obtain ⟨j, rfl⟩ := Nat.exists_eq_add_of_lt hlt
  have hpow : 10 ^ (i + j + 1) = 10 ^ i * 10 ^ (j + 1) := by rw [Nat.add_assoc, Nat.pow_add]
  rw [hpow, Nat.mod_mul_right_div_self, Nat.mod_mod_of_dvd _ (Dvd.intro_left _ (Nat.pow_succ ..).symm)]

/-- Digits of one width are ordered as the numbers are. -/
theorem digits_lt_iff {width m n : Nat} (hm : m < 10 ^ width) (hn : n < 10 ^ width) :
    digits width m < digits width n ↔ m < n := by
  induction width generalizing m n with
  | zero =>
      have hzero : m = n := by
        rw [Nat.pow_zero] at hm hn
        omega
      rw [hzero]
      exact iff_of_false (List.lt_irrefl _) (Nat.lt_irrefl _)
  | succ width ih =>
      have hpos : 0 < 10 ^ width := Nat.pow_pos (by decide)
      have hfirst : ∀ {k}, k < 10 ^ (width + 1) → k / 10 ^ width < 10 := fun hk =>
        Nat.div_lt_of_lt_mul (by rwa [Nat.pow_succ] at hk)
      have hm_first := hfirst hm
      have hn_first := hfirst hn
      have hrest := ih (Nat.mod_lt m hpos) (Nat.mod_lt n hpos)
      rw [digits_mod le_rfl, digits_mod le_rfl] at hrest
      have hm_split := Nat.div_add_mod m (10 ^ width)
      have hn_split := Nat.div_add_mod n (10 ^ width)
      rw [digits_succ, digits_succ, Nat.mod_eq_of_lt hm_first, Nat.mod_eq_of_lt hn_first,
        List.cons_lt_cons_iff, digitChar_lt_iff hm_first hn_first, hrest]
      constructor
      · rintro (hlt | ⟨heq, hlt⟩)
        · exact Nat.lt_of_div_lt_div hlt
        · rw [← hm_split, ← hn_split, Text.digitChar_inj (by omega) (by omega) heq]
          omega
      · intro hlt
        rcases Nat.lt_or_eq_of_le (Nat.div_le_div_right (c := 10 ^ width) hlt.le) with hfirsts | heq
        · exact Or.inl hfirsts
        · refine Or.inr ⟨congrArg _ heq, ?_⟩
          rw [heq] at hm_split
          omega

theorem digits_eq_iff {width m n : Nat} (hm : m < 10 ^ width) (hn : n < 10 ^ width) :
    digits width m = digits width n ↔ m = n := by
  refine ⟨fun h => ?_, congrArg _⟩
  rcases Nat.lt_trichotomy m n with hlt | heq | hgt
  · exact absurd (h ▸ (digits_lt_iff hm hn).mpr hlt) (List.lt_irrefl _)
  · exact heq
  · exact absurd (h ▸ (digits_lt_iff hn hm).mpr hgt) (List.lt_irrefl _)

/-- The text `YYYY-MM-DD`. -/
def dateText (year month day : Nat) : List Char :=
  digits 4 year ++ '-' :: digits 2 month ++ '-' :: digits 2 day

theorem daysInMonth_le (year month : Nat) : daysInMonth year month ≤ 31 := by
  unfold daysInMonth
  split
  · split <;> decide
  all_goals decide

/-- Dates of four-digit years are ordered as their texts are. -/
theorem dateText_lt_iff {d e : Date} (hd : d.year < 10000) (he : e.year < 10000) :
    dateText d.year d.month d.day < dateText e.year e.month e.day ↔ d.number < e.number := by
  have hdm : d.month < 10 ^ 2 := by have := d.month_le; omega
  have hem : e.month < 10 ^ 2 := by have := e.month_le; omega
  have hdd : d.day < 10 ^ 2 := by have := d.day_le.trans (daysInMonth_le _ _); omega
  have hed : e.day < 10 ^ 2 := by have := e.day_le.trans (daysInMonth_le _ _); omega
  rw [← Date.before_iff, Date.Before, dateText, dateText, List.append_assoc, List.append_assoc,
    List.cons_append, List.cons_append, Text.append_lt_append_iff (by simp),
    List.cons_lt_cons_iff, Text.append_lt_append_iff (by simp), List.cons_lt_cons_iff,
    digits_lt_iff hd he, digits_eq_iff hd he, digits_lt_iff hdm hem, digits_eq_iff hdm hem,
    digits_lt_iff hdd hed]
  have hirrefl : ¬ '-' < '-' := by decide
  simp only [hirrefl, false_or, true_and]

-- ============================================================================
-- Texts of instants
-- ============================================================================

/-- An instant in UTC as RFC 3339 writes it, with the digits of a fraction of a second. -/
structure Rfc3339 where
  date : Date
  hour : Nat
  minute : Nat
  second : Nat
  fraction : List (Fin 10)
  year_lt : date.year < 10000
  hour_lt : hour < 24
  minute_lt : minute < 60
  second_lt : second < 60

namespace Rfc3339

/-- What follows the date. -/
def timeText (e : Rfc3339) : List Char :=
  digits 2 e.hour ++ ':' :: digits 2 e.minute ++ ':' :: digits 2 e.second ++
    (if e.fraction = [] then [] else '.' :: e.fraction.map fun d : Fin 10 => Nat.digitChar d.val) ++ ['Z']

/-- `YYYY-MM-DDTHH:MM:SSZ`, with the fraction before the `Z` if there is one. -/
def text (e : Rfc3339) : String :=
  String.ofList (dateText e.date.year e.date.month e.date.day ++ 'T' :: e.timeText)

/-- The value of the digits behind the point. -/
def fractionOf (fraction : List (Fin 10)) : ℚ := fraction.foldr (fun d rest => (d.val + rest) / 10) 0

/-- The seconds since 1970-01-01 00:00:00 UTC. -/
def instant (e : Rfc3339) : ℚ :=
  ((e.date.number : ℚ) - epochDay) * 86400 +
    ((e.hour * 3600 + e.minute * 60 + e.second : Nat) : ℚ) + fractionOf e.fraction

/-- The clock shows the day of the instant. -/
def SameDay (e : Rfc3339) (t : Timestamp) : Prop := e.date.number = clockDay t

theorem fractionOf_bounds (fraction : List (Fin 10)) :
    0 ≤ fractionOf fraction ∧ fractionOf fraction < 1 := by
  induction fraction with
  | nil => exact ⟨le_rfl, one_pos⟩
  | cons d fraction ih =>
      have hd : (d.val : ℚ) ≤ 9 := by exact_mod_cast Nat.le_of_lt_succ d.isLt
      have hpos : (0 : ℚ) ≤ d.val := Nat.cast_nonneg _
      have hcons : fractionOf (d :: fraction) = (d.val + fractionOf fraction) / 10 := rfl
      rw [hcons]
      constructor
      · linarith [ih.1]
      · linarith [ih.2]

/-- The instant lies in its day. -/
theorem instant_bounds (e : Rfc3339) :
    ((e.date.number : ℚ) - epochDay) * 86400 ≤ e.instant ∧
      e.instant < ((e.date.number : ℚ) - epochDay + 1) * 86400 := by
  obtain ⟨hfraction, hfraction_lt⟩ := fractionOf_bounds e.fraction
  have htime : e.hour * 3600 + e.minute * 60 + e.second + 1 ≤ 86400 := by
    have hhour := e.hour_lt
    have hminute := e.minute_lt
    have hsecond := e.second_lt
    omega
  have htime' : ((e.hour * 3600 + e.minute * 60 + e.second : Nat) : ℚ) + 1 ≤ 86400 := by
    exact_mod_cast htime
  have hpos : (0 : ℚ) ≤ ((e.hour * 3600 + e.minute * 60 + e.second : Nat) : ℚ) := Nat.cast_nonneg _
  rw [instant]
  constructor
  · linarith
  · linarith

variable {e : Rfc3339} {t : Nat}

/-- On a later day the instant is over. -/
theorem instant_le_of_day_lt (h : e.date.number < clockDay t) : e.instant ≤ t := by
  have hday : (e.date.number : ℚ) + 1 ≤ ((t / 86400 : Nat) : ℚ) + epochDay := by exact_mod_cast h
  have hclock : ((t / 86400 : Nat) : ℚ) * 86400 ≤ t := by exact_mod_cast Nat.div_mul_le_self t 86400
  have hend := e.instant_bounds.2
  linarith

/-- On an earlier day it is to come. -/
theorem lt_instant_of_lt_day (h : clockDay t < e.date.number) : (t : ℚ) < e.instant := by
  have hday : ((t / 86400 : Nat) : ℚ) + epochDay + 1 ≤ e.date.number := by exact_mod_cast h
  have hclock : (t : ℚ) < ((t / 86400 : Nat) : ℚ) * 86400 + 86400 := by
    exact_mod_cast Nat.lt_div_mul_add (by decide : 0 < 86400)
  have hstart := e.instant_bounds.1
  linarith

-- ============================================================================
-- The comparison of the queries
-- ============================================================================

theorem ascii_digits {width n : Nat} {ch : Char} (h : ch ∈ digits width n) : ch.toNat < 128 := by
  obtain ⟨i, -, rfl⟩ := List.mem_map.mp h
  have hall : ∀ d < 10, (Nat.digitChar d).toNat < 128 := by decide
  exact hall _ (Nat.mod_lt _ (by decide))

theorem ascii_dateText {year month day : Nat} {ch : Char} (h : ch ∈ dateText year month day) :
    ch.toNat < 128 := by
  simp only [dateText, List.mem_append, List.mem_cons] at h
  rcases h with (h | rfl | h) | rfl | h
  · exact ascii_digits h
  · decide
  · exact ascii_digits h
  · decide
  · exact ascii_digits h

theorem ascii_timeText {ch : Char} (h : ch ∈ e.timeText) : ch.toNat < 128 := by
  simp only [timeText, List.mem_append, List.mem_cons, List.not_mem_nil, or_false] at h
  rcases h with (((h | rfl | h) | rfl | h) | h) | rfl
  · exact ascii_digits h
  · decide
  · exact ascii_digits h
  · decide
  · exact ascii_digits h
  · split at h
    · cases h
    · rcases List.mem_cons.mp h with rfl | hdigit
      · decide
      · obtain ⟨d, -, rfl⟩ := List.mem_map.mp hdigit
        have hall : ∀ d : Fin 10, (Nat.digitChar d.val).toNat < 128 := by decide
        exact hall d
  · decide

/-- `datetime`, unfolded as a function: unfolded at a time, its date would be computed. -/
theorem datetime_eq : datetime = fun t : Timestamp =>
    let (year, month, day) := civilFromDays (t / 86400)
    let second := t % 86400
    String.ofList (digits 4 year ++ '-' :: digits 2 month ++ '-' :: digits 2 day ++
      ' ' :: digits 2 (second / 3600) ++ ':' :: digits 2 (second / 60 % 60) ++
      ':' :: digits 2 (second % 60)) := rfl

theorem datetime_of_civil {year month day : Nat} (h : civilFromDays (t / 86400) = (year, month, day)) :
    datetime t = String.ofList (dateText year month day ++
      ' ' :: digits 2 (t % 86400 / 3600) ++ ':' :: digits 2 (t % 86400 / 60 % 60) ++
      ':' :: digits 2 (t % 86400 % 60)) := by
  refine (congrFun datetime_eq t).trans ?_
  rw [h, dateText]

/-- `datetime` is the date, a space and the time of day. -/
theorem exists_datetime (ht : t ≤ lastTimestamp) :
    ∃ (d : Date) (time : List Char), d.year < 10000 ∧ d.number = clockDay t ∧
      (∀ ch ∈ time, ch.toNat < 128) ∧
      datetime t = String.ofList (dateText d.year d.month d.day ++ ' ' :: time) := by
  obtain ⟨d, hcivil, hnumber⟩ := exists_civilFromDays (t / 86400)
  refine ⟨d, digits 2 (t % 86400 / 3600) ++ ':' :: digits 2 (t % 86400 / 60 % 60) ++
    ':' :: digits 2 (t % 86400 % 60), ?_, hnumber, fun ch h => ?_, ?_⟩
  · refine Date.year_lt_of_number_lt ?_
    rw [hnumber, epochDay]
    rw [lastTimestamp] at ht
    omega
  · simp only [List.mem_append, List.mem_cons] at h
    rcases h with (h | rfl | h) | rfl | h
    · exact ascii_digits h
    · decide
    · exact ascii_digits h
    · decide
    · exact ascii_digits h
  · rw [datetime_of_civil hcivil]
    simp only [List.append_assoc, List.cons_append]

/-- The queries hold an endpoint for expired from the day after its expiry on. -/
theorem expired_iff (e : Rfc3339) (ht : t ≤ lastTimestamp) :
    expired t (some e.text) = true ↔ e.date.number < clockDay t := by
  obtain ⟨d, time, hyear, hnumber, hascii, hclock⟩ := exists_datetime ht
  have hascii_clock : ∀ ch ∈ dateText d.year d.month d.day ++ ' ' :: time, ch.toNat < 128 := by
    intro ch h
    rcases List.mem_append.mp h with h | h
    · exact ascii_dateText h
    · rcases List.mem_cons.mp h with rfl | h
      · decide
      · exact hascii ch h
  have hascii_text : ∀ ch ∈ dateText e.date.year e.date.month e.date.day ++ 'T' :: e.timeText,
      ch.toNat < 128 := by
    intro ch h
    rcases List.mem_append.mp h with h | h
    · exact ascii_dateText h
    · rcases List.mem_cons.mp h with rfl | h
      · decide
      · exact ascii_timeText h
  have hbehind : ' ' :: time < 'T' :: e.timeText :=
    List.cons_lt_cons_iff.mpr (Or.inl (by decide))
  have horder := dateText_lt_iff hyear e.year_lt
  rw [expired, textLe, decide_eq_true_iff, ← hnumber, ← List.not_lt, hclock, text,
    Text.strBytes_lt_iff hascii_clock hascii_text, Text.append_lt_append_iff (by simp [dateText]),
    horder]
  constructor
  · intro hnot
    by_contra hle
    refine hnot ?_
    rcases Nat.lt_or_eq_of_le (Nat.le_of_not_lt hle) with hlt | heq
    · exact Or.inl hlt
    · exact Or.inr ⟨by rw [Date.number_injective heq], hbehind⟩
  · rintro hlt (hgt | ⟨heq, -⟩)
    · omega
    · rw [← dateText_lt_iff e.year_lt hyear, heq] at hlt
      exact List.lt_irrefl _ hlt

end Rfc3339

-- ============================================================================
-- The row of a report
-- ============================================================================

variable {S : Server} {db db' : Db} {clock : Nat → Timestamp} {fresh : Fresh} {p : Process}
variable {st st' : ControlState} {deviceId : String} {e e' : EndpointPayload}

/-- A reported endpoint as it is listed. -/
def listedPayload (e : EndpointPayload) : EndpointPayload :=
  { e with source := some (Db.endpointSource e) }

/-- The endpoint is stored as reported, in the rows of its id and nowhere else. -/
structure Recorded (S : Server) (deviceId : String) (e : EndpointPayload) (db : Db) : Prop where
  stored : ∃ r ∈ db.endpoints.rows, r.id = reportedId S deviceId e
  row : ∀ r ∈ db.endpoints.rows, r.id = reportedId S deviceId e →
    r.deviceId = deviceId ∧ r.payload = listedPayload e

/-- No endpoint of the list has the id of `e`. -/
def NotAgain (S : Server) (deviceId : String) (e : EndpointPayload) (es : List EndpointPayload) : Prop :=
  ∀ e' ∈ es, reportedId S deviceId e' ≠ reportedId S deviceId e

section Store

variable {t : Timestamp}

theorem Recorded.congr (h : Recorded S deviceId e db)
    (hrows : ∀ r, r.id = reportedId S deviceId e → (r ∈ db'.endpoints.rows ↔ r ∈ db.endpoints.rows)) :
    Recorded S deviceId e db' := by
  obtain ⟨r, hr, hid⟩ := h.stored
  exact ⟨⟨r, (hrows r hid).mpr hr, hid⟩, fun r hr hid => h.row r ((hrows r hid).mp hr) hid⟩

theorem payload_reportedRow (S : Server) (t : Timestamp) (deviceId : String) (hexpires : e.expiresAt.isSome) :
    (Db.reportedRow S t deviceId e).payload = listedPayload e := by
  obtain ⟨text, htext⟩ := Option.isSome_iff_exists.mp hexpires
  simp only [EndpointRow.payload, Db.reportedRow, listedPayload, htext, Option.some_or]

/-- A report with an expiry is stored as it is. -/
theorem recorded_storeEndpoint (hS : S.Lawful) (hdevice : HasIdForm deviceId)
    (hkeyed : ∀ r ∈ db.endpoints.rows, Keyed S r) (hexpires : e.expiresAt.isSome)
    (hstore : db.storeEndpoint S t deviceId e = .ok db') : Recorded S deviceId e db' := by
  obtain ⟨endpoints, hupsert, rfl⟩ := Db.storeEndpoint_ok hstore
  refine ⟨Table.exists_mem_upsert hupsert rfl fun r _ hid => beq_iff_eq.mp hid, fun r hr hid => ?_⟩
  rcases (Table.mem_upsert hupsert).mp hr with ⟨r₀, hr₀, rfl⟩ | ⟨-, rfl⟩
  · by_cases hsame : (r₀.id == (Db.reportedRow S t deviceId e).id) = true
    · have howner := owner_of_reportedId hS hdevice (hkeyed r₀ hr₀) hsame
      rw [if_pos hsame]
      exact ⟨howner, payload_reportedRow S t deviceId hexpires⟩
    · rw [if_neg hsame] at hid
      exact absurd (beq_iff_eq.mpr hid) hsame
  · exact ⟨rfl, payload_reportedRow S t deviceId hexpires⟩

/-- A report under another id leaves the rows of this one alone. -/
theorem mem_storeEndpoint_of_ne {other : String}
    (hne : reportedId S other e' ≠ reportedId S deviceId e)
    (hstore : db.storeEndpoint S t other e' = .ok db') (r : EndpointRow)
    (hid : r.id = reportedId S deviceId e) : r ∈ db'.endpoints.rows ↔ r ∈ db.endpoints.rows := by
  obtain ⟨endpoints, hupsert, rfl⟩ := Db.storeEndpoint_ok hstore
  have hkept : ∀ {r₀ : EndpointRow}, r₀.id = reportedId S deviceId e →
      ¬ (r₀.id == (Db.reportedRow S t other e').id) = true := fun hid₀ hsame =>
    hne ((beq_iff_eq.mp hsame).symm.trans hid₀)
  constructor
  · intro hmem
    rcases (Table.mem_upsert hupsert).mp hmem with ⟨r₀, hr₀, rfl⟩ | ⟨-, rfl⟩
    · by_cases hsame : (r₀.id == (Db.reportedRow S t other e').id) = true
      · rw [if_pos hsame] at hid
        exact absurd hsame (hkept hid)
      · rw [if_neg hsame]
        exact hr₀
    · exact absurd hid hne
  · intro hmem
    exact (Table.mem_upsert hupsert).mpr (Or.inl ⟨r, hmem, if_neg (hkept hid)⟩)

/-- The loop of a heartbeat in which the id does not occur. -/
theorem mem_storeEndpoints_of_ne {other : String} {es : List EndpointPayload} {i : Nat}
    (hne : ∀ e' ∈ es, reportedId S other e' ≠ reportedId S deviceId e)
    (hok : Db.storeEndpoints S clock other i es db = .ok db') (r : EndpointRow)
    (hid : r.id = reportedId S deviceId e) : r ∈ db'.endpoints.rows ↔ r ∈ db.endpoints.rows := by
  refine storeEndpoints_invariant (fun db₁ => r ∈ db₁.endpoints.rows ↔ r ∈ db.endpoints.rows)
    (fun i e' he' db₁ db₂ hinv hstore => ?_) Iff.rfl hok
  exact (mem_storeEndpoint_of_ne (hne e' he') hstore r hid).trans hinv

/-- The loop of a heartbeat in which `e` is the last report under its id. -/
theorem recorded_storeEndpoints (hS : S.Lawful) (hdevice : HasIdForm deviceId)
    (hkeyed : ∀ r ∈ db.endpoints.rows, Keyed S r) (hexpires : e.expiresAt.isSome)
    {before after : List EndpointPayload} {i : Nat} (hlast : NotAgain S deviceId e after)
    (hok : Db.storeEndpoints S clock deviceId i (before ++ e :: after) db = .ok db') :
    Recorded S deviceId e db' := by
  induction before generalizing i db with
  | nil =>
      obtain ⟨db₁, hstore, hok⟩ := Api.bind_eq_ok.mp hok
      exact (recorded_storeEndpoint hS hdevice hkeyed hexpires hstore).congr
        (mem_storeEndpoints_of_ne hlast hok)
  | cons first before ih =>
      obtain ⟨db₁, hstore, hok⟩ := Api.bind_eq_ok.mp hok
      exact ih (keyed_storeEndpoint hS hdevice hkeyed hstore) hok

end Store

-- ============================================================================
-- Until the next heartbeat
-- ============================================================================

namespace ControlState

/-- The event is no heartbeat of the device. -/
def NoHeartbeat (deviceId : String) (st : ControlState) : Event → Prop
  | .advance r _ _ =>
      ∀ request, st.requests[r]? = some (.heartbeatValidated request) → request.deviceId ≠ deviceId
  | _ => True

/-- A heartbeat of another device keeps the row. -/
theorem recorded_heartbeatTx_other (hS : S.Lawful) {request : HeartbeatRequest}
    (hother : HasIdForm request.deviceId) (hdevice : HasIdForm deviceId)
    (hne : request.deviceId ≠ deviceId) (h : Recorded S deviceId e db)
    (hok : db.heartbeatTx S clock request = .ok db') : Recorded S deviceId e db' := by
  have hids : ∀ e' ∈ request.endpoints, reportedId S request.deviceId e' ≠ reportedId S deviceId e :=
    fun e' _ hsame => hne (endpointId_owner hS hother hdevice hsame)
  have hpruned : Recorded S deviceId e ((db.touchDevice (clock 0) request.deviceId).pruneEndpoints
      (clock 1) request.deviceId) := by
    refine h.congr fun r hid => List.mem_filter.trans ⟨And.left, fun hmem => ⟨hmem, ?_⟩⟩
    show (!(r.deviceId == request.deviceId && expired (clock 1) r.expiresAt)) = true
    rw [(h.row r hmem hid).1, beq_eq_false_iff_ne.mpr (Ne.symm hne)]
    rfl
  exact hpruned.congr (mem_storeEndpoints_of_ne hids hok)

theorem recorded_step {event : Event} (hS : S.Lawful) (hkeyed : KeyedState S st)
    (hdevice : HasIdForm deviceId) (h : Recorded S deviceId e st.db)
    (hquiet : NoHeartbeat deviceId st event) (hstep : st.step S event = some st') :
    Recorded S deviceId e st'.db := by
  cases event with
  | tick seconds =>
      obtain rfl := Option.some.inj hstep
      exact h
  | arrive request =>
      obtain rfl := Option.some.inj hstep
      exact h
  | abort r message =>
      obtain ⟨_, _, -, -, rfl⟩ := step_abort.mp hstep
      exact h
  | advance r fresh elapsed =>
      obtain ⟨p, p', db', hp, hnext, rfl⟩ := step_advance.mp hstep
      by_cases hheartbeat : ∃ request, p = .heartbeatValidated request
      · obtain ⟨request, rfl⟩ := hheartbeat
        have hform := hkeyed.heartbeats request (List.mem_of_getElem? hp)
        exact recorded_heartbeatTx_other hS hform hdevice (hquiet request hp) h (next_heartbeat hnext)
      · rcases Process.next_db hnext with rfl | hcommit
        · exact h
        · have hsame := hcommit.endpoints_eq fun request heq => hheartbeat ⟨request, heq⟩
          exact h.congr fun row _ => by rw [hsame]

theorem recorded_run {events : List Event} (hS : S.Lawful) (hkeyed : KeyedState S st)
    (hdevice : HasIdForm deviceId) (h : Recorded S deviceId e st.db)
    (hquiet : Along (step S) (NoHeartbeat deviceId) st events)
    (hrun : run (step S) st events = some st') : Recorded S deviceId e st'.db := by
  have hnext : ∀ s event t, KeyedState S s ∧ Recorded S deviceId e s.db →
      NoHeartbeat deviceId s event → step S s event = some t →
        KeyedState S t ∧ Recorded S deviceId e t.db :=
    fun s event t hinv hevent hstep =>
      ⟨hinv.1.step hS hstep, recorded_step hS hinv.1 hdevice hinv.2 hevent hstep⟩
  have hboth := invariant_along hnext ⟨hkeyed, h⟩ hquiet hrun
  exact hboth.2

end ControlState

-- ============================================================================
-- Expiry
-- ============================================================================

/-- The stored endpoint follows the time: at `t` it is listed exactly before its expiry,
    and the next heartbeat of the device, unless it reports the endpoint again, removes it
    exactly from its expiry on. -/
structure FollowsTime (S : Server) (deviceId : String) (e : EndpointPayload) (db : Db)
    (expiry : Rfc3339) (t : Timestamp) : Prop where
  returned : listedPayload e ∈ db.loadEndpoints t deviceId ↔ (t : ℚ) < expiry.instant
  removed : ∀ (clock : Nat → Timestamp) (request : HeartbeatRequest) (db' : Db), clock 1 = t →
    request.deviceId = deviceId → NotAgain S deviceId e request.endpoints →
      db.heartbeatTx S clock request = .ok db' →
        ((∀ r ∈ db'.endpoints.rows, r.id ≠ reportedId S deviceId e) ↔ expiry.instant ≤ (t : ℚ))

section Queries

variable {expiry : Rfc3339} {t : Nat}

/-- What the query lists. -/
theorem mem_loadEndpoints_iff (h : Recorded S deviceId e db) (hexpires : e.expiresAt = some expiry.text)
    (ht : t ≤ lastTimestamp) :
    listedPayload e ∈ db.loadEndpoints t deviceId ↔ clockDay t ≤ expiry.date.number := by
  have hexpired : expired t (listedPayload e).expiresAt = true ↔ expiry.date.number < clockDay t := by
    rw [listedPayload, hexpires]
    exact expiry.expired_iff ht
  rw [Db.loadEndpoints, Table.mem_select, ← Nat.not_lt, ← hexpired]
  constructor
  · rintro ⟨r, -, hselected, hpayload⟩ hgone
    rw [← hpayload] at hgone
    rw [Bool.and_eq_true, Bool.not_eq_true'] at hselected
    exact Bool.false_ne_true (hselected.2.symm.trans hgone)
  · intro hnot
    obtain ⟨r, hr, hid⟩ := h.stored
    obtain ⟨hdevice, hpayload⟩ := h.row r hr hid
    refine ⟨r, hr, ?_, hpayload⟩
    have hrow : r.expiresAt = (listedPayload e).expiresAt := congrArg EndpointPayload.expiresAt hpayload
    rw [hdevice, beq_self_eq_true, Bool.true_and, hrow, Bool.not_eq_true', Bool.eq_false_iff]
    exact hnot

/-- What a heartbeat that does not report the endpoint leaves of it. -/
theorem removed_iff (h : Recorded S deviceId e db) (hexpires : e.expiresAt = some expiry.text)
    (ht : t ≤ lastTimestamp) {request : HeartbeatRequest} (hclock : clock 1 = t)
    (hdevice : request.deviceId = deviceId) (hagain : NotAgain S deviceId e request.endpoints)
    (hok : db.heartbeatTx S clock request = .ok db') :
    (∀ r ∈ db'.endpoints.rows, r.id ≠ reportedId S deviceId e) ↔ expiry.date.number < clockDay t := by
  subst hdevice
  have hrows := mem_storeEndpoints_of_ne hagain hok
  have hexpired : ∀ r ∈ db.endpoints.rows, r.id = reportedId S request.deviceId e →
      ((r.deviceId == request.deviceId && expired (clock 1) r.expiresAt) = true ↔
        expiry.date.number < clockDay t) := by
    intro r hr hid
    obtain ⟨hdevice, hpayload⟩ := h.row r hr hid
    have hrow : r.expiresAt = some expiry.text :=
      (congrArg EndpointPayload.expiresAt hpayload).trans hexpires
    rw [hdevice, beq_self_eq_true, Bool.true_and, hrow, hclock]
    exact expiry.expired_iff ht
  obtain ⟨r, hr, hid⟩ := h.stored
  constructor
  · intro hgone
    by_contra hnot
    refine hgone r ((hrows r hid).mpr (List.mem_filter.mpr ⟨hr, ?_⟩)) hid
    rw [Bool.not_eq_true', Bool.eq_false_iff]
    exact fun hexpiry => hnot ((hexpired r hr hid).mp hexpiry)
  · intro hday r hr' hid
    obtain ⟨hr, hkept⟩ := List.mem_filter.mp ((hrows r hid).mp hr')
    have hgone := (hexpired r hr hid).mpr hday
    exact Bool.false_ne_true ((Bool.not_eq_true' _ ▸ hkept).symm.trans hgone)

/-- The stored endpoint follows the time but in the rest of its last day. -/
theorem followsTime_iff (h : Recorded S deviceId e db) (hexpires : e.expiresAt = some expiry.text)
    (ht : t ≤ lastTimestamp) :
    FollowsTime S deviceId e db expiry t ↔ ¬ (expiry.SameDay t ∧ expiry.instant ≤ (t : ℚ)) := by
  constructor
  · rintro hfollows ⟨hday, hover⟩
    have hreturned := (mem_loadEndpoints_iff h hexpires ht).mpr hday.ge
    exact absurd (hfollows.returned.mp hreturned) (not_lt.mpr hover)
  · intro hnot
    have hbefore : clockDay t ≤ expiry.date.number ↔ (t : ℚ) < expiry.instant := by
      rcases Nat.lt_trichotomy (clockDay t) expiry.date.number with hlt | heq | hgt
      · exact iff_of_true hlt.le (Rfc3339.lt_instant_of_lt_day hlt)
      · exact iff_of_true heq.le (not_le.mp fun hover => hnot ⟨heq.symm, hover⟩)
      · exact iff_of_false (Nat.not_le.mpr hgt) (not_lt.mpr (Rfc3339.instant_le_of_day_lt hgt))
    refine ⟨(mem_loadEndpoints_iff h hexpires ht).trans hbefore,
      fun clock request db' hclock hdevice hagain hok => ?_⟩
    rw [removed_iff h hexpires ht hclock hdevice hagain hok, ← not_lt, ← hbefore, Nat.not_le]

end Queries

namespace ControlState

/-- **Endpoint expiry.**  From an empty database, in every run: when a heartbeat of a device
    has stored its last report of an endpoint, with an RFC 3339 time as its `expires_at`,
    then in every state up to the next heartbeat of the device, and for every time `t` with
    a year of four digits, the endpoint follows the time if and only if `t` does not lie
    on the day of its expiry with the expiry over. -/
theorem endpoint_expiry_follows_time_iff (S : Server) (hS : S.Lawful) (now : Timestamp)
    (events : List Event) (st st₁ st₂ : ControlState)
    (h : run (step S) (start .empty now) events = some st)
    (r : Nat) (fresh : Fresh) (elapsed : Elapsed) (request : HeartbeatRequest)
    (hp : st.requests[r]? = some (.heartbeatValidated request))
    (hstep : st.step S (.advance r fresh elapsed) = some st₁)
    (before after : List EndpointPayload) (e : EndpointPayload) (expiry : Rfc3339)
    (hreport : request.endpoints = before ++ e :: after)
    (hlast : NotAgain S request.deviceId e after) (hexpires : e.expiresAt = some expiry.text)
    (later : List Event) (hquiet : Along (step S) (NoHeartbeat request.deviceId) st₁ later)
    (hlater : run (step S) st₁ later = some st₂) (t : Timestamp) (ht : t ≤ lastTimestamp) :
    FollowsTime S request.deviceId e st₂.db expiry t ↔
      ¬ (expiry.SameDay t ∧ expiry.instant ≤ (t : ℚ)) := by
  have hkeyed := keyedState_of_run hS h
  have hdevice := hkeyed.heartbeats request (List.mem_of_getElem? hp)
  have hrecorded : Recorded S request.deviceId e st₁.db := by
    obtain ⟨p, p', db', hp', hnext, rfl⟩ := step_advance.mp hstep
    obtain rfl := Option.some.inj (hp.symm.trans hp')
    have hok := next_heartbeat hnext
    rw [Db.heartbeatTx, hreport] at hok
    refine recorded_storeEndpoints hS hdevice ?_ (hexpires ▸ rfl) hlast hok
    intro row hrow
    exact hkeyed.endpoints row (List.mem_filter.mp hrow).1
  exact followsTime_iff
    (recorded_run hS (hkeyed.step hS hstep) hdevice hrecorded hquiet hlater) hexpires ht

end ControlState

namespace Reference

/-- `2026-06-18T12:01:00Z` -/
def oneMinutePast : Rfc3339 where
  date := ⟨2026, 6, 18, by decide, by decide, by decide, by decide⟩
  hour := 12
  minute := 1
  second := 0
  fraction := []
  year_lt := by decide
  hour_lt := by decide
  minute_lt := by decide
  second_lt := by decide

example : oneMinutePast.text = "2026-06-18T12:01:00Z" ∧ oneMinutePast.instant = 1781784060 := by
  decide +kernel

def shortLived : EndpointPayload :=
  ⟨"lan", "192.168.1.20", 51820, "udp", some "local", some 100, some oneMinutePast.text⟩

/-- A device has registered, and its heartbeat with the endpoint is let through. -/
def expiringReport : List Event :=
  [.arrive .createAuthKey, advance 0, .arrive (.registerDevice (registration "alpha")),
   advance 1, advance 1, advance 1, advance 1,
   .arrive (.heartbeat ⟨reporter, "node_" ++ simple (uuids 1).node, [shortLived]⟩), advance 2]

/-- `2026-06-18 12:00:00` -/
def noon : Timestamp := 1781784000

end Reference

/-- The heartbeat that a request is about to store. -/
def Process.heartbeatRequest : Process → Option HeartbeatRequest
  | heartbeatValidated request => some request
  | _ => none

theorem heartbeatValidated_of_request {p : Process} {request : HeartbeatRequest}
    (h : p.heartbeatRequest = some request) : p = .heartbeatValidated request := by
  unfold Process.heartbeatRequest at h
  split at h
  · rw [Option.some.inj h]
  · cases h

open Reference ControlState in
/-- Half a minute after the report, with half a minute to go. -/
theorem endpoint_expiry_follows_time_iff_before :
    ∃ st st₁ st₂ : ControlState,
      run (step server) (start .empty noon) expiringReport = some st ∧
      st.step server (advance 2) = some st₁ ∧ run (step server) st₁ [.tick 30] = some st₂ ∧
      FollowsTime server reporter shortLived st₂.db oneMinutePast (noon + 30) := by
  have hrun : (run (step server) (start .empty noon) expiringReport).any (fun st : ControlState =>
      (st.requests[(2 : Nat)]?.bind Process.heartbeatRequest).any fun request =>
        decide (request.deviceId = reporter ∧ request.endpoints = [shortLived]) &&
          (st.step server (advance 2)).isSome) = true := by
    decide +kernel
  have hbefore : ¬ (oneMinutePast.instant ≤ ((noon + 30 : Nat) : ℚ)) := by decide +kernel
  obtain ⟨st, hst, hfacts⟩ := (Option.any_eq_true _ _).mp hrun
  obtain ⟨request, hbind, hfacts⟩ := (Option.any_eq_true _ _).mp hfacts
  obtain ⟨p, hp, hrequest⟩ := Option.bind_eq_some_iff.mp hbind
  obtain rfl := heartbeatValidated_of_request hrequest
  rw [Bool.and_eq_true, decide_eq_true_eq] at hfacts
  obtain ⟨⟨hdevice, hendpoints⟩, hsome⟩ := hfacts
  obtain ⟨st₁, hst₁⟩ := Option.isSome_iff_exists.mp hsome
  have hfollows := (endpoint_expiry_follows_time_iff server server_lawful noon expiringReport st st₁ _ hst
    2 _ _ request hp hst₁ [] [] shortLived oneMinutePast hendpoints nofun rfl [.tick 30]
    ⟨trivial, fun _ _ => trivial⟩ rfl (noon + 30) (by decide)).mpr fun h => hbefore h.2
  rw [hdevice] at hfollows
  exact ⟨st, st₁, _, hst, hst₁, rfl, hfollows⟩

open Reference ControlState in
/-- Eleven hours after its expiry, in the last second of the day, the endpoint is still
    listed. -/
theorem expired_endpoint_listed :
    ∃ st st₁ : ControlState,
      run (step server) (start .empty noon) expiringReport = some st ∧
      st.step server (advance 2) = some st₁ ∧
      ¬ FollowsTime server reporter shortLived st₁.db oneMinutePast 1781827199 := by
  have hrun : (run (step server) (start .empty noon) expiringReport).any (fun st : ControlState =>
      (st.step server (advance 2)).any fun st₁ =>
        decide (listedPayload shortLived ∈ st₁.db.loadEndpoints 1781827199 reporter)) = true := by
    decide +kernel
  have hover : ¬ (((1781827199 : Nat) : ℚ) < oneMinutePast.instant) := by decide +kernel
  obtain ⟨st, hst, hfacts⟩ := (Option.any_eq_true _ _).mp hrun
  obtain ⟨st₁, hst₁, hlisted⟩ := (Option.any_eq_true _ _).mp hfacts
  exact ⟨st, st₁, hst, hst₁, fun h => hover (h.returned.mp (of_decide_eq_true hlisted))⟩

end TfScale.Control
