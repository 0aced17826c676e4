import Mathlib.Data.Int.Init
import Mathlib.Order.Monotone.Basic
import Steward.Calendar

/-!
# Dates and the numbers of their days

A date has a number and a number has a date. This file says that the two belong together, and that
the numbers are those by which one counts the days of the calendar.

* `daysBeforeYear_yearOf` -- the year that is found for a day is the one the day lies in.
* `monthAndDay_spec` -- and so are the month and the day of the month.
* `dayNumber_ofDayNumber`, `ofDayNumber_dayNumber` -- finding the date of a day undoes numbering it.
* `dayNumber_lt_iff` -- the earlier of two dates is the one with the smaller number.
* `Counts` -- what it means to count the days one after another from 1970-01-01; `counts_dayNumber`
  says that the numbers do so, and `Counts.eq_dayNumber` that nothing else does.
-/

namespace Steward

/-! ## 1. Years and months -/

/-- The number of days of a year. -/
def daysInYear (year : Int) : Nat := if isLeapYear year then 366 else 365

theorem daysBeforeYear_succ (year : Int) :
    daysBeforeYear (year + 1) = daysBeforeYear year + daysInYear year := by
  simp only [daysBeforeYear, daysInYear, isLeapYear, Bool.and_eq_true, Bool.or_eq_true,
    decide_eq_true_eq]
  split <;> omega

theorem daysBeforeYear_mono {year year' : Int} (h : year ≤ year') :
    daysBeforeYear year ≤ daysBeforeYear year' := by
  have hstep : ∀ y, daysBeforeYear y ≤ daysBeforeYear (y + 1) := by
    intro y
    rw [daysBeforeYear_succ]
    omega
  exact monotone_int_of_le_succ hstep h

theorem daysBeforeMonth_succ (year : Int) {month : Nat} (h : 1 ≤ month) :
    daysBeforeMonth year (month + 1) = daysBeforeMonth year month + daysInMonth year month := by
  rw [daysBeforeMonth]
  omega

theorem daysBeforeMonth_mono (year : Int) {month month' : Nat} (h : month ≤ month') :
    daysBeforeMonth year month ≤ daysBeforeMonth year month' := by
  have hstep : ∀ m, daysBeforeMonth year m ≤ daysBeforeMonth year (m + 1) := by
    intro m
    cases m with
    | zero => exact Nat.le_refl 0
    | succ m =>
      have hnext := daysBeforeMonth_succ year (Nat.le_add_left 1 m)
      omega
  exact monotone_nat_of_le_succ hstep h

/-- **The twelve months make up the year.** -/
theorem daysBeforeMonth_thirteen (year : Int) : daysBeforeMonth year 13 = daysInYear year := by
  simp only [daysBeforeMonth, daysInMonth, daysInYear]
  split <;> rfl

theorem daysBeforeMonth_add_le (year : Int) {month month' : Nat} (hone : 1 ≤ month)
    (h : month < month') :
    daysBeforeMonth year month + daysInMonth year month ≤ daysBeforeMonth year month' := by
  rw [← daysBeforeMonth_succ year hone]
  exact daysBeforeMonth_mono year h

namespace Date

/-! ## 2. The date of a day -/

/-- **The year of a day is the one it lies in.** -/
theorem daysBeforeYear_yearOf (n : Int) :
    daysBeforeYear (yearOf n) ≤ n ∧ n < daysBeforeYear (yearOf n + 1) := by
  unfold yearOf
  simp only []
  split
  · rename_i hbefore
    refine ⟨?_, by rwa [Int.sub_add_cancel]⟩
    simp only [daysBeforeYear] at *
    omega
  · split
    · rename_i hafter
      refine ⟨hafter, ?_⟩
      simp only [daysBeforeYear] at *
      omega
    · omega

/-- **The month and the day of the month that are found** for a day `n` days into the part of a year
    that begins with `month`, if that part has so many days. -/
theorem monthAndDay_spec (year : Int) {left month n : Nat} (hmonth : 1 ≤ month)
    (hn : daysBeforeMonth year month + n < daysBeforeMonth year (month + left + 1)) :
    let r := monthAndDay year left month n
    month ≤ r.1 ∧ r.1 ≤ month + left ∧ 1 ≤ r.2 ∧ r.2 ≤ daysInMonth year r.1 ∧
      daysBeforeMonth year r.1 + r.2 = daysBeforeMonth year month + n + 1 := by
  induction left generalizing month n with
  | zero =>
    rw [Nat.add_zero, daysBeforeMonth_succ year hmonth] at hn
    simp only [monthAndDay]
    omega
  | succ left ih =>
    simp only [monthAndDay]
    split
    · simp only []
      omega
    · rename_i hlater
      -- the days of this month are passed over
      have hnext : daysBeforeMonth year (month + 1) + (n - daysInMonth year month) =
          daysBeforeMonth year month + n := by
        rw [daysBeforeMonth_succ year hmonth]
        omega
      have hfound := ih (n := n - daysInMonth year month) (by omega : 1 ≤ month + 1)
        (by rw [hnext]; rwa [show month + 1 + left + 1 = month + (left + 1) + 1 by omega])
      simp only [hnext] at hfound
      omega

/-- What is found for a day: the date exists, and its number is that of the day. -/
theorem ofDayNumber_spec (n : Int) : (ofDayNumber n).Exists ∧ (ofDayNumber n).dayNumber = n := by
  obtain ⟨hlow, hhigh⟩ := daysBeforeYear_yearOf (n + daysToEpoch)
  rw [daysBeforeYear_succ] at hhigh
  have hbefore : daysBeforeMonth (yearOf (n + daysToEpoch)) 1 = 0 := rfl
  have hday : daysBeforeMonth (yearOf (n + daysToEpoch)) 1 +
      (n + daysToEpoch - daysBeforeYear (yearOf (n + daysToEpoch))).toNat <
      daysBeforeMonth (yearOf (n + daysToEpoch)) (1 + 11 + 1) := by
    rw [daysBeforeMonth_thirteen, hbefore]
    omega
  obtain ⟨h1, h2, h3, h4, h5⟩ := monthAndDay_spec _ (Nat.le_refl 1) hday
  rw [hbefore] at h5
  refine ⟨⟨h1, h2, h3, h4⟩, ?_⟩
  simp only [ofDayNumber, dayNumber]
  omega

theorem exists_ofDayNumber (n : Int) : (ofDayNumber n).Exists := (ofDayNumber_spec n).1

/-- **The date of a day has the day's number.** -/
theorem dayNumber_ofDayNumber (n : Int) : (ofDayNumber n).dayNumber = n := (ofDayNumber_spec n).2

/-! ## 3. Earlier and later -/

/-- **One date before another**, by the year, then the month, then the day of the month. -/
inductive Earlier (d d' : Date) : Prop
  | year (h : d.year < d'.year)
  | month (hyear : d.year = d'.year) (h : d.month < d'.month)
  | day (hyear : d.year = d'.year) (hmonth : d.month = d'.month) (h : d.day < d'.day)

theorem earlier_trichotomy (d d' : Date) : d.Earlier d' ∨ d = d' ∨ d'.Earlier d := by
  by_cases hyear : d.year = d'.year
  · by_cases hmonth : d.month = d'.month
    · by_cases hday : d.day = d'.day
      · have hsame : d = d' := by
          cases d
          cases d'
          simp_all
        exact Or.inr (Or.inl hsame)
      · rcases Nat.lt_or_gt_of_ne hday with h | h
        · exact Or.inl (.day hyear hmonth h)
        · exact Or.inr (Or.inr (.day hyear.symm hmonth.symm h))
    · rcases Nat.lt_or_gt_of_ne hmonth with h | h
      · exact Or.inl (.month hyear h)
      · exact Or.inr (Or.inr (.month hyear.symm h))
  · rcases Int.lt_or_gt_of_ne hyear with h | h
    · exact Or.inl (.year h)
    · exact Or.inr (Or.inr (.year h))

/-- The days of a month end before the year does. -/
theorem daysBeforeMonth_add_day_le {d : Date} (h : d.Exists) :
    daysBeforeMonth d.year d.month + d.day ≤ daysInYear d.year := by
  obtain ⟨h1, h2, -, h4⟩ := h
  have hend := daysBeforeMonth_add_le d.year h1 (by omega : d.month < 13)
  rw [daysBeforeMonth_thirteen] at hend
  omega

/-- **An earlier date has a smaller number.** -/
theorem dayNumber_lt {d d' : Date} (hd : d.Exists) (hd' : d'.Exists) (h : d.Earlier d') :
    d.dayNumber < d'.dayNumber := by
  have hend := daysBeforeMonth_add_day_le hd
  obtain ⟨h1, -, -, h4⟩ := hd
  obtain ⟨-, -, h3', -⟩ := hd'
  simp only [dayNumber]
  cases h with
  | year h =>
    have hnext := daysBeforeYear_mono (by omega : d.year + 1 ≤ d'.year)
    rw [daysBeforeYear_succ] at hnext
    omega
  | month hyear h =>
    have hnext := daysBeforeMonth_add_le d.year h1 h
    rw [hyear] at hnext h4 ⊢
    omega
  | day hyear hmonth h =>
    rw [hyear, hmonth]
    omega

/-- **The earlier of two dates is the one with the smaller number.** -/
theorem dayNumber_lt_iff {d d' : Date} (hd : d.Exists) (hd' : d'.Exists) :
    d.dayNumber < d'.dayNumber ↔ d.Earlier d' := by
  refine ⟨fun h => ?_, dayNumber_lt hd hd'⟩
  rcases earlier_trichotomy d d' with hlt | rfl | hlt
  · exact hlt
  · exact absurd h (Int.lt_irrefl _)
  · exact absurd (dayNumber_lt hd' hd hlt) (Int.lt_asymm h)

/-- **Two dates with the same number are the same date.** -/
theorem dayNumber_inj {d d' : Date} (hd : d.Exists) (hd' : d'.Exists)
    (h : d.dayNumber = d'.dayNumber) : d = d' := by
  rcases earlier_trichotomy d d' with hlt | heq | hlt
  · have := dayNumber_lt hd hd' hlt
    omega
  · exact heq
  · have := dayNumber_lt hd' hd hlt
    omega

/-- **The date that is found for the day of a date is that date.** -/
theorem ofDayNumber_dayNumber {d : Date} (h : d.Exists) : ofDayNumber d.dayNumber = d :=
  dayNumber_inj (exists_ofDayNumber _) h (dayNumber_ofDayNumber _)

/-! ## 4. Counting days -/

/-- The day after a date. -/
def next (d : Date) : Date :=
  if d.day < daysInMonth d.year d.month then { d with day := d.day + 1 }
  else if d.month < 12 then ⟨d.year, d.month + 1, 1⟩
  else ⟨d.year + 1, 1, 1⟩

theorem daysInMonth_pos (year : Int) (month : Nat) : 1 ≤ daysInMonth year month := by
  unfold daysInMonth
  split
  · split <;> omega
  all_goals omega

theorem next_spec {d : Date} (h : d.Exists) :
    d.next.Exists ∧ d.next.dayNumber = d.dayNumber + 1 := by
  obtain ⟨h1, h2, h3, h4⟩ := h
  unfold next
  split
  · rename_i hday
    refine ⟨⟨h1, h2, by simp, hday⟩, ?_⟩
    simp only [dayNumber]
    omega
  · rename_i hday
    split
    · rename_i hmonth
      have hone := daysInMonth_pos d.year (d.month + 1)
      refine ⟨⟨by simp, hmonth, Nat.le_refl 1, hone⟩, ?_⟩
      simp only [dayNumber, daysBeforeMonth_succ d.year h1]
      omega
    · have hone := daysInMonth_pos (d.year + 1) 1
      refine ⟨⟨Nat.le_refl 1, by simp, Nat.le_refl 1, hone⟩, ?_⟩
      have hlast : d.month = 12 := by omega
      have hyear := daysBeforeMonth_succ d.year (by omega : 1 ≤ 12)
      rw [daysBeforeMonth_thirteen] at hyear
      have hnone : daysBeforeMonth (d.year + 1) 1 = 0 := rfl
      simp only [dayNumber, daysBeforeYear_succ, hnone, hlast]
      rw [hlast] at h4 hday
      omega

/-- **Counting the days of the calendar**: 1970-01-01 is day zero, and every date's next day has the
    next number. -/
structure Counts (days : Date → Int) : Prop where
  zero : days ⟨1970, 1, 1⟩ = 0
  next : ∀ d, d.Exists → days d.next = days d + 1

theorem counts_dayNumber : Counts dayNumber :=
  ⟨by decide, fun _ h => (next_spec h).2⟩

theorem next_ofDayNumber (n : Int) : (ofDayNumber n).next = ofDayNumber (n + 1) := by
  obtain ⟨hexists, hnumber⟩ := next_spec (exists_ofDayNumber n)
  refine dayNumber_inj hexists (exists_ofDayNumber _) ?_
  rw [hnumber, dayNumber_ofDayNumber, dayNumber_ofDayNumber]

/-- **There is only one way of counting days.** -/
theorem Counts.eq_dayNumber {days : Date → Int} (h : Counts days) {d : Date} (hd : d.Exists) :
    days d = d.dayNumber := by
  have hall : ∀ n, days (ofDayNumber n) = n := by
    intro n
    induction n using Int.induction_on with
    | zero => exact h.zero
    | succ n ih =>
      rw [← next_ofDayNumber, h.next _ (exists_ofDayNumber _), ih]
    | pred n ih =>
      have hstep := h.next _ (exists_ofDayNumber (-n - 1))
      rw [next_ofDayNumber, Int.sub_add_cancel, ih] at hstep
      omega
  rw [← hall d.dayNumber, ofDayNumber_dayNumber hd]

end Date

end Steward
