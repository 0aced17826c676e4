/-!
# The calendar

The Gregorian calendar, carried on before its introduction and before the year one. Days are counted
by integers, day zero being 1970-01-01.

* `Date.dayNumber` counts the days up to a date, by whole years (`daysBeforeYear`) and whole months
  (`daysBeforeMonth`).
* `Date.ofDayNumber` finds the date of a day: a first guess at its year is off by at most one.
-/

namespace Steward

/-! ## 1. Years and months -/

/-- Whether a year has a twenty-ninth of February. -/
def isLeapYear (year : Int) : Bool :=
  year % 4 = 0 && (year % 100 ≠ 0 || year % 400 = 0)

/-- The number of days of a month. -/
def daysInMonth (year : Int) (month : Nat) : Nat :=
  match month with
  | 2 => if isLeapYear year then 29 else 28
  | 4 | 6 | 9 | 11 => 30
  | _ => 31

/-- The number of days in the months before a month of a year. -/
def daysBeforeMonth (year : Int) : Nat → Nat
  | 0 | 1 => 0
  | month + 1 => daysBeforeMonth year month + daysInMonth year month

/-- How many days lie between the first day of the year one and the first day of a year. -/
def daysBeforeYear (year : Int) : Int :=
  let past := year - 1
  past * 365 + past / 4 - past / 100 + past / 400

/-- How many days lie between the first day of the year one and 1970-01-01. -/
def daysToEpoch : Int := 719162

/-! ## 2. Dates -/

/-- A day by its year, month and day of the month. -/
structure Date where
  year : Int
  month : Nat
  day : Nat
deriving DecidableEq

namespace Date

/-- Whether the calendar has such a date. -/
def Exists (d : Date) : Prop :=
  1 ≤ d.month ∧ d.month ≤ 12 ∧ 1 ≤ d.day ∧ d.day ≤ daysInMonth d.year d.month

instance (d : Date) : Decidable d.Exists := by unfold Exists; infer_instance

/-- The number of a date's day. -/
def dayNumber (d : Date) : Int :=
  daysBeforeYear d.year - daysToEpoch + daysBeforeMonth d.year d.month + d.day - 1

/-- The year of the day that follows `n` days from the first day of the year one. The average
    length of a year gives a guess, which is then moved by one year at most. -/
def yearOf (n : Int) : Int :=
  let guess := n * 400 / 146097 + 1
  if n < daysBeforeYear guess then guess - 1
  else if daysBeforeYear (guess + 1) ≤ n then guess + 1
  else guess

/-- The month and day of the month, `n` days into the part of a year that begins with `month`;
    `left` bounds the months still to be tried. -/
def monthAndDay (year : Int) : (left month n : Nat) → Nat × Nat
  | 0, month, n => (month, n + 1)
  | left + 1, month, n =>
    if n < daysInMonth year month then (month, n + 1)
    else monthAndDay year left (month + 1) (n - daysInMonth year month)

/-- The date of a day. -/
def ofDayNumber (n : Int) : Date :=
  let n := n + daysToEpoch
  let year := yearOf n
  let (month, day) := monthAndDay year 11 1 (n - daysBeforeYear year).toNat
  { year, month, day }

end Date

end Steward
