import Steward.Calendar
import Steward.Text.Decimal

/-!
# Instants and how they are written

* `Instant` is a second since 1970-01-01 in universal time and a number of nanoseconds within it. A
  leap second belongs to the second before it: its nanoseconds count on from one second.
* `Instant.ofUnix?` admits the instants that can be represented.
* `Instant.fields` reads an instant as a date and a time of day, and `Instant.text` writes these
  fields down to the millisecond, cut off and not rounded.
-/

namespace Steward

/-- A moment, by seconds since 1970-01-01 and nanoseconds within the second. -/
structure Instant where
  seconds : Int
  nanos : Nat
deriving DecidableEq

/-- Nanoseconds of one second. -/
def nanosPerSecond : Nat := 1000000000

/-- Seconds of one day. -/
def secondsPerDay : Int := 86400

/-- A date and a time of day in universal time. -/
structure TimeFields where
  date : Date
  hour : Nat
  minute : Nat
  second : Nat
  millisecond : Nat
deriving DecidableEq

namespace Instant

/-- The first and the last date that can be represented. -/
def firstDate : Date := ⟨-262143, 1, 1⟩
def lastDate : Date := ⟨262142, 12, 31⟩

/-- The number of the day of an instant. -/
def dayNumber (i : Instant) : Int := i.seconds / secondsPerDay

/-- The seconds of an instant since its day began. -/
def secondOfDay (i : Instant) : Nat := (i.seconds % secondsPerDay).toNat

/-- Whether an instant can be represented: its nanoseconds stay within a second, or within the leap
    second that may follow the last second of a minute, and its date is not too far off. -/
def Representable (i : Instant) : Prop :=
  i.nanos < 2 * nanosPerSecond ∧ (nanosPerSecond ≤ i.nanos → i.seconds % 60 = 59) ∧
    firstDate.dayNumber ≤ i.dayNumber ∧ i.dayNumber ≤ lastDate.dayNumber

instance (i : Instant) : Decidable i.Representable := by unfold Representable; infer_instance

/-- The instant of a number of seconds and nanoseconds, if it can be represented. -/
def ofUnix? (seconds : Int) (nanos : Nat) : Option Instant :=
  if Representable ⟨seconds, nanos⟩ then some ⟨seconds, nanos⟩ else none

/-- The date and time of day of an instant. A leap second is second sixty. -/
def fields (i : Instant) : TimeFields where
  date := .ofDayNumber i.dayNumber
  hour := i.secondOfDay / 3600
  minute := i.secondOfDay / 60 % 60
  second := i.secondOfDay % 60 + i.nanos / nanosPerSecond
  millisecond := i.nanos % nanosPerSecond / 1000000

end Instant

namespace TimeFields

/-- A year: four digits, or a sign and at least four digits when four digits cannot show it. -/
def yearText (year : Int) : List Char :=
  if 0 ≤ year ∧ year ≤ 9999 then Decimal.fixed 4 year.toNat
  else (if year < 0 then '-' else '+') :: Decimal.padded 4 year.natAbs

/-- The characters of a date and time: `YYYY-MM-DDTHH:MM:SS.mmmZ`. -/
def chars (t : TimeFields) : List Char :=
  yearText t.date.year ++ '-' :: Decimal.fixed 2 t.date.month ++ '-' :: Decimal.fixed 2 t.date.day
    ++ 'T' :: Decimal.fixed 2 t.hour ++ ':' :: Decimal.fixed 2 t.minute
    ++ ':' :: Decimal.fixed 2 t.second ++ '.' :: Decimal.fixed 3 t.millisecond ++ ['Z']

end TimeFields

/-- An instant as a text, down to the millisecond. -/
def Instant.text (i : Instant) : String := .ofList i.fields.chars

end Steward
