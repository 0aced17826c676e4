import Steward.Instant
import Steward.Text.Utf8

/-!
# Reading timestamps

A timestamp in the format of RFC 3339 gives a date, a time of day, an optional fraction of a second,
and the offset of the local clock from universal time.

* `Timestamp.read` reads one stage after another, so the first stage that fails gives the error.
* `Timestamp.instant` is the moment a timestamp denotes. Second sixty is a leap second.
-/

namespace Steward

/-- A date and time as it is written, with the offset in minutes. -/
structure Timestamp where
  date : Date
  hour : Nat
  minute : Nat
  second : Nat
  /-- The digits after the point. -/
  fraction : List Nat
  offset : Int
deriving DecidableEq

namespace Timestamp

/-- Why a text is no timestamp. -/
inductive ReadError
  /-- The text ends too early. -/
  | short
  /-- A character stands where it may not. -/
  | invalid
  /-- There is no such date, time or offset. -/
  | outOfRange
  /-- Something follows. -/
  | long
deriving DecidableEq

/-- The text of an error. -/
def ReadError.message : ReadError → String
  | .short => "premature end of input"
  | .invalid => "input contains invalid characters"
  | .outOfRange => "input is out of range"
  | .long => "trailing input"

/-- A reader takes characters from the front of a text, or fails. -/
abbrev Reader (α : Type) := List Char → Except ReadError (α × List Char)

/-! ## 1. Parts -/

/-- A number of exactly `w` digits. -/
def readNumber (w : Nat) : Reader Nat := fun cs =>
  if w ≤ cs.length then
    match (cs.take w).mapM Decimal.digit? with
    | some ds => .ok (Decimal.value ds, cs.drop w)
    | none => .error .invalid
  else .error .invalid

/-- One of the given characters. -/
def readMark (allowed : List Char) : Reader Char
  | c :: cs => if c ∈ allowed then .ok (c, cs) else .error .invalid
  | [] => .error .invalid

/-- One of the given characters, where the text may also end too early. -/
def readMarkOrEnd (allowed : List Char) : Reader Char
  | [] => .error .short
  | cs => readMark allowed cs

/-- A number of two digits, where the text may also end too early. -/
def readTwoDigitsOrEnd : Reader Nat := fun cs =>
  if Utf8.size cs < 2 then .error .short else readNumber 2 cs

/-- Reads `YYYY-MM-DD`, a date that exists. -/
def readDate : Reader Date := fun cs => do
  let (year, cs) ← readNumber 4 cs
  let (_, cs) ← readMark ['-'] cs
  let (month, cs) ← readNumber 2 cs
  let (_, cs) ← readMark ['-'] cs
  let (day, cs) ← readNumber 2 cs
  let d : Date := ⟨year, month, day⟩
  if d.Exists then .ok (d, cs) else .error .outOfRange

/-- Reads `HH:MM:SS`, in whatever range. -/
def readClock : Reader (Nat × Nat × Nat) := fun cs => do
  let (hour, cs) ← readNumber 2 cs
  let (_, cs) ← readMark [':'] cs
  let (minute, cs) ← readNumber 2 cs
  let (_, cs) ← readMark [':'] cs
  let (second, cs) ← readNumber 2 cs
  .ok ((hour, minute, second), cs)

/-- The digits a text begins with, and the rest. -/
def leadingDigits : List Char → List Nat × List Char
  | [] => ([], [])
  | c :: cs => match Decimal.digit? c with
    | some d => (d :: (leadingDigits cs).1, (leadingDigits cs).2)
    | none => ([], c :: cs)

/-- A point and one or more digits, or nothing. -/
def readFraction : Reader (List Nat)
  | '.' :: cs => match cs, leadingDigits cs with
    | [], _ => .error .short
    | _, ([], _) => .error .invalid
    | _, (ds, rest) => .ok (ds, rest)
  | cs => .ok ([], cs)

/-- The two spellings of a negative offset's sign. -/
def minusSigns : List Char := ['-', Char.ofNat 0x2212]

/-- An offset in minutes: `Z`, or a sign, two digits of hours, a colon and two digits of minutes. Of
    the minutes only their range is checked here. -/
def readOffset : Reader Int := fun cs => do
  let (sign, cs) ← readMarkOrEnd ('Z' :: 'z' :: '+' :: minusSigns) cs
  if sign = 'Z' ∨ sign = 'z' then .ok (0, cs)
  else
    let (hours, cs) ← readTwoDigitsOrEnd cs
    let (_, cs) ← readMarkOrEnd [':'] cs
    let (minutes, cs) ← readTwoDigitsOrEnd cs
    if 59 < minutes then .error .outOfRange
    else
      let size : Int := hours * 60 + minutes
      .ok (if sign = '+' then size else -size, cs)

/-! ## 2. The whole -/

/-- How many bytes a date and a time take. -/
def leastBytes : Nat := 19

/-- Reads a timestamp that fills the whole text. -/
def read (cs : List Char) : Except ReadError Timestamp := do
  if Utf8.size cs < leastBytes then .error .short
  else
    let (date, cs) ← readDate cs
    let (_, cs) ← readMark ['T', 't', ' '] cs
    let ((hour, minute, second), cs) ← readClock cs
    let (fraction, cs) ← readFraction cs
    if 23 < hour ∨ 59 < minute ∨ 60 < second then .error .outOfRange
    else
      let (offset, cs) ← readOffset cs
      if !cs.isEmpty then .error .long
      else if 24 * 60 ≤ offset.natAbs then .error .outOfRange
      else .ok { date, hour, minute, second, fraction, offset }

/-! ## 3. The moment -/

/-- The nanoseconds of a fraction: its first nine digits, with zeros for the missing ones. -/
def nanosOf (fraction : List Nat) : Nat :=
  Decimal.value ((fraction ++ List.replicate 9 0).take 9)

/-- **The moment that a timestamp denotes.** A leap second is kept as the second before it, with a
    second's worth of nanoseconds added. -/
def instant (t : Timestamp) : Instant where
  seconds := t.date.dayNumber * secondsPerDay + t.hour * 3600 + t.minute * 60
    + (min t.second 59 : Nat) - t.offset * 60
  nanos := nanosOf t.fraction + (if t.second = 60 then nanosPerSecond else 0)

end Timestamp

end Steward
