import Steward.Proofs.Instant.Fields
import Steward.Proofs.Timestamp.Grammar

/-!
# The moment a timestamp denotes

A timestamp gives the time at some place, and its instant is kept in universal time. This file says
which date and time of day the instant has.

* `nanosOf_div` -- the first three digits of a fraction are the millisecond, whatever follows them.
* `minutes_instant`, `second_instant`, `millisecond_instant` -- the minutes of the instant are those
  of the timestamp without its offset; the second and the millisecond stay.
* `Moved` -- a timestamp and its moment in universal time; `moved_instant` says that the fields of
  the instant are that.
* `SameMoment` -- timestamps that denote one moment, to the millisecond; `sameMoment_iff` says that
  these are the ones with the same text.
-/

namespace Steward.Timestamp

open Decimal

/-! ## 1. The fraction -/

/-- The millisecond that a fraction gives: its first three digits, with zeros for the missing
    ones. -/
def millisecondOf (fraction : List Nat) : Nat := value ((fraction ++ [0, 0, 0]).take 3)

/-- The nine digits whose value are the nanoseconds. -/
def places (fraction : List Nat) : List Nat := (fraction ++ List.replicate 9 0).take 9

theorem length_places (fraction : List Nat) : (places fraction).length = 9 := by
  simp [places]

theorem places_le_nine {fraction : List Nat} (h : ∀ d ∈ fraction, d ≤ 9) :
    ∀ d ∈ places fraction, d ≤ 9 := by
  intro d hmem
  rcases List.mem_append.mp (List.mem_of_mem_take hmem) with hd | hd
  · exact h d hd
  · rw [List.eq_of_mem_replicate hd]
    omega

/-- For the first three places it does not matter how many zeros stand at the end. -/
theorem take_places (fraction : List Nat) :
    (places fraction).take 3 = (fraction ++ [0, 0, 0]).take 3 := by
  have hsplit : fraction ++ List.replicate 9 0 = fraction ++ [0, 0, 0] ++ List.replicate 6 0 := by
    simp [List.replicate]
  have hthree : 3 ≤ (fraction ++ [0, 0, 0]).length := by simp
  rw [places, List.take_take, Nat.min_eq_left (by omega), hsplit,
    List.take_append_of_le_length hthree]

theorem nanosOf_lt {fraction : List Nat} (h : ∀ d ∈ fraction, d ≤ 9) :
    nanosOf fraction < nanosPerSecond := by
  have hlt := value_lt (places_le_nine h)
  rw [length_places] at hlt
  exact hlt

/-- **The first three digits of a fraction are its millisecond**: what follows them is cut off. -/
theorem nanosOf_div {fraction : List Nat} (h : ∀ d ∈ fraction, d ≤ 9) :
    nanosOf fraction / 1000000 = millisecondOf fraction := by
  have hvalue : nanosOf fraction =
      millisecondOf fraction * 10 ^ 6 + value ((places fraction).drop 3) := by
    have hsplit := value_append ((places fraction).take 3) ((places fraction).drop 3)
    rw [List.take_append_drop, take_places, List.length_drop, length_places] at hsplit
    exact hsplit
  have hrest : value ((places fraction).drop 3) < 10 ^ 6 := by
    have hnine : ∀ d ∈ (places fraction).drop 3, d ≤ 9 :=
      fun d hd => places_le_nine h d (List.mem_of_mem_drop hd)
    have hlt := value_lt hnine
    rw [List.length_drop, length_places] at hlt
    exact hlt
  omega

/-! ## 2. The instant -/

theorem FractionText.le_nine {digits : List Nat} {cs : List Char} (h : FractionText digits cs) :
    ∀ d ∈ digits, d ≤ 9 := by
  cases h with
  | absent => exact fun d hd => absurd hd List.not_mem_nil
  | digits h _ => exact h.le_nine

theorem DateText.exists {d : Date} {cs : List Char} (h : DateText d cs) : d.Exists := by
  cases h with
  | mk _ _ _ hexists => exact hexists

/-- The minutes that have passed up to a timestamp in universal time, where `days` counts the
    days. -/
def minutesBy (days : Date → Int) (t : Timestamp) : Int :=
  days t.date * 1440 + t.hour * 60 + t.minute - t.offset

theorem seconds_instant (t : Timestamp) :
    t.instant.seconds = minutesBy Date.dayNumber t * 60 + (min t.second 59 : Nat) := by
  simp only [instant, minutesBy, secondsPerDay]
  omega

/-- **The minutes of the instant** are those of the timestamp without its offset. -/
theorem minutes_instant (t : Timestamp) :
    t.instant.fields.minutes = minutesBy Date.dayNumber t := by
  rw [Instant.minutes_fields, seconds_instant]
  omega

theorem nanos_instant (t : Timestamp) :
    t.instant.nanos = nanosOf t.fraction + (if t.second = 60 then nanosPerSecond else 0) := rfl

section

variable {t : Timestamp} {cs : List Char} (h : Written t cs)

include h

theorem Written.nanosOf_lt : nanosOf t.fraction < nanosPerSecond := by
  cases h with
  | mk _ _ _ hfraction _ _ _ _ => exact Timestamp.nanosOf_lt hfraction.le_nine

theorem Written.exists : t.date.Exists := by
  cases h with
  | mk hdate _ _ _ _ _ _ _ => exact hdate.exists

theorem Written.second_le : t.second ≤ 60 := by
  cases h with
  | mk _ _ _ _ _ _ _ hsecond => exact hsecond

theorem regular_instant : t.instant.Regular := by
  have hseconds := seconds_instant t
  have hnanos := h.nanosOf_lt
  simp only [Instant.Regular, instant, nanosPerSecond] at *
  split
  · omega
  · omega

/-- **The second stays**, sixty too. -/
theorem second_instant : t.instant.fields.second = t.second := by
  have hsecond := h.second_le
  have hnanos := h.nanosOf_lt
  have hshown := Instant.second_fields t.instant
  rw [seconds_instant, nanos_instant] at hshown
  unfold nanosPerSecond at hshown hnanos
  by_cases hleap : t.second = 60
  · rw [if_pos hleap] at hshown
    omega
  · rw [if_neg hleap] at hshown
    omega

/-- **The millisecond stays.** -/
theorem millisecond_instant : t.instant.fields.millisecond = millisecondOf t.fraction := by
  have hnanos := h.nanosOf_lt
  cases h with
  | mk _ _ _ hfraction _ _ _ _ =>
    rw [← nanosOf_div hfraction.le_nine]
    simp only [Instant.fields, instant, nanosPerSecond] at *
    split
    · omega
    · omega

theorem Written.minutesBy_eq {days : Date → Int} (hdays : Date.Counts days) :
    minutesBy days t = minutesBy Date.dayNumber t := by
  unfold minutesBy
  rw [hdays.eq_dayNumber h.exists]

/-- **The fields of the instant** are the only ones with its minutes, second and millisecond. -/
theorem fields_instant_eq_iff {f : TimeFields} (hf : f.Sound) :
    t.instant.fields = f ↔ minutesBy Date.dayNumber t = f.minutes ∧ t.second = f.second ∧
      millisecondOf t.fraction = f.millisecond := by
  rw [← minutes_instant, ← second_instant h, ← millisecond_instant h]
  constructor
  · intro heq
    rw [heq]
    exact ⟨rfl, rfl, rfl⟩
  · intro ⟨hminutes, hsecond, hmillisecond⟩
    exact (Instant.sound_fields (regular_instant h)).ext hf hminutes hsecond hmillisecond

end

/-! ## 3. In universal time -/

/-- **A timestamp and its moment in universal time**: a date that exists and a time of day. The
    offset is taken off, on whichever day or in whichever year this leads; the second stays, sixty
    too; and of the fraction the first three digits stay. -/
structure Moved (t : Timestamp) (f : TimeFields) : Prop where
  date : f.date.Exists
  hour : f.hour ≤ 23
  minute : f.minute ≤ 59
  minutes : ∀ days, Date.Counts days →
    days f.date * 1440 + f.hour * 60 + f.minute = minutesBy days t
  second : f.second = t.second
  millisecond : f.millisecond = millisecondOf t.fraction

/-- **The fields of the instant of a timestamp** are the timestamp in universal time. -/
theorem moved_instant {t : Timestamp} {cs : List Char} (h : Written t cs) :
    Moved t t.instant.fields := by
  have hsound := Instant.sound_fields (regular_instant h)
  refine ⟨hsound.date, hsound.hour, hsound.minute, fun days hdays => ?_, second_instant h,
    millisecond_instant h⟩
  have hminutes := minutes_instant t
  rw [← h.minutesBy_eq hdays] at hminutes
  rw [hdays.eq_dayNumber hsound.date]
  exact hminutes

/-- **Two timestamps that denote one moment**, to the millisecond. -/
structure SameMoment (t t' : Timestamp) : Prop where
  minutes : ∀ days, Date.Counts days → minutesBy days t = minutesBy days t'
  second : t.second = t'.second
  millisecond : millisecondOf t.fraction = millisecondOf t'.fraction

/-- **Timestamps that denote one moment are those with the same text in universal time.** -/
theorem sameMoment_iff {t t' : Timestamp} {cs cs' : List Char} (h : Written t cs)
    (h' : Written t' cs') : SameMoment t t' ↔ t.instant.text = t'.instant.text := by
  have hsound := Instant.sound_fields (regular_instant h)
  have hsound' := Instant.sound_fields (regular_instant h')
  have htext : t.instant.text = t'.instant.text ↔ t.instant.fields.chars = t'.instant.fields.chars :=
    String.ofList_inj
  rw [htext, TimeFields.chars_eq_iff hsound hsound', minutes_instant, minutes_instant,
    second_instant h, second_instant h', millisecond_instant h, millisecond_instant h']
  constructor
  · intro ⟨hminutes, hsecond, hmillisecond⟩
    exact ⟨hminutes _ Date.counts_dayNumber, hsecond, hmillisecond⟩
  · intro ⟨hminutes, hsecond, hmillisecond⟩
    refine ⟨fun days hdays => ?_, hsecond, hmillisecond⟩
    rw [h.minutesBy_eq hdays, h'.minutesBy_eq hdays, hminutes]

end Steward.Timestamp
