import Steward.Proofs.Instant.Fields

/-!
# What the text of an instant says

An instant is a number of seconds and nanoseconds, and its text is a date and a time of day. This
file says which numbers are an instant, and what can be read off its text.

* `DateOf` -- the date on which a second falls; `dateOf_iff` says that it is the one that is found.
* `ofUnix?_eq_none_iff` -- the numbers that are no instant.
* `Denotes` -- a date and a time of day that add up to the numbers of an instant; `denotes_iff` says
  that the fields of the instant do, and nothing else does.
* `text_denotes` -- so the text of an instant shows what adds up to it.
-/

namespace Steward.Instant

open TimeFields

/-! ## 1. The date -/

/-- **The date on which a second falls**, in universal time and however the days are counted. -/
structure DateOf (seconds : Int) (d : Date) : Prop where
  real : d.Exists
  day : ∀ days, Date.Counts days → days d = seconds / 86400

/-- **The date on which a second falls is the one that is found.** -/
theorem dateOf_iff {seconds : Int} {d : Date} :
    DateOf seconds d ↔ Date.ofDayNumber (seconds / 86400) = d := by
  constructor
  · intro ⟨hreal, hday⟩
    rw [← hday _ Date.counts_dayNumber, Date.ofDayNumber_dayNumber hreal]
  · rintro rfl
    have hreal := Date.exists_ofDayNumber (seconds / 86400)
    exact ⟨hreal, fun days hdays => by rw [hdays.eq_dayNumber hreal, Date.dayNumber_ofDayNumber]⟩

theorem dateOf_fields (i : Instant) : DateOf i.seconds i.fields.date := dateOf_iff.mpr rfl

/-- **The numbers that are no instant**: the nanoseconds count on past a leap second, or into one that
    does not follow the last second of a minute; or the date is too far off. -/
theorem ofUnix?_eq_none_iff {seconds : Int} {d : Date} (hd : DateOf seconds d) (nanos : Nat) :
    ofUnix? seconds nanos = none ↔
      2000000000 ≤ nanos ∨ 1000000000 ≤ nanos ∧ seconds % 60 ≠ 59 ∨
      d.Earlier ⟨-262143, 1, 1⟩ ∨ Date.Earlier ⟨262142, 12, 31⟩ d := by
  have hfirst : firstDate.Exists := by decide
  have hlast : lastDate.Exists := by decide
  have hday : d.dayNumber = seconds / 86400 := hd.day _ Date.counts_dayNumber
  have hbefore := Date.dayNumber_lt_iff hd.real hfirst
  have hbehind := Date.dayNumber_lt_iff hlast hd.real
  rw [hday] at hbefore hbehind
  have hnone : ofUnix? seconds nanos = none ↔ ¬ Representable ⟨seconds, nanos⟩ := by
    unfold ofUnix?
    split
    · rename_i h
      exact iff_of_false nofun (not_not_intro h)
    · rename_i h
      exact iff_of_true rfl h
  rw [hnone, ← show firstDate = ⟨-262143, 1, 1⟩ from rfl, ← show lastDate = ⟨262142, 12, 31⟩ from rfl,
    ← hbefore, ← hbehind]
  simp only [Representable, dayNumber, secondsPerDay, nanosPerSecond]
  omega

/-! ## 2. The numbers -/

/-- **A date and a time of day that denote an instant**, given by its seconds and nanoseconds. They
    add up to the seconds, whichever way the days are counted; in a leap second the second is sixty
    and they add up to one more. Of the nanoseconds they have the millisecond. -/
structure Denotes (f : TimeFields) (seconds : Int) (nanos : Nat) : Prop where
  date : f.date.Exists
  hour : f.hour ≤ 23
  minute : f.minute ≤ 59
  regular : nanos < 1000000000 → f.second ≤ 59 ∧ ∀ days, Date.Counts days →
    days f.date * 86400 + f.hour * 3600 + f.minute * 60 + f.second = seconds
  leap : 1000000000 ≤ nanos → f.second = 60 ∧ ∀ days, Date.Counts days →
    days f.date * 86400 + f.hour * 3600 + f.minute * 60 + f.second = seconds + 1
  millisecond : f.millisecond = nanos % 1000000000 / 1000000

/-- The fields of an instant add up to it. -/
theorem denotes_fields {i : Instant} (h : i.Regular) : Denotes i.fields i.seconds i.nanos := by
  have hsound := sound_fields h
  have hminutes := minutes_fields i
  have hsecond := second_fields i
  obtain ⟨hnanos, hleap⟩ := h
  unfold TimeFields.minutes at hminutes
  unfold nanosPerSecond at hnanos hleap hsecond
  refine ⟨hsound.date, hsound.hour, hsound.minute, fun hshort => ⟨by omega, ?_⟩,
    fun hlong => ⟨by omega, ?_⟩, rfl⟩
  · intro days hdays
    rw [hdays.eq_dayNumber hsound.date]
    omega
  · intro days hdays
    rw [hdays.eq_dayNumber hsound.date]
    omega

/-- What denotes an instant has its minutes, second and millisecond. -/
theorem Denotes.parts {f : TimeFields} {i : Instant} (hf : Denotes f i.seconds i.nanos)
    (h : i.Regular) : f.minutes = i.fields.minutes ∧ f.second = i.fields.second ∧
      f.millisecond = i.fields.millisecond := by
  have hminutes := minutes_fields i
  have hsecond := second_fields i
  obtain ⟨hnanos, hleap⟩ := h
  unfold TimeFields.minutes at hminutes ⊢
  unfold nanosPerSecond at hnanos hleap hsecond
  rcases Nat.lt_or_ge i.nanos 1000000000 with hshort | hlong
  · obtain ⟨hle, hsum⟩ := hf.regular hshort
    have hdays := hsum _ Date.counts_dayNumber
    exact ⟨by omega, by omega, hf.millisecond⟩
  · obtain ⟨hsixty, hsum⟩ := hf.leap hlong
    have hdays := hsum _ Date.counts_dayNumber
    exact ⟨by omega, by omega, hf.millisecond⟩

/-- **Nothing but the fields of an instant denotes it.** -/
theorem denotes_iff {i : Instant} (h : i.Regular) {f : TimeFields} :
    Denotes f i.seconds i.nanos ↔ f = i.fields := by
  refine ⟨fun hf => ?_, fun hf => hf ▸ denotes_fields h⟩
  obtain ⟨hminutes, hsecond, hmillisecond⟩ := hf.parts h
  have hsound := sound_fields h
  have hf : f.Sound := by
    refine ⟨hf.date, hf.hour, hf.minute, ?_, ?_⟩
    · rw [hsecond]
      exact hsound.second
    · rw [hmillisecond]
      exact hsound.millisecond
  exact hf.ext hsound hminutes hsecond hmillisecond

/-! ## 3. The text -/

/-- **The text of an instant denotes it.** Seconds fall on a date, and with nanoseconds they are no
    instant if this date or the nanoseconds are out of range. All others have a text in the form of a
    date and a time of day. What it shows denotes the instant, and it shows all that does. -/
theorem text_denotes (seconds : Int) (nanos : Nat) :
    ∃ d, DateOf seconds d ∧
      (ofUnix? seconds nanos = none ↔
        2000000000 ≤ nanos ∨ 1000000000 ≤ nanos ∧ seconds % 60 ≠ 59 ∨
        d.Earlier ⟨-262143, 1, 1⟩ ∨ Date.Earlier ⟨262142, 12, 31⟩ d) ∧
      ∀ i, ofUnix? seconds nanos = some i →
        (∃ f, Shown f i.text.toList) ∧
          ∀ f, Shown f i.text.toList ↔ Denotes f seconds nanos := by
  have hd : DateOf seconds _ := dateOf_iff.mpr rfl
  refine ⟨_, hd, ofUnix?_eq_none_iff hd nanos, fun i hi => ?_⟩
  obtain ⟨rfl, hregular⟩ := eq_of_ofUnix? hi
  have hshown := shown_chars (sound_fields hregular)
  rw [text, String.toList_ofList]
  refine ⟨⟨_, hshown⟩, fun f => ?_⟩
  have hdenotes : Denotes f seconds nanos ↔ _ := denotes_iff hregular
  rw [hdenotes]
  exact ⟨fun hf => hf.unique hshown, fun hf => hf ▸ hshown⟩

end Steward.Instant
