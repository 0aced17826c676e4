import Steward.Client
import Steward.Proofs.Instant.Denotation
import Steward.Proofs.Timestamp.ReadBack

/-!
# Asking for a time sync

The client reads a timestamp, and the command it sends gives the moment in universal time.

* `timeSync_eq_ok_iff` -- which texts are accepted, and which command comes of them.
* `timeSync_keeps_moment` -- the command gives the moment that the text gives, and texts that give
  one moment make one command.
* `timeSync_text` -- what comes of the text of an instant when it is given to the client.
* `timeSync_normalizes` -- so the timestamp that is sent makes the same command again, unless its
  year does not have four digits.
-/

namespace Steward.Client

open Timestamp TimeFields

/-! ## 1. Reading -/

/-- **The texts that are accepted** are the timestamps with blanks around them, and their command
    sets the clock to their instant. -/
theorem timeSync_eq_ok_iff {now : Instant} {text : String} {c : Command} :
    timeSync now (some text) = .ok c ↔
      ∃ t, Written t (Text.trim text.toList) ∧ c = setClock t.instant := by
  unfold timeSync
  constructor
  · intro h
    simp only [] at h
    split at h
    · rename_i t hread
      exact ⟨t, read_eq_ok_iff.mp hread, (Except.ok.inj h).symm⟩
    · cases h
  · intro ⟨t, ht, hc⟩
    simp only [read_eq_ok_iff.mpr ht, hc]

/-- **A time sync keeps the moment.** A text that is accepted is a timestamp, and what is sent for it
    shows a date and time, which are those of the timestamp in universal time. And what is sent for
    two texts is the same exactly when they denote the same moment to the millisecond, however they
    are written. -/
theorem timeSync_keeps_moment :
    (∀ now text c, timeSync now (some text) = .ok c →
      ∃ t cs, Written t (Text.trim text.toList) ∧ c = .timeSync (.ofList cs) ∧
        (∃ f, Shown f cs) ∧ ∀ f, Shown f cs → Moved t f) ∧
    (∀ now text c t now' text' c' t',
      timeSync now (some text) = .ok c → Written t (Text.trim text.toList) →
      timeSync now' (some text') = .ok c' → Written t' (Text.trim text'.toList) →
      (SameMoment t t' ↔ c = c')) := by
  constructor
  · intro now text c h
    obtain ⟨t, ht, hc⟩ := timeSync_eq_ok_iff.mp h
    have hshown := shown_chars (Instant.sound_fields (regular_instant ht))
    refine ⟨t, t.instant.fields.chars, ht, hc, ⟨t.instant.fields, hshown⟩, ?_⟩
    intro f hf
    rw [hf.unique hshown]
    exact moved_instant ht
  · intro now text c t now' text' c' t' h ht h' ht'
    obtain ⟨u, hu, hc⟩ := timeSync_eq_ok_iff.mp h
    obtain ⟨u', hu', hc'⟩ := timeSync_eq_ok_iff.mp h'
    rw [hc, hc', hu.unique ht, hu'.unique ht', setClock, setClock, Command.timeSync.injEq]
    exact sameMoment_iff ht ht'

/-- The last second of a year may be a leap second, and be given from a place where the next year has
    begun. -/
example : timeSync ⟨0, 0⟩ (some " 2017-01-01t02:59:60.9999+03:00") =
    .ok (.timeSync "2016-12-31T23:59:60.999Z") := by decide +kernel

/-! ## 2. Reading what was sent -/

/-- **What comes of the text of an instant**: the command that sets the clock to that text, if its
    year has four digits. Otherwise it begins with a sign, and no timestamp does. -/
theorem timeSync_text {i : Instant} (h : i.Regular) (now : Instant) :
    timeSync now (some i.text) =
      if 0 ≤ i.fields.date.year ∧ i.fields.date.year ≤ 9999 then .ok (setClock i)
      else .error (.timestamp i.text .invalid) := by
  have hsound := Instant.sound_fields h
  have hshown := shown_chars hsound
  have htrim : Text.trim i.text.toList = i.fields.chars := by
    rw [Instant.text, String.toList_ofList, hshown.stamp.trim]
  split
  · rename_i hplain
    obtain ⟨t, ht, hfields⟩ := hshown.exists_written hsound hplain
    rw [← htrim] at ht
    refine timeSync_eq_ok_iff.mpr ⟨t, ht, ?_⟩
    rw [setClock, setClock, Instant.text, Instant.text, hfields]
  · rename_i hfar
    have hread := hshown.read_eq_invalid hfar
    rw [← htrim] at hread
    simp only [timeSync, hread]

/-- **The text of an instant is accepted exactly when its year has four digits.** -/
theorem timeSync_text_accepted_iff {i : Instant} (h : i.Regular) (now : Instant) :
    (∃ c, timeSync now (some i.text) = .ok c) ↔
      0 ≤ i.fields.date.year ∧ i.fields.date.year ≤ 9999 := by
  rw [timeSync_text h]
  by_cases hplain : 0 ≤ i.fields.date.year ∧ i.fields.date.year ≤ 9999
  · rw [if_pos hplain]
    exact iff_of_true ⟨_, rfl⟩ hplain
  · rw [if_neg hplain]
    refine iff_of_false ?_ hplain
    intro ⟨c, hc⟩
    cases hc

/-- If it is accepted it comes out as it went in. -/
theorem eq_setClock_of_timeSync_text {i : Instant} (h : i.Regular) {now : Instant} {c : Command}
    (hc : timeSync now (some i.text) = .ok c) : c = setClock i := by
  have hplain := (timeSync_text_accepted_iff h now).mp ⟨c, hc⟩
  rw [timeSync_text h, if_pos hplain] at hc
  exact (Except.ok.inj hc).symm

/-- The day of an instant, by whatever counts the days. -/
theorem days_date {days : Date → Int} (hdays : Date.Counts days) (i : Instant) :
    days i.fields.date = i.seconds / 86400 := (Instant.dateOf_fields i).day days hdays

/-- **Reading a timestamp again changes nothing.** The text of an instant is accepted exactly when
    its year in universal time has four digits, and then it comes out as it went in. So the
    timestamp that is sent for a text makes the same command again, except when moving the text to
    universal time has led out of those years: then it is refused. -/
theorem timeSync_normalizes (now : Instant) :
    (∀ seconds nanos i, Instant.ofUnix? seconds nanos = some i →
      ∃ d : Date, d.Exists ∧ (∀ days, Date.Counts days → days d = seconds / 86400) ∧
        ((∃ c, timeSync now (some i.text) = .ok c) ↔ 0 ≤ d.year ∧ d.year ≤ 9999) ∧
        ∀ c, timeSync now (some i.text) = .ok c → c = .timeSync i.text) ∧
    (∀ text c, timeSync now (some text) = .ok c →
      ∃ t stamp d, Written t (Text.trim text.toList) ∧ c = .timeSync stamp ∧ d.Exists ∧
        (∀ days, Date.Counts days → days d = minutesBy days t / 1440) ∧
        (0 ≤ d.year ∧ d.year ≤ 9999 → timeSync now (some stamp) = .ok c) ∧
        (¬ (0 ≤ d.year ∧ d.year ≤ 9999) →
          timeSync now (some stamp) = .error (.timestamp stamp .invalid))) := by
  constructor
  · intro seconds nanos i h
    obtain ⟨hi, hregular⟩ := Instant.eq_of_ofUnix? h
    have hdays : ∀ days, Date.Counts days → days i.fields.date = seconds / 86400 := by
      intro days hdays
      rw [days_date hdays, hi]
    exact ⟨i.fields.date, Date.exists_ofDayNumber _, hdays, timeSync_text_accepted_iff hregular now,
      fun c hc => eq_setClock_of_timeSync_text hregular hc⟩
  · intro text c h
    obtain ⟨t, ht, hc⟩ := timeSync_eq_ok_iff.mp h
    have hagain := timeSync_text (regular_instant ht) now
    refine ⟨t, t.instant.text, t.instant.fields.date, ht, hc, Date.exists_ofDayNumber _, ?_, ?_, ?_⟩
    · intro days hdays
      have hminutes := minutes_instant t
      rw [Instant.minutes_fields, ← ht.minutesBy_eq hdays] at hminutes
      rw [days_date hdays, ← hminutes]
      omega
    · intro hplain
      rw [hagain, if_pos hplain, hc]
    · intro hfar
      rw [hagain, if_neg hfar]

/-- The first minute of the year zero, a minute ahead of universal time, is in the year before. -/
example : timeSync ⟨0, 0⟩ (some "0000-01-01T00:00:00+00:01") =
      .ok (.timeSync "-0001-12-31T23:59:00.000Z") ∧
    timeSync ⟨0, 0⟩ (some "-0001-12-31T23:59:00.000Z") =
      .error (.timestamp "-0001-12-31T23:59:00.000Z" .invalid) := by decide +kernel

end Steward.Client
