import Steward.Instant
import Steward.Proofs.Calendar
import Steward.Proofs.Text.Decimal

/-!
# An instant as a date and a time

* `TimeFields.Sound` -- fields that a clock can show; `Instant.sound_fields` says that those of an
  instant are.
* `Shown` -- the characters that show some fields, with `YearText` for the year; `shown_chars` says
  that the ones that are written do, and `Shown.unique` that characters show one thing at most.
* `Shown.stamp` -- these characters are digits and a few marks; `Shown.length_eq` and
  `Shown.lt_length` say how many they are.
* `chars_eq_iff` -- two texts are the same exactly when the minutes, the second and the millisecond
  are.
* `Instant.minutes_fields`, `Instant.second_fields` -- the fields of an instant add up to it.
-/

namespace Steward

open Decimal

namespace TimeFields

/-! ## 1. Fields -/

/-- **Fields that a clock can show**: a date that exists, and a time of day. A minute may have a
    second numbered sixty. -/
structure Sound (f : TimeFields) : Prop where
  date : f.date.Exists
  hour : f.hour ≤ 23
  minute : f.minute ≤ 59
  second : f.second ≤ 60
  millisecond : f.millisecond ≤ 999

/-- The minutes that have passed since 1970-01-01 began. -/
def minutes (f : TimeFields) : Int := f.date.dayNumber * 1440 + f.hour * 60 + f.minute

/-- **Fields that a clock can show are determined** by their minutes, second and millisecond. -/
theorem Sound.ext {f f' : TimeFields} (h : f.Sound) (h' : f'.Sound)
    (hminutes : f.minutes = f'.minutes) (hsecond : f.second = f'.second)
    (hmillisecond : f.millisecond = f'.millisecond) : f = f' := by
  obtain ⟨hdate, hh, hm, -, -⟩ := h
  obtain ⟨hdate', hh', hm', -, -⟩ := h'
  unfold minutes at hminutes
  have hday : f.date = f'.date := Date.dayNumber_inj hdate hdate' (by omega)
  have hhour : f.hour = f'.hour := by omega
  have hminute : f.minute = f'.minute := by omega
  cases f
  cases f'
  simp_all

/-! ## 2. Texts -/

/-- **How a year is written**: with four digits, or with a sign and at least four digits when it has
    more of them or is before the year zero. -/
inductive YearText : Int → List Char → Prop
  | plain {year : Nat} {cs : List Char} (h : Numeral 4 year cs) : YearText year cs
  | late {places year : Nat} {cs : List Char} (hplaces : 4 ≤ places) (h : Numeral places year cs)
      (hlate : 9999 < year) : YearText year ('+' :: cs)
  | early {places year : Nat} {cs : List Char} (hplaces : 4 ≤ places)
      (h : Numeral places year cs) (hearly : 0 < year) : YearText (-year) ('-' :: cs)

/-- **How fields are written**: `YYYY-MM-DDTHH:MM:SS.mmmZ`, but for the year. -/
inductive Shown (f : TimeFields) : List Char → Prop
  | mk {years months days hours minutes seconds milliseconds : List Char}
      (hyear : YearText f.date.year years) (hmonth : Numeral 2 f.date.month months)
      (hday : Numeral 2 f.date.day days) (hhour : Numeral 2 f.hour hours)
      (hminute : Numeral 2 f.minute minutes) (hsecond : Numeral 2 f.second seconds)
      (hmillisecond : Numeral 3 f.millisecond milliseconds) :
      Shown f (years ++ '-' :: months ++ '-' :: days ++ 'T' :: hours ++ ':' :: minutes
        ++ ':' :: seconds ++ '.' :: milliseconds ++ ['Z'])

theorem yearText_yearText (year : Int) : YearText year (yearText year) := by
  unfold yearText
  split
  · rename_i hplain
    have hyear : year = (year.toNat : Int) := (Int.toNat_of_nonneg hplain.1).symm
    rw [hyear]
    exact .plain (numeral_fixed (by omega))
  · rename_i hfar
    obtain ⟨places, hplaces, hnumeral⟩ := numeral_padded 4 year.natAbs
    by_cases hearly : year < 0
    · have hyear : year = -(year.natAbs : Int) := by omega
      rw [if_pos hearly, hyear, Int.natAbs_neg, Int.natAbs_natCast]
      exact .early hplaces hnumeral (by omega)
    · have hyear : year = (year.natAbs : Int) := by omega
      rw [if_neg hearly, hyear, Int.natAbs_natCast]
      exact .late hplaces hnumeral (by omega)

/-- **What is written shows the fields.** -/
theorem shown_chars {f : TimeFields} (h : f.Sound) : Shown f f.chars := by
  obtain ⟨⟨-, hmonth, -, hday⟩, hhour, hminute, hsecond, hmillisecond⟩ := h
  have hthirty : daysInMonth f.date.year f.date.month ≤ 31 := by
    unfold daysInMonth
    split
    · split <;> omega
    all_goals omega
  exact .mk (yearText_yearText _) (numeral_fixed (by omega)) (numeral_fixed (by omega))
    (numeral_fixed (by omega)) (numeral_fixed (by omega)) (numeral_fixed (by omega))
    (numeral_fixed (by omega))

/-- A year of four digits is written with them. -/
theorem YearText.numeral {year : Int} {cs : List Char} (h : YearText year cs)
    (hplain : 0 ≤ year ∧ year ≤ 9999) : ∃ n : Nat, year = n ∧ Numeral 4 n cs := by
  cases h with
  | @plain n _ h => exact ⟨n, rfl, h⟩
  | late _ _ hlate => omega
  | early _ _ hearly => omega

/-- Any other year is written with a sign. -/
theorem YearText.signed {year : Int} {cs : List Char} (h : YearText year cs)
    (hfar : ¬ (0 ≤ year ∧ year ≤ 9999)) :
    ∃ sign digits, cs = sign :: digits ∧ (sign = '+' ∨ sign = '-') := by
  cases h with
  | plain h =>
    have hlt := h.lt
    omega
  | late _ _ _ => exact ⟨'+', _, rfl, Or.inl rfl⟩
  | early _ _ _ => exact ⟨'-', _, rfl, Or.inr rfl⟩

theorem YearText.four_le {year : Int} {cs : List Char} (h : YearText year cs) : 4 ≤ cs.length := by
  cases h with
  | plain h => exact Nat.le_of_eq h.1.symm
  | late hplaces h _ => exact Nat.le_succ_of_le (h.1 ▸ hplaces)
  | early hplaces h _ => exact Nat.le_succ_of_le (h.1 ▸ hplaces)

/-- With a sign it takes more. -/
theorem YearText.five_le {year : Int} {cs : List Char} (h : YearText year cs)
    (hfar : ¬ (0 ≤ year ∧ year ≤ 9999)) : 5 ≤ cs.length := by
  cases h with
  | plain h =>
    have hlt := h.lt
    omega
  | late hplaces h _ => exact Nat.succ_le_succ (h.1 ▸ hplaces)
  | early hplaces h _ => exact Nat.succ_le_succ (h.1 ▸ hplaces)

/-- All that stands behind the year takes twenty places. -/
theorem Shown.exists_length {f : TimeFields} {cs : List Char} (h : Shown f cs) :
    ∃ years, YearText f.date.year years ∧ cs.length = years.length + 20 := by
  cases h with
  | mk hyear hmonth hday hhour hminute hsecond hmillisecond =>
    refine ⟨_, hyear, ?_⟩
    simp only [List.length_append, List.length_cons, List.length_nil, hmonth.1, hday.1, hhour.1,
      hminute.1, hsecond.1, hmillisecond.1]

/-- A year of four digits leaves twenty-four places in all, -/
theorem Shown.length_eq {f : TimeFields} {cs : List Char} (h : Shown f cs)
    (hplain : 0 ≤ f.date.year ∧ f.date.year ≤ 9999) : cs.length = 24 := by
  obtain ⟨years, hyear, hlength⟩ := h.exists_length
  obtain ⟨n, -, hnumeral⟩ := hyear.numeral hplain
  rw [hlength, hnumeral.1]

/-- and any other year more. -/
theorem Shown.lt_length {f : TimeFields} {cs : List Char} (h : Shown f cs)
    (hfar : ¬ (0 ≤ f.date.year ∧ f.date.year ≤ 9999)) : 24 < cs.length := by
  obtain ⟨years, hyear, hlength⟩ := h.exists_length
  have hfive := hyear.five_le hfar
  omega

/-- The last of them is for universal time. -/
theorem Shown.getLast?_eq {f : TimeFields} {cs : List Char} (h : Shown f cs) :
    cs.getLast? = some 'Z' := by
  cases h with
  | mk => exact List.getLast?_concat

/-! ## 3. Their characters -/

/-- The characters of dates and times that are no digits. -/
def marks : List Char := ['+', '-', 'T', ':', '.', 'Z']

/-- **The characters of dates and times**: digits and marks. -/
def Stamp (cs : List Char) : Prop :=
  ∀ c ∈ cs, (0x30 ≤ c.toNat ∧ c.toNat ≤ 0x39) ∨ c ∈ marks

theorem stamp_of_numeral {w n : Nat} {cs : List Char} (h : Numeral w n cs) : Stamp cs :=
  fun c hc => Or.inl (h.digit c hc)

theorem stamp_cons {c : Char} {cs : List Char} (hc : c ∈ marks) (h : Stamp cs) :
    Stamp (c :: cs) := List.forall_mem_cons.mpr ⟨Or.inr hc, h⟩

theorem Stamp.append {cs cs' : List Char} (h : Stamp cs) (h' : Stamp cs') : Stamp (cs ++ cs') :=
  List.forall_mem_append.mpr ⟨h, h'⟩

theorem YearText.stamp {year : Int} {cs : List Char} (h : YearText year cs) : Stamp cs := by
  cases h with
  | plain h => exact stamp_of_numeral h
  | late _ h _ => exact stamp_cons (by decide) (stamp_of_numeral h)
  | early _ h _ => exact stamp_cons (by decide) (stamp_of_numeral h)

theorem Shown.stamp {f : TimeFields} {cs : List Char} (h : Shown f cs) : Stamp cs := by
  have hmark : ∀ {c w n cs}, c ∈ marks → Numeral w n cs → Stamp (c :: cs) :=
    fun hc h => stamp_cons hc (stamp_of_numeral h)
  cases h with
  | mk hyear hmonth hday hhour hminute hsecond hmillisecond =>
    have hdate := (hyear.stamp.append (hmark (c := '-') (by decide) hmonth)).append
      (hmark (c := '-') (by decide) hday)
    have htime := ((hdate.append (hmark (c := 'T') (by decide) hhour)).append
      (hmark (c := ':') (by decide) hminute)).append (hmark (c := ':') (by decide) hsecond)
    have hall := htime.append (hmark (c := '.') (by decide) hmillisecond)
    exact hall.append (stamp_cons (by decide) fun _ hc => absurd hc List.not_mem_nil)

/-! ## 4. Reading them off -/

/-- A sign is no digit. -/
theorem not_numeral_sign {w n : Nat} {c : Char} {cs : List Char} (hc : c = '+' ∨ c = '-') :
    ¬ Numeral w n (c :: cs) := by
  intro h
  have hdigit := h.digit c List.mem_cons_self
  rcases hc with rfl | rfl
  · exact absurd hdigit.1 (by decide)
  · exact absurd hdigit.1 (by decide)

theorem YearText.unique {year year' : Int} {cs : List Char} (h : YearText year cs)
    (h' : YearText year' cs) : year = year' := by
  cases h with
  | plain h =>
    cases h' with
    | plain h' => rw [h.unique h']
    | late => exact absurd h (not_numeral_sign (Or.inl rfl))
    | early => exact absurd h (not_numeral_sign (Or.inr rfl))
  | late _ h _ =>
    cases h' with
    | plain h' => exact absurd h' (not_numeral_sign (Or.inl rfl))
    | late _ h' _ => rw [h.unique h']
  | early _ h _ =>
    cases h' with
    | plain h' => exact absurd h' (not_numeral_sign (Or.inr rfl))
    | early _ h' _ => rw [h.unique h']

/-- Two texts that end in a mark and numerals of one width have the same number there, and the same
    text before the mark. -/
theorem eq_of_numerals {w n n' : Nat} {c : Char} {front front' cs cs' : List Char}
    (h : Numeral w n cs) (h' : Numeral w n' cs') (heq : front ++ c :: cs = front' ++ c :: cs') :
    n = n' ∧ front = front' := by
  have hlength : (c :: cs).length = (c :: cs').length := by
    rw [List.length_cons, List.length_cons, h.1, h'.1]
  obtain ⟨hfront, hcs⟩ := List.append_inj' heq hlength
  rw [(List.cons.inj hcs).2] at h
  exact ⟨h.unique h', hfront⟩

theorem Shown.eq_of_eq {f f' : TimeFields} {cs cs' : List Char} (h : Shown f cs)
    (h' : Shown f' cs') (heq : cs = cs') : f = f' := by
  cases h with
  | mk hyear hmonth hday hhour hminute hsecond hmillisecond =>
    cases h' with
    | mk hyear' hmonth' hday' hhour' hminute' hsecond' hmillisecond' =>
      -- all that stands behind the year has a fixed width, so it comes off from the end
      obtain ⟨hms, heq⟩ := eq_of_numerals hmillisecond hmillisecond' (List.append_cancel_right heq)
      obtain ⟨hs, heq⟩ := eq_of_numerals hsecond hsecond' heq
      obtain ⟨hmin, heq⟩ := eq_of_numerals hminute hminute' heq
      obtain ⟨hh, heq⟩ := eq_of_numerals hhour hhour' heq
      obtain ⟨hd, heq⟩ := eq_of_numerals hday hday' heq
      obtain ⟨hm, heq⟩ := eq_of_numerals hmonth hmonth' heq
      rw [heq] at hyear
      have hy := hyear.unique hyear'
      obtain ⟨⟨year, month, day⟩, hour, minute, second, millisecond⟩ := f
      obtain ⟨⟨year', month', day'⟩, hour', minute', second', millisecond'⟩ := f'
      simp_all

/-- **Characters show one thing at most.** -/
theorem Shown.unique {f f' : TimeFields} {cs : List Char} (h : Shown f cs) (h' : Shown f' cs) :
    f = f' := h.eq_of_eq h' rfl

/-- **Two texts are the same exactly when they show the same thing.** -/
theorem chars_eq_iff {f f' : TimeFields} (h : f.Sound) (h' : f'.Sound) :
    f.chars = f'.chars ↔ f.minutes = f'.minutes ∧ f.second = f'.second ∧
      f.millisecond = f'.millisecond := by
  constructor
  · intro heq
    have hsame : f = f' := (shown_chars h).eq_of_eq (shown_chars h') heq
    rw [hsame]
    exact ⟨rfl, rfl, rfl⟩
  · intro ⟨hminutes, hsecond, hmillisecond⟩
    rw [h.ext h' hminutes hsecond hmillisecond]

end TimeFields

namespace Instant

/-! ## 5. Instants -/

/-- **The minutes of an instant.** -/
theorem minutes_fields (i : Instant) : i.fields.minutes = i.seconds / 60 := by
  simp only [fields, TimeFields.minutes, Date.dayNumber_ofDayNumber, dayNumber, secondOfDay,
    secondsPerDay]
  omega

/-- **The second of an instant**, or the next one if it is a leap second. -/
theorem second_fields (i : Instant) :
    (i.fields.second : Int) = i.seconds % 60 + (i.nanos / nanosPerSecond : Nat) := by
  simp only [fields, secondOfDay, secondsPerDay]
  omega

/-- Whether the nanoseconds of an instant stay within a second, or within the leap second that may
    follow the last second of a minute. -/
def Regular (i : Instant) : Prop :=
  i.nanos < 2 * nanosPerSecond ∧ (nanosPerSecond ≤ i.nanos → i.seconds % 60 = 59)

/-- The instant of a number of seconds and nanoseconds is regular. -/
theorem eq_of_ofUnix? {seconds : Int} {nanos : Nat} {i : Instant}
    (h : ofUnix? seconds nanos = some i) : i = ⟨seconds, nanos⟩ ∧ i.Regular := by
  unfold ofUnix? at h
  split at h
  · rename_i hrepresentable
    rw [← Option.some.inj h]
    exact ⟨rfl, hrepresentable.1, hrepresentable.2.1⟩
  · cases h

/-- **The fields of an instant are such as a clock can show.** -/
theorem sound_fields {i : Instant} (h : i.Regular) : i.fields.Sound := by
  obtain ⟨hnanos, hleap⟩ := h
  have hsecond := second_fields i
  unfold nanosPerSecond at *
  refine ⟨Date.exists_ofDayNumber _, ?_, ?_, by omega, ?_⟩
  · simp only [fields, secondOfDay, secondsPerDay]
    omega
  · simp only [fields]
    omega
  · simp only [fields, nanosPerSecond]
    omega

end Instant

end Steward
