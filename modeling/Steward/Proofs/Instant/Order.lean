import Steward.Proofs.Instant.Denotation
import Steward.Proofs.Text.Order

/-!
# Timestamps sort as time

The units of a date and time are written from the largest to the smallest, each on a fixed number of
places, so texts with years of four digits sort by their bytes. This file says that they sort as the
instants they are the texts of.

* `Date.compare_dates` -- year, month and day compare as the number of the day.
* `TimeFields.compare_ranks` -- and the units of a time of day as its place in the day.
* `Shown.compare_eq` -- texts compare as their units do, the larger ones first.
* `Instant.before_iff` -- and so do instants, of which the sixtieth second of a minute is a longer
  fifty-ninth.
* `Instant.texts_sort` -- so texts compare as instants.
-/

namespace Steward

open Decimal
open Utf8 (encode encodeChars)

/-! ## 1. Dates and times of day -/

namespace Date

/-- Of two dates the year decides first, then the month, then the day. -/
theorem earlier_iff {d d' : Date} : d.Earlier d' ↔ d.year < d'.year ∨ d.year = d'.year ∧
    (d.month < d'.month ∨ d.month = d'.month ∧ d.day < d'.day) := by
  constructor
  · intro h
    cases h with
    | year h => exact Or.inl h
    | month hyear h => exact Or.inr ⟨hyear, Or.inl h⟩
    | day hyear hmonth h => exact Or.inr ⟨hyear, Or.inr ⟨hmonth, h⟩⟩
  · intro h
    rcases h with h | ⟨hyear, h | ⟨hmonth, h⟩⟩
    · exact .year h
    · exact .month hyear h
    · exact .day hyear hmonth h

/-- **Dates compare as the numbers of their days.** -/
theorem compare_dates {d d' : Date} (hd : d.Exists) (hd' : d'.Exists) :
    (compare d.year d'.year).then ((compare d.month d'.month).then (compare d.day d'.day)) =
      compare d.dayNumber d'.dayNumber := by
  refine eq_of_lt_of_gt ?_ ?_
  · simp only [Ordering.then_eq_lt, Int.compare_eq_lt, Int.compare_eq_eq, Nat.compare_eq_lt,
      Nat.compare_eq_eq]
    rw [dayNumber_lt_iff hd hd', earlier_iff]
  · simp only [Ordering.then_eq_gt, Int.compare_eq_gt, Int.compare_eq_eq, Nat.compare_eq_gt,
      Nat.compare_eq_eq]
    rw [dayNumber_lt_iff hd' hd, earlier_iff, eq_comm, @eq_comm Nat d.month]

end Date

namespace TimeFields

/-- The place of a time of day among all that a clock can show. -/
def rank (f : TimeFields) : Nat :=
  ((f.hour * 60 + f.minute) * 61 + f.second) * 1000 + f.millisecond

theorem compare_ranks {f f' : TimeFields} (h : f.Sound) (h' : f'.Sound) :
    (compare f.hour f'.hour).then ((compare f.minute f'.minute).then
      ((compare f.second f'.second).then (compare f.millisecond f'.millisecond))) =
      compare f.rank f'.rank := by
  rw [← Ordering.then_assoc, compare_places (Nat.lt_succ_of_le h.minute) (Nat.lt_succ_of_le h'.minute),
    ← Ordering.then_assoc, compare_places (Nat.lt_succ_of_le h.second) (Nat.lt_succ_of_le h'.second),
    compare_places (Nat.lt_succ_of_le h.millisecond) (Nat.lt_succ_of_le h'.millisecond)]
  rfl

theorem compare_natCast (m n : Nat) : compare (m : Int) (n : Int) = compare m n := by
  refine eq_of_lt_of_gt ?_ ?_
  · rw [Int.compare_eq_lt, Nat.compare_eq_lt, Int.ofNat_lt]
  · rw [Int.compare_eq_gt, Nat.compare_eq_gt, Int.ofNat_lt]

/-- **Texts with years of four digits compare as what they show**, the larger units first. -/
theorem Shown.compare_eq {f f' : TimeFields} {cs cs' : List Char} (h : Shown f cs)
    (h' : Shown f' cs') (hplain : 0 ≤ f.date.year ∧ f.date.year ≤ 9999)
    (hplain' : 0 ≤ f'.date.year ∧ f'.date.year ≤ 9999) :
    compare (encodeChars cs) (encodeChars cs') =
      (compare f.date.year f'.date.year).then ((compare f.date.month f'.date.month).then
        ((compare f.date.day f'.date.day).then ((compare f.hour f'.hour).then
          ((compare f.minute f'.minute).then ((compare f.second f'.second).then
            (compare f.millisecond f'.millisecond)))))) := by
  cases h with
  | mk hyear hmonth hday hhour hminute hsecond hmillisecond =>
    cases h' with
    | mk hyear' hmonth' hday' hhour' hminute' hsecond' hmillisecond' =>
      obtain ⟨n, hn, hyear⟩ := hyear.numeral hplain
      obtain ⟨n', hn', hyear'⟩ := hyear'.numeral hplain'
      simp only [List.append_assoc, List.cons_append]
      rw [compare_marked hyear hyear', compare_marked hmonth hmonth', compare_marked hday hday',
        compare_marked hhour hhour', compare_marked hminute hminute',
        compare_marked hsecond hsecond', compare_marked hmillisecond hmillisecond', hn, hn',
        compare_natCast, Utf8.encodeChars_nil, List.compare_nil_nil, Ordering.then_eq]

end TimeFields

/-! ## 2. Instants -/

namespace Instant

open Date TimeFields

/-- **The seconds and milliseconds of an instant, from its fields**: the sixtieth second of a minute is
    counted as a longer fifty-ninth. -/
theorem sums_fields {i : Instant} (h : i.Regular) :
    i.seconds = i.fields.date.dayNumber * 86400 + i.fields.hour * 3600 + i.fields.minute * 60 +
        (min i.fields.second 59 : Nat) ∧
      i.nanos / 1000000 = i.fields.millisecond + (if i.fields.second = 60 then 1000 else 0) := by
  have hminutes := minutes_fields i
  have hsecond := second_fields i
  have hmillisecond : i.fields.millisecond = i.nanos % 1000000000 / 1000000 := rfl
  obtain ⟨hnanos, hleap⟩ := h
  unfold TimeFields.minutes at hminutes
  unfold nanosPerSecond at hnanos hleap hsecond
  split
  · exact ⟨by omega, by omega⟩
  · exact ⟨by omega, by omega⟩

/-- **The earlier of two instants** is the one on an earlier day, and on one day the one at an earlier
    time of day. -/
theorem before_iff {i i' : Instant} (h : i.Regular) (h' : i'.Regular) :
    i.fields.date.dayNumber < i'.fields.date.dayNumber ∨
        i.fields.date.dayNumber = i'.fields.date.dayNumber ∧ i.fields.rank < i'.fields.rank ↔
      i.seconds < i'.seconds ∨ i.seconds = i'.seconds ∧ i.nanos / 1000000 < i'.nanos / 1000000 := by
  obtain ⟨hseconds, hmillis⟩ := sums_fields h
  obtain ⟨hseconds', hmillis'⟩ := sums_fields h'
  obtain ⟨-, hhour, hminute, hsecond, hmillisecond⟩ := sound_fields h
  obtain ⟨-, hhour', hminute', hsecond', hmillisecond'⟩ := sound_fields h'
  rw [hseconds, hseconds', hmillis, hmillis']
  unfold TimeFields.rank
  split
  all_goals
    split
    all_goals omega

theorem compare_days_ranks {i i' : Instant} (h : i.Regular) (h' : i'.Regular) :
    (compare i.fields.date.dayNumber i'.fields.date.dayNumber).then
        (compare i.fields.rank i'.fields.rank) =
      (compare i.seconds i'.seconds).then (compare (i.nanos / 1000000) (i'.nanos / 1000000)) := by
  refine eq_of_lt_of_gt ?_ ?_
  · simp only [Ordering.then_eq_lt, Int.compare_eq_lt, Int.compare_eq_eq, Nat.compare_eq_lt]
    exact before_iff h h'
  · simp only [Ordering.then_eq_gt, Int.compare_eq_gt, Int.compare_eq_eq, Nat.compare_eq_gt]
    rw [eq_comm, @eq_comm Int i.seconds]
    exact before_iff h' h

/-- **Texts of instants compare as the instants**, to the millisecond. -/
theorem compare_texts {i i' : Instant} (h : i.Regular) (h' : i'.Regular)
    (hplain : 0 ≤ i.fields.date.year ∧ i.fields.date.year ≤ 9999)
    (hplain' : 0 ≤ i'.fields.date.year ∧ i'.fields.date.year ≤ 9999) :
    compare (encode i.text) (encode i'.text) =
      (compare i.seconds i'.seconds).then (compare (i.nanos / 1000000) (i'.nanos / 1000000)) := by
  have hsound := sound_fields h
  have hsound' := sound_fields h'
  have hbytes : ∀ i : Instant, encode i.text = encodeChars i.fields.chars := by
    intro i
    rw [encode, text, String.toList_ofList]
  rw [hbytes, hbytes, (shown_chars hsound).compare_eq (shown_chars hsound') hplain hplain',
    compare_ranks hsound hsound', ← compare_days_ranks h h',
    ← compare_dates hsound.date hsound'.date, Ordering.then_assoc, Ordering.then_assoc]

/-- **Texts of two instants are the same** exactly when the instants agree to the millisecond. -/
theorem text_eq_iff {i i' : Instant} (h : i.Regular) (h' : i'.Regular)
    (hplain : 0 ≤ i.fields.date.year ∧ i.fields.date.year ≤ 9999)
    (hplain' : 0 ≤ i'.fields.date.year ∧ i'.fields.date.year ≤ 9999) :
    i.text = i'.text ↔ i.seconds = i'.seconds ∧ i.nanos / 1000000 = i'.nanos / 1000000 := by
  have hbytes : i.text = i'.text ↔ encode i.text = encode i'.text := by
    refine ⟨congrArg encode, fun heq => ?_⟩
    have hread := congrArg Utf8.decodeLossy heq
    rwa [Utf8.decodeLossy_encode, Utf8.decodeLossy_encode] at hread
  rw [hbytes, ← Std.compare_eq_iff_eq, compare_texts h h' hplain hplain', Ordering.then_eq_eq,
    Int.compare_eq_eq, Nat.compare_eq_eq]

/-- **Timestamps sort as time.** Compared byte by byte, the texts of two instants whose years have
    four digits come in the order of their seconds, and within one second of their milliseconds. So
    they are the same exactly when the instants agree to the millisecond; and a leap second comes
    behind all other seconds of its minute and before the next minute. -/
theorem texts_sort {seconds seconds' : Int} {nanos nanos' : Nat} {i i' : Instant} {d d' : Date}
    (h : ofUnix? seconds nanos = some i) (h' : ofUnix? seconds' nanos' = some i')
    (hd : DateOf seconds d) (hd' : DateOf seconds' d') (hyear : 0 ≤ d.year ∧ d.year ≤ 9999)
    (hyear' : 0 ≤ d'.year ∧ d'.year ≤ 9999) :
    compare (encode i.text) (encode i'.text) =
        (compare seconds seconds').then (compare (nanos / 1000000) (nanos' / 1000000)) ∧
      (i.text = i'.text ↔ seconds = seconds' ∧ nanos / 1000000 = nanos' / 1000000) ∧
      (1000000000 ≤ nanos →
        (seconds' / 60 = seconds / 60 → nanos' < 1000000000 →
          compare (encode i'.text) (encode i.text) = .lt) ∧
        (seconds / 60 < seconds' / 60 → compare (encode i.text) (encode i'.text) = .lt)) := by
  obtain ⟨rfl, hregular⟩ := eq_of_ofUnix? h
  obtain ⟨rfl, hregular'⟩ := eq_of_ofUnix? h'
  obtain rfl := dateOf_iff.mp hd
  obtain rfl := dateOf_iff.mp hd'
  have hcompare : compare (encode (text ⟨seconds, nanos⟩)) (encode (text ⟨seconds', nanos'⟩)) =
      (compare seconds seconds').then (compare (nanos / 1000000) (nanos' / 1000000)) :=
    compare_texts hregular hregular' hyear hyear'
  have hback : compare (encode (text ⟨seconds', nanos'⟩)) (encode (text ⟨seconds, nanos⟩)) =
      (compare seconds' seconds).then (compare (nanos' / 1000000) (nanos / 1000000)) :=
    compare_texts hregular' hregular hyear' hyear
  refine ⟨hcompare, text_eq_iff hregular hregular' hyear hyear', fun hlong => ?_⟩
  have hlast : seconds % 60 = 59 := hregular.2 hlong
  constructor
  · intro hminute hshort
    rw [hback, Ordering.then_eq_lt, Int.compare_eq_lt, Int.compare_eq_eq, Nat.compare_eq_lt]
    omega
  · intro hminute
    rw [hcompare, Ordering.then_eq_lt, Int.compare_eq_lt, Int.compare_eq_eq, Nat.compare_eq_lt]
    omega

/-- The last leap second so far, and the second that followed it. -/
theorem texts_sort_leap :
    (ofUnix? 1483228799 1999999999 = some ⟨1483228799, 1999999999⟩ ∧
      ofUnix? 1483228800 0 = some ⟨1483228800, 0⟩ ∧ DateOf 1483228799 ⟨2016, 12, 31⟩ ∧
      DateOf 1483228800 ⟨2017, 1, 1⟩) ∧
    compare (encode "2016-12-31T23:59:60.999Z") (encode "2017-01-01T00:00:00.000Z") = .lt := by
  have h : ofUnix? 1483228799 1999999999 = some ⟨1483228799, 1999999999⟩ := by decide
  have h' : ofUnix? 1483228800 0 = some ⟨1483228800, 0⟩ := by decide
  have hd : DateOf 1483228799 ⟨2016, 12, 31⟩ := dateOf_iff.mpr (by decide)
  have hd' : DateOf 1483228800 ⟨2017, 1, 1⟩ := dateOf_iff.mpr (by decide)
  have hsort := texts_sort h h' hd hd' (by decide) (by decide)
  have htext : Instant.text ⟨1483228799, 1999999999⟩ = "2016-12-31T23:59:60.999Z" := by decide
  have htext' : Instant.text ⟨1483228800, 0⟩ = "2017-01-01T00:00:00.000Z" := by decide
  rw [htext, htext'] at hsort
  exact ⟨⟨h, h', hd, hd'⟩, (hsort.2.2 (by decide)).2 (by decide)⟩

end Instant

end Steward
