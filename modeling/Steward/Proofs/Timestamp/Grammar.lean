import Steward.Proofs.Except
import Steward.Proofs.Text.Decimal
import Steward.Timestamp

/-!
# What a timestamp looks like

Timestamps are read in stages, and each stage takes characters from the front. This file says what
the characters of a timestamp are, without reading them.

* `Written` -- the form of a timestamp: `DateText`, a separator, `ClockText`, `FractionText` and
  `OffsetText`, with nothing behind them.
* `readDate_eq_ok_iff`, `readClock_eq_ok_iff` -- the date and the time of day are taken exactly
  where they are written.
* `fractionText_of_readFraction` and `readFraction_append`, `offsetText_of_readOffset` and
  `readOffset_append` -- so are the fraction and the offset, in two lemmas each.
* `read_eq_ok_iff` -- so a text is read as a timestamp exactly when it is written in its form.
* `Written.eq_nil_of_append` -- and no such text is a first part of another one.
-/

namespace Steward.Timestamp

open Decimal

/-! ## 1. The form -/

/-- `YYYY-MM-DD`, a date that exists. -/
inductive DateText : Date → List Char → Prop
  | mk {year month day : Nat} {years months days : List Char} (hyear : Numeral 4 year years)
      (hmonth : Numeral 2 month months) (hday : Numeral 2 day days)
      (hexists : Date.Exists ⟨year, month, day⟩) :
      DateText ⟨year, month, day⟩ (years ++ '-' :: months ++ '-' :: days)

/-- `HH:MM:SS`. -/
inductive ClockText : (hour minute second : Nat) → List Char → Prop
  | mk {hour minute second : Nat} {hours minutes seconds : List Char}
      (hhour : Numeral 2 hour hours) (hminute : Numeral 2 minute minutes)
      (hsecond : Numeral 2 second seconds) :
      ClockText hour minute second (hours ++ ':' :: minutes ++ ':' :: seconds)

/-- Nothing, or a point and one or more digits. -/
inductive FractionText : (digits : List Nat) → List Char → Prop
  | absent : FractionText [] []
  | digits {digits : List Nat} {cs : List Char} (h : Spells cs digits) (hsome : digits ≠ []) :
      FractionText digits ('.' :: cs)

/-- `Z`, or a sign and `HH:MM`, the offset in minutes. -/
inductive OffsetText : (offset : Int) → List Char → Prop
  | universal {mark : Char} (hmark : mark = 'Z' ∨ mark = 'z') : OffsetText 0 [mark]
  | ahead {hour minute : Nat} {hours minutes : List Char} (hhour : Numeral 2 hour hours)
      (hminute : Numeral 2 minute minutes) (hday : hour ≤ 23) (hhours : minute ≤ 59) :
      OffsetText (hour * 60 + minute) ('+' :: hours ++ ':' :: minutes)
  | behind {sign : Char} {hour minute : Nat} {hours minutes : List Char}
      (hsign : sign ∈ minusSigns) (hhour : Numeral 2 hour hours)
      (hminute : Numeral 2 minute minutes) (hday : hour ≤ 23) (hhours : minute ≤ 59) :
      OffsetText (-(hour * 60 + minute)) (sign :: hours ++ ':' :: minutes)

/-- **How a timestamp is written.** -/
inductive Written (t : Timestamp) : List Char → Prop
  | mk {date clock fraction offset : List Char} {separator : Char} (hdate : DateText t.date date)
      (hseparator : separator ∈ ['T', 't', ' '])
      (hclock : ClockText t.hour t.minute t.second clock)
      (hfraction : FractionText t.fraction fraction) (hoffset : OffsetText t.offset offset)
      (hhour : t.hour ≤ 23) (hminute : t.minute ≤ 59) (hsecond : t.second ≤ 60) :
      Written t (date ++ separator :: clock ++ fraction ++ offset)

/-! ## 2. Numbers and marks -/

theorem readNumber_eq_ok_iff {w n : Nat} {cs rest : List Char} :
    readNumber w cs = .ok (n, rest) ↔ ∃ front, cs = front ++ rest ∧ Numeral w n front := by
  constructor
  · intro h
    unfold readNumber at h
    split at h
    · rename_i hlength
      split at h
      · rename_i digits hdigits
        obtain ⟨hvalue, hrest⟩ := Prod.mk.inj (Except.ok.inj h)
        refine ⟨cs.take w, ?_, List.length_take_of_le hlength, digits, ?_, hvalue⟩
        · rw [← hrest, List.take_append_drop]
        · exact mapM_digit?_eq_some_iff.mp hdigits
      · cases h
    · cases h
  · intro ⟨front, hcs, hlength, digits, hdigits, hvalue⟩
    have hfits : w ≤ (front ++ rest).length := by
      rw [List.length_append]
      omega
    rw [hcs, readNumber, if_pos hfits, List.take_left' hlength, List.drop_left' hlength,
      mapM_digit?_eq_some_iff.mpr hdigits]
    simp only [hvalue]

theorem readMark_eq_ok_iff {allowed : List Char} {c : Char} {cs rest : List Char} :
    readMark allowed cs = .ok (c, rest) ↔ cs = c :: rest ∧ c ∈ allowed := by
  cases cs with
  | nil => exact iff_of_false nofun nofun
  | cons c' cs =>
    rw [readMark, List.cons.injEq]
    constructor
    · intro h
      split at h
      · rename_i hmem
        obtain ⟨rfl, rfl⟩ := Prod.mk.inj (Except.ok.inj h)
        exact ⟨⟨rfl, rfl⟩, hmem⟩
      · cases h
    · intro ⟨⟨hc, hcs⟩, hmem⟩
      rw [hc, hcs, if_pos hmem]

theorem readMarkOrEnd_eq_ok_iff {allowed : List Char} {c : Char} {cs rest : List Char} :
    readMarkOrEnd allowed cs = .ok (c, rest) ↔ cs = c :: rest ∧ c ∈ allowed := by
  cases cs with
  | nil => exact iff_of_false nofun nofun
  | cons c' cs =>
    have hsame : readMarkOrEnd allowed (c' :: cs) = readMark allowed (c' :: cs) := by
      rw [readMarkOrEnd]
      exact nofun
    rw [hsame, readMark_eq_ok_iff]

/-- A character takes at least one byte. -/
theorem length_le_size (cs : List Char) : cs.length ≤ Utf8.size cs := by
  induction cs with
  | nil => exact Nat.le_refl 0
  | cons c cs ih =>
    have hone : 1 ≤ (Utf8.encodeChar c).length := by
      unfold Utf8.encodeChar
      simp only []
      split
      · simp
      · split
        · simp
        · split <;> simp
    unfold Utf8.size at ih ⊢
    rw [Utf8.encodeChars_cons, List.length_append, List.length_cons]
    omega

theorem readTwoDigitsOrEnd_eq_ok_iff {n : Nat} {cs rest : List Char} :
    readTwoDigitsOrEnd cs = .ok (n, rest) ↔ ∃ front, cs = front ++ rest ∧ Numeral 2 n front := by
  rw [← readNumber_eq_ok_iff, readTwoDigitsOrEnd]
  split
  · rename_i hshort
    -- with less than two characters there are no two digits
    refine iff_of_false nofun fun h => ?_
    obtain ⟨front, hcs, hlength, -⟩ := readNumber_eq_ok_iff.mp h
    have hsize := length_le_size cs
    rw [hcs, List.length_append] at hsize
    rw [hcs] at hshort
    omega
  · exact Iff.rfl

/-! ## 3. The stages -/

theorem readDate_eq_ok_iff {d : Date} {cs rest : List Char} :
    readDate cs = .ok (d, rest) ↔ ∃ front, cs = front ++ rest ∧ DateText d front := by
  simp only [readDate, bind_eq_ok_iff, Prod.exists, readNumber_eq_ok_iff, readMark_eq_ok_iff]
  constructor
  · intro ⟨year, _, ⟨years, hcs, hyear⟩, dash, _, ⟨hcs₁, hdash⟩, month, _, ⟨months, hcs₂, hmonth⟩,
      dash', _, ⟨hcs₃, hdash'⟩, day, _, ⟨days, hcs₄, hday⟩, h⟩
    split at h
    · rename_i hexists
      obtain ⟨rfl, rfl⟩ := Prod.mk.inj (Except.ok.inj h)
      refine ⟨_, ?_, .mk hyear hmonth hday hexists⟩
      rw [hcs, hcs₁, hcs₂, hcs₃, hcs₄, List.mem_singleton.mp hdash, List.mem_singleton.mp hdash']
      simp
    · cases h
  · intro ⟨front, hcs, hdate⟩
    cases hdate with
    | @mk year month day years months days hyear hmonth hday hexists =>
      refine ⟨year, '-' :: months ++ '-' :: days ++ rest, ⟨years, ?_, hyear⟩, '-', _,
        ⟨rfl, by simp⟩, month, '-' :: days ++ rest, ⟨months, ?_, hmonth⟩, '-', _, ⟨rfl, by simp⟩,
        day, rest, ⟨days, rfl, hday⟩, if_pos hexists⟩
      · rw [hcs]
        simp
      · simp

theorem readClock_eq_ok_iff {hour minute second : Nat} {cs rest : List Char} :
    readClock cs = .ok ((hour, minute, second), rest) ↔
      ∃ front, cs = front ++ rest ∧ ClockText hour minute second front := by
  simp only [readClock, bind_eq_ok_iff, Prod.exists, readNumber_eq_ok_iff, readMark_eq_ok_iff]
  constructor
  · intro ⟨hour, _, ⟨hours, hcs, hhour⟩, colon, _, ⟨hcs₁, hcolon⟩, minute, _,
      ⟨minutes, hcs₂, hminute⟩, colon', _, ⟨hcs₃, hcolon'⟩, second, _,
      ⟨seconds, hcs₄, hsecond⟩, h⟩
    cases h
    refine ⟨_, ?_, .mk hhour hminute hsecond⟩
    rw [hcs, hcs₁, hcs₂, hcs₃, hcs₄, List.mem_singleton.mp hcolon, List.mem_singleton.mp hcolon']
    simp
  · intro ⟨front, hcs, hclock⟩
    cases hclock with
    | @mk hours minutes seconds hhour hminute hsecond =>
      refine ⟨hour, ':' :: minutes ++ ':' :: seconds ++ rest, ⟨hours, ?_, hhour⟩, ':', _,
        ⟨rfl, by simp⟩, minute, ':' :: seconds ++ rest, ⟨minutes, ?_, hminute⟩, ':', _,
        ⟨rfl, by simp⟩, second, rest, ⟨seconds, rfl, hsecond⟩, rfl⟩
      · rw [hcs]
        simp
      · simp

/-- **The digits that a text begins with**, all of them, and what comes behind them. -/
theorem leadingDigits_spec (cs : List Char) :
    ∃ front, cs = front ++ (leadingDigits cs).2 ∧ Spells front (leadingDigits cs).1 := by
  induction cs with
  | nil => exact ⟨[], rfl, .nil⟩
  | cons c cs ih =>
    rw [leadingDigits]
    split
    · rename_i d hd
      obtain ⟨front, hcs, hfront⟩ := ih
      refine ⟨c :: front, ?_, .cons (digit?_eq_some_iff.mp hd) hfront⟩
      exact congrArg (c :: ·) hcs
    · exact ⟨[], rfl, .nil⟩

theorem leadingDigits_append {front rest : List Char} {digits : List Nat}
    (h : Spells front digits) (hrest : ∀ c ∈ rest.head?, digit? c = none) :
    leadingDigits (front ++ rest) = (digits, rest) := by
  induction h with
  | nil =>
    cases rest with
    | nil => rfl
    | cons c rest =>
      have hc : digit? c = none := hrest c rfl
      simp only [List.nil_append, leadingDigits, hc]
  | cons hd _ ih => simp only [List.cons_append, leadingDigits, digit?_eq_some_iff.mpr hd, ih]

/-- Behind a point, all digits that follow are the fraction; there must be some. -/
theorem readFraction_point (cs : List Char) :
    readFraction ('.' :: cs) = .ok (leadingDigits cs) ∧ (leadingDigits cs).1 ≠ [] ∨
      (∃ e, readFraction ('.' :: cs) = .error e) ∧ (leadingDigits cs).1 = [] := by
  cases cs with
  | nil => exact Or.inr ⟨⟨.short, rfl⟩, rfl⟩
  | cons c cs =>
    cases h : leadingDigits (c :: cs) with
    | mk digits rest =>
      simp only [readFraction, h]
      cases digits with
      | nil => exact Or.inr ⟨⟨.invalid, rfl⟩, rfl⟩
      | cons d digits => exact Or.inl ⟨rfl, nofun⟩

theorem readFraction_absent {cs : List Char} (h : '.' ∉ cs.head?) :
    readFraction cs = .ok ([], cs) := by
  unfold readFraction
  split
  · exact absurd rfl h
  · rfl

theorem fractionText_of_readFraction {digits : List Nat} {cs rest : List Char}
    (h : readFraction cs = .ok (digits, rest)) :
    ∃ front, cs = front ++ rest ∧ FractionText digits front := by
  by_cases hpoint : '.' ∈ cs.head?
  · cases cs with
    | nil => cases hpoint
    | cons c cs =>
      obtain rfl : c = '.' := Option.some.inj hpoint
      obtain ⟨front, hcs, hfront⟩ := leadingDigits_spec cs
      rcases readFraction_point cs with ⟨hread, hsome⟩ | ⟨⟨e, hread⟩, -⟩
      · rw [h] at hread
        rw [← Except.ok.inj hread] at hcs hfront hsome
        exact ⟨'.' :: front, congrArg ('.' :: ·) hcs, .digits hfront hsome⟩
      · rw [h] at hread
        cases hread
  · rw [readFraction_absent hpoint] at h
    obtain ⟨rfl, rfl⟩ := Prod.mk.inj (Except.ok.inj h)
    exact ⟨[], rfl, .absent⟩

/-- A fraction is read to its last digit. -/
theorem readFraction_append {digits : List Nat} {front rest : List Char}
    (h : FractionText digits front)
    (hrest : ∀ c ∈ rest.head?, c ≠ '.' ∧ digit? c = none) :
    readFraction (front ++ rest) = .ok (digits, rest) := by
  cases h with
  | absent => exact readFraction_absent fun hpoint => (hrest '.' hpoint).1 rfl
  | @digits _ cs hspells hsome =>
    have hall := leadingDigits_append hspells fun c hc => (hrest c hc).2
    rcases readFraction_point (cs ++ rest) with ⟨hread, -⟩ | ⟨-, hnone⟩
    · rw [List.cons_append, hread, hall]
    · rw [hall] at hnone
      exact absurd hnone hsome

/-- An offset that was read and is less than a day is written as an offset. -/
theorem offsetText_of_readOffset {offset : Int} {cs rest : List Char}
    (h : readOffset cs = .ok (offset, rest)) (hday : offset.natAbs < 24 * 60) :
    ∃ front, cs = front ++ rest ∧ OffsetText offset front := by
  simp only [readOffset, bind_eq_ok_iff, Prod.exists, readMarkOrEnd_eq_ok_iff] at h
  obtain ⟨sign, _, ⟨hcs, hsign⟩, h⟩ := h
  split at h
  · rename_i hmark
    obtain ⟨rfl, rfl⟩ := Prod.mk.inj (Except.ok.inj h)
    exact ⟨[sign], hcs, .universal hmark⟩
  · rename_i hmark
    simp only [bind_eq_ok_iff, Prod.exists, readTwoDigitsOrEnd_eq_ok_iff,
      readMarkOrEnd_eq_ok_iff] at h
    obtain ⟨hour, _, ⟨hours, hcs₁, hhour⟩, colon, _, ⟨hcs₂, hcolon⟩, minute, _,
      ⟨minutes, hcs₃, hminute⟩, h⟩ := h
    split at h
    · cases h
    · rename_i hhours
      obtain ⟨hoffset, rfl⟩ := Prod.mk.inj (Except.ok.inj h)
      refine ⟨sign :: hours ++ ':' :: minutes, ?_, ?_⟩
      · rw [hcs, hcs₁, hcs₂, hcs₃, List.mem_singleton.mp hcolon]
        simp
      · by_cases hplus : sign = '+'
        · rw [if_pos hplus] at hoffset
          rw [hplus, ← hoffset]
          exact .ahead hhour hminute (by omega) (by omega)
        · rw [if_neg hplus] at hoffset
          have hminus : sign ∈ minusSigns := by
            simp only [List.mem_cons] at hsign
            simp only [not_or] at hmark
            rcases hsign with h | h | h | h
            · exact absurd h hmark.1
            · exact absurd h hmark.2
            · exact absurd h hplus
            · exact h
          rw [← hoffset]
          exact .behind hminus hhour hminute (by omega) (by omega)

/-- A sign and two numbers are read as an offset with that sign. -/
theorem readOffset_signed {sign : Char} {hour minute : Nat} {hours minutes : List Char}
    (hsign : sign ∈ '+' :: minusSigns) (hhour : Numeral 2 hour hours)
    (hminute : Numeral 2 minute minutes) (hhours : minute ≤ 59) (rest : List Char) :
    readOffset (sign :: hours ++ ':' :: minutes ++ rest) =
      .ok (if sign = '+' then (hour * 60 + minute : Int) else -(hour * 60 + minute), rest) := by
  have hmark : ¬ (sign = 'Z' ∨ sign = 'z') := by
    rintro (rfl | rfl)
    · exact absurd hsign (by decide)
    · exact absurd hsign (by decide)
  have hallowed : sign ∈ 'Z' :: 'z' :: '+' :: minusSigns :=
    List.mem_cons_of_mem _ (List.mem_cons_of_mem _ hsign)
  unfold readOffset
  refine bind_eq_ok_iff.mpr ⟨(sign, hours ++ ':' :: minutes ++ rest),
    readMarkOrEnd_eq_ok_iff.mpr ⟨by simp, hallowed⟩, ?_⟩
  simp only [if_neg hmark]
  refine bind_eq_ok_iff.mpr ⟨(hour, ':' :: minutes ++ rest),
    readTwoDigitsOrEnd_eq_ok_iff.mpr ⟨hours, by simp, hhour⟩, ?_⟩
  refine bind_eq_ok_iff.mpr ⟨(':', minutes ++ rest),
    readMarkOrEnd_eq_ok_iff.mpr ⟨rfl, by simp⟩, ?_⟩
  refine bind_eq_ok_iff.mpr ⟨(minute, rest),
    readTwoDigitsOrEnd_eq_ok_iff.mpr ⟨minutes, rfl, hminute⟩, ?_⟩
  exact if_neg (by omega)

theorem readOffset_append {offset : Int} {front : List Char} (h : OffsetText offset front)
    (rest : List Char) : readOffset (front ++ rest) = .ok (offset, rest) := by
  cases h with
  | @universal mark hmark =>
    have hallowed : mark ∈ 'Z' :: 'z' :: '+' :: minusSigns := by
      rcases hmark with rfl | rfl <;> decide
    exact bind_eq_ok_iff.mpr
      ⟨(mark, rest), readMarkOrEnd_eq_ok_iff.mpr ⟨rfl, hallowed⟩, if_pos hmark⟩
  | ahead hhour hminute _ hhours =>
    exact readOffset_signed List.mem_cons_self hhour hminute hhours rest
  | @behind sign _ _ _ _ hsign hhour hminute _ hhours =>
    have hplus : sign ≠ '+' := by
      rintro rfl
      exact absurd hsign (by decide)
    rw [readOffset_signed (List.mem_cons_of_mem _ hsign) hhour hminute hhours, if_neg hplus]

theorem OffsetText.natAbs_lt {offset : Int} {cs : List Char} (h : OffsetText offset cs) :
    offset.natAbs < 24 * 60 := by
  cases h with
  | universal _ => decide
  | ahead _ _ _ _ => omega
  | behind _ _ _ _ _ => omega

/-- No offset begins as a fraction does or goes on. -/
theorem OffsetText.head_ne {offset : Int} {cs : List Char} (h : OffsetText offset cs) :
    ∀ c ∈ cs.head?, c ≠ '.' ∧ digit? c = none := by
  intro c hc
  have hmark : c ∈ 'Z' :: 'z' :: '+' :: minusSigns := by
    cases h with
    | universal hmark =>
      rw [← Option.some.inj hc]
      rcases hmark with rfl | rfl <;> decide
    | ahead _ _ _ _ =>
      rw [← Option.some.inj hc]
      decide
    | behind hsign _ _ _ _ =>
      rw [← Option.some.inj hc]
      exact List.mem_cons_of_mem _ (List.mem_cons_of_mem _ (List.mem_cons_of_mem _ hsign))
  simp only [minusSigns, List.mem_cons, List.not_mem_nil, or_false] at hmark
  rcases hmark with rfl | rfl | rfl | rfl | rfl
  all_goals decide

/-! ## 4. The whole -/

theorem written_of_read {cs : List Char} {t : Timestamp} (h : read cs = .ok t) : Written t cs := by
  unfold read at h
  split at h
  · cases h
  · simp only [bind_eq_ok_iff, Prod.exists, readDate_eq_ok_iff, readMark_eq_ok_iff,
      readClock_eq_ok_iff] at h
    obtain ⟨d, _, ⟨date, hcs, hdate⟩, separator, _, ⟨hcs₁, hseparator⟩, hour, minute, second, _,
      ⟨clock, hcs₂, hclock⟩, digits, rest, hfraction, h⟩ := h
    obtain ⟨fraction, hcs₃, hfraction⟩ := fractionText_of_readFraction hfraction
    split at h
    · cases h
    · rename_i hrange
      obtain ⟨hhour, hminute, hsecond⟩ : hour ≤ 23 ∧ minute ≤ 59 ∧ second ≤ 60 := by omega
      obtain ⟨⟨o, last⟩, hoffset, h⟩ := bind_eq_ok_iff.mp h
      simp only [] at h
      split at h
      · cases h
      · rename_i hlast
        split at h
        · cases h
        · rename_i hday
          obtain ⟨offset, hcs₄, hoffset⟩ := offsetText_of_readOffset hoffset (by omega)
          have hnone : last = [] := by simpa using hlast
          have hall : cs = date ++ separator :: clock ++ fraction ++ offset := by
            rw [hcs, hcs₁, hcs₂, hcs₃, hcs₄, hnone]
            simp
          rw [hall, ← Except.ok.inj h]
          exact .mk hdate hseparator hclock hfraction hoffset hhour hminute hsecond

theorem DateText.length_eq {d : Date} {cs : List Char} (h : DateText d cs) : cs.length = 10 := by
  cases h with
  | mk hyear hmonth hday _ =>
    simp only [List.length_append, List.length_cons, hyear.1, hmonth.1, hday.1]

theorem ClockText.length_eq {hour minute second : Nat} {cs : List Char}
    (h : ClockText hour minute second cs) : cs.length = 8 := by
  cases h with
  | mk hhour hminute hsecond =>
    simp only [List.length_append, List.length_cons, hhour.1, hminute.1, hsecond.1]

/-- The date, the separator and the time alone take as many bytes as a timestamp must have. -/
theorem Written.leastBytes_le {t : Timestamp} {cs : List Char} (h : Written t cs) :
    leastBytes ≤ Utf8.size cs := by
  refine Nat.le_trans ?_ (length_le_size cs)
  cases h with
  | mk hdate _ hclock _ _ _ _ _ =>
    simp only [List.length_append, List.length_cons, hdate.length_eq, hclock.length_eq, leastBytes]
    omega

theorem read_of_written {cs : List Char} {t : Timestamp} (h : Written t cs) : read cs = .ok t := by
  have hsize : ¬ Utf8.size cs < leastBytes := Nat.not_lt.mpr h.leastBytes_le
  cases h with
  | @mk date clock fraction offset separator hdate hseparator hclock hfraction hoffset hhour
      hminute hsecond =>
    rw [read, if_neg hsize]
    refine bind_eq_ok_iff.mpr ⟨(t.date, separator :: clock ++ fraction ++ offset),
      readDate_eq_ok_iff.mpr ⟨date, by simp, hdate⟩, ?_⟩
    refine bind_eq_ok_iff.mpr ⟨(separator, clock ++ fraction ++ offset),
      readMark_eq_ok_iff.mpr ⟨rfl, hseparator⟩, ?_⟩
    refine bind_eq_ok_iff.mpr ⟨((t.hour, t.minute, t.second), fraction ++ offset),
      readClock_eq_ok_iff.mpr ⟨clock, by simp, hclock⟩, ?_⟩
    refine bind_eq_ok_iff.mpr ⟨(t.fraction, offset),
      readFraction_append hfraction hoffset.head_ne, ?_⟩
    have hrange : ¬ (23 < t.hour ∨ 59 < t.minute ∨ 60 < t.second) := by omega
    have hread := readOffset_append hoffset []
    rw [List.append_nil] at hread
    simp only [if_neg hrange]
    refine bind_eq_ok_iff.mpr ⟨(t.offset, []), hread, ?_⟩
    have hday : ¬ 24 * 60 ≤ t.offset.natAbs := Nat.not_le.mpr hoffset.natAbs_lt
    simp only [List.isEmpty_nil, Bool.not_true, Bool.false_eq_true, if_false, if_neg hday]

/-- **A text is read as a timestamp exactly when it is written in its form.** -/
theorem read_eq_ok_iff {cs : List Char} {t : Timestamp} : read cs = .ok t ↔ Written t cs :=
  ⟨written_of_read, read_of_written⟩

/-- **A text is the written form of one timestamp at most.** -/
theorem Written.unique {cs : List Char} {t t' : Timestamp} (h : Written t cs)
    (h' : Written t' cs) : t = t' :=
  Except.ok.inj ((read_of_written h).symm.trans (read_of_written h'))

/-! ## 5. More and less -/

/-- What follows an offset does not change how it begins. -/
theorem OffsetText.head?_append {offset : Int} {cs : List Char} (h : OffsetText offset cs)
    (rest : List Char) : (cs ++ rest).head? = cs.head? := by
  cases h with
  | universal _ => rfl
  | ahead _ _ _ _ => rfl
  | behind _ _ _ _ _ => rfl

/-- **No timestamp is a first part of another one**: all digits of a fraction belong to it, and an
    offset ends where it ends. -/
theorem Written.eq_nil_of_append {t t' : Timestamp} {cs rest : List Char} (h : Written t cs)
    (h' : Written t' (cs ++ rest)) : rest = [] := by
  generalize hall : cs ++ rest = all at h'
  cases h with
  | @mk _ _ _ offset _ hdate _ hclock hfraction hoffset _ _ _ =>
    cases h' with
    | @mk _ _ _ offset' _ hdate' _ hclock' hfraction' hoffset' _ _ _ =>
      simp only [List.append_assoc, List.cons_append] at hall
      have htime := (List.append_inj hall (hdate.length_eq.trans hdate'.length_eq.symm)).2
      have htail := (List.append_inj (List.cons.inj htime).2
        (hclock.length_eq.trans hclock'.length_eq.symm)).2
      have hhead : ∀ c ∈ (offset ++ rest).head?, c ≠ '.' ∧ digit? c = none := by
        rw [hoffset.head?_append]
        exact hoffset.head_ne
      -- both fractions end where the digits end, so the offsets begin at the same place
      have hread := readFraction_append hfraction hhead
      rw [htail, readFraction_append hfraction' hoffset'.head_ne] at hread
      have hsame : offset' = offset ++ rest := (Prod.mk.inj (Except.ok.inj hread)).2
      have hlast := readOffset_append hoffset' []
      rw [List.append_nil, hsame, readOffset_append hoffset] at hlast
      exact (Prod.mk.inj (Except.ok.inj hlast)).2

end Steward.Timestamp
