import Steward.Proofs.Text.Blank
import Steward.Proofs.Timestamp.Moment

/-!
# Reading what was written

The text of an instant is a timestamp like any other as long as its year has four digits. With
another year it begins with a sign, and no timestamp does.

* `Shown.written` -- what is shown with such a year has the form of a timestamp, and
  `Shown.exists_written` says that this timestamp denotes it again.
* `Shown.read_eq_invalid` -- what is shown with another year is refused at its first character.
* `Stamp.trim` -- there are no blanks around a date and time.
-/

namespace Steward

open Decimal TimeFields

/-! ## 1. A year of four digits -/

namespace TimeFields

/-- A date with such a year is written as the date of a timestamp. -/
theorem dateText_of_plain {d : Date} {years months days : List Char} (hyear : YearText d.year years)
    (hplain : 0 ≤ d.year ∧ d.year ≤ 9999) (hmonth : Numeral 2 d.month months)
    (hday : Numeral 2 d.day days) (hd : d.Exists) :
    Timestamp.DateText d (years ++ '-' :: months ++ '-' :: days) := by
  obtain ⟨n, hn, hnumeral⟩ := hyear.numeral hplain
  obtain ⟨year, month, day⟩ := d
  obtain rfl : year = n := hn
  exact .mk hnumeral hmonth hday hd

/-- **Fields whose year has four digits are shown as a timestamp** in universal time, with three
    digits of a fraction. -/
theorem Shown.written {f : TimeFields} {cs : List Char} (h : Shown f cs) (hf : f.Sound)
    (hplain : 0 ≤ f.date.year ∧ f.date.year ≤ 9999) :
    ∃ digits, Timestamp.Written ⟨f.date, f.hour, f.minute, f.second, digits, 0⟩ cs ∧
      Timestamp.millisecondOf digits = f.millisecond := by
  cases h with
  | @mk years months days hours minutes seconds milliseconds hyear hmonth hday hhour hminute hsecond
      hmillisecond =>
    obtain ⟨hlength, digits, hdigits, hvalue⟩ := hmillisecond
    have hthree : digits.length = 3 := hdigits.length_eq ▸ hlength
    have hsome : digits ≠ [] := List.ne_nil_of_length_pos (by omega)
    have hdate := dateText_of_plain hyear hplain hmonth hday hf.date
    have hclock := Timestamp.ClockText.mk hhour hminute hsecond
    have hwritten := Timestamp.Written.mk
      (t := ⟨f.date, f.hour, f.minute, f.second, digits, 0⟩) hdate (by decide : 'T' ∈ ['T', 't', ' '])
      hclock (.digits hdigits hsome) (.universal (Or.inl rfl)) hf.hour hf.minute hf.second
    refine ⟨digits, ?_, ?_⟩
    · simpa using hwritten
    · rw [Timestamp.millisecondOf, List.take_left' hthree, hvalue]

/-- **What is shown with such a year is read back.** -/
theorem Shown.exists_written {f : TimeFields} {cs : List Char} (h : Shown f cs) (hf : f.Sound)
    (hplain : 0 ≤ f.date.year ∧ f.date.year ≤ 9999) :
    ∃ t, Timestamp.Written t cs ∧ t.instant.fields = f := by
  obtain ⟨digits, hwritten, hmillisecond⟩ := h.written hf hplain
  refine ⟨_, hwritten, (Timestamp.fields_instant_eq_iff hwritten hf).mpr ⟨?_, rfl, hmillisecond⟩⟩
  exact Int.sub_zero _

end TimeFields

/-! ## 2. Another year -/

namespace Timestamp

/-- No number begins with a character that is no digit. -/
theorem readNumber_eq_invalid {w : Nat} {c : Char} {cs : List Char} (hc : digit? c = none) :
    readNumber (w + 1) (c :: cs) = .error .invalid := by
  unfold readNumber
  split
  · rw [List.take_succ_cons, List.mapM_cons, hc]
    rfl
  · rfl

/-- **A text that does not begin with a digit is no timestamp.** -/
theorem read_eq_invalid {c : Char} {cs : List Char} (hc : digit? c = none)
    (hlength : leastBytes ≤ (c :: cs).length) : read (c :: cs) = .error .invalid := by
  have hsize := length_le_size (c :: cs)
  rw [read, if_neg (by omega), readDate, readNumber_eq_invalid hc]
  rfl

end Timestamp

theorem TimeFields.Shown.leastBytes_le {f : TimeFields} {cs : List Char} (h : Shown f cs) :
    Timestamp.leastBytes ≤ cs.length := by
  obtain ⟨years, hyear, hlength⟩ := h.exists_length
  have hfour := hyear.four_le
  unfold Timestamp.leastBytes
  omega

/-- **What is shown with any other year is refused.** -/
theorem TimeFields.Shown.read_eq_invalid {f : TimeFields} {cs : List Char} (h : Shown f cs)
    (hfar : ¬ (0 ≤ f.date.year ∧ f.date.year ≤ 9999)) :
    Timestamp.read cs = .error .invalid := by
  have hlength := h.leastBytes_le
  cases h with
  | mk hyear _ _ _ _ _ _ =>
    obtain ⟨sign, digits, rfl, hsign⟩ := hyear.signed hfar
    have hnone : digit? sign = none := by
      rcases hsign with rfl | rfl
      · decide
      · decide
    exact Timestamp.read_eq_invalid hnone hlength

/-! ## 3. Blanks -/

namespace Text

/-- Of the ASCII characters only the space and five others are blank. -/
theorem isBlank_eq_false {c : Char} (hlow : 0x21 ≤ c.toNat) (hhigh : c.toNat ≤ 0x7F) :
    isBlank c = false := by
  simp only [isBlank, blankRanges, List.any_cons, List.any_nil, Bool.or_false, Bool.or_eq_false_iff,
    Bool.and_eq_false_iff, decide_eq_false_iff_not]
  omega

/-- A text without blanks has none around it. -/
theorem trim_eq_self {cs : List Char} (h : ∀ c ∈ cs, isBlank c = false) : trim cs = cs := by
  have hfirst : ∀ c ∈ cs.head?, isBlank c = false := fun c hc => h c (List.mem_of_mem_head? hc)
  have hlast : ∀ c ∈ cs.getLast?, isBlank c = false :=
    fun c hc => h c (List.mem_of_mem_getLast? hc)
  have hnone : ∀ c ∈ ([] : List Char), isBlank c = true :=
    fun c hc => absurd hc List.not_mem_nil
  have hstripped := Stripped.mk hnone hnone hfirst hlast
  rw [List.nil_append, List.append_nil] at hstripped
  exact hstripped.trim_eq

end Text

theorem TimeFields.Stamp.trim {cs : List Char} (h : Stamp cs) : Text.trim cs = cs := by
  refine Text.trim_eq_self fun c hc => ?_
  rcases h c hc with hdigit | hmark
  · exact Text.isBlank_eq_false (by omega) (by omega)
  · simp only [marks, List.mem_cons, List.not_mem_nil, or_false] at hmark
    rcases hmark with rfl | rfl | rfl | rfl | rfl | rfl
    all_goals decide

end Steward
