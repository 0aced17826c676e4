import Mathlib.Algebra.Group.Nat.Defs
import Steward.Proofs.Text.Ascii
import Steward.Proofs.Text.Decimal

/-!
# Numbers that sort by their bytes

Bytes are compared one after another, and the first two that differ decide. Numbers that are written
on the same number of places sort by their bytes as they do by their values.

* `eq_of_lt_of_gt` -- two comparisons have the same result if they agree on less and on greater.
* `compare_append` -- parts of one length are compared one after the other.
* `compare_places` -- and so are the places of a number.
* `compare_numerals` -- so the bytes of two numerals of one width compare as their numbers.
* `compare_marked` -- and decide before what stands behind them.
-/

namespace Steward

/-- **Two comparisons have the same result** if they agree on less and on greater. -/
theorem eq_of_lt_of_gt {o o' : Ordering} (hlt : o = .lt ↔ o' = .lt) (hgt : o = .gt ↔ o' = .gt) :
    o = o' := by
  cases o with
  | lt => exact (hlt.mp rfl).symm
  | gt => exact (hgt.mp rfl).symm
  | eq =>
    cases o' with
    | lt => cases hlt.mpr rfl
    | eq => rfl
    | gt => cases hgt.mpr rfl

/-- **Parts of one length are compared one after the other.** -/
theorem compare_append {α : Type} [Ord α] {xs xs' : List α} (h : xs.length = xs'.length)
    (ys ys' : List α) :
    compare (xs ++ ys) (xs' ++ ys') = (compare xs xs').then (compare ys ys') := by
  induction xs generalizing xs' with
  | nil =>
    rw [List.eq_nil_of_length_eq_zero h.symm, List.compare_nil_nil, Ordering.eq_then]
    rfl
  | cons x xs ih =>
    cases xs' with
    | nil => cases h
    | cons x' xs' =>
      rw [List.cons_append, List.cons_append, List.compare_cons_cons, List.compare_cons_cons,
        ih (Nat.succ.inj h), Ordering.then_assoc]

namespace Decimal

open Utf8 (encodeChar encodeChars)

/-- Of two numbers the one with the smaller higher part is the smaller one, and if these are the same
    the one with the smaller lower part. -/
theorem places_lt_iff {w a a' b b' : Nat} (hb : b < w) (hb' : b' < w) :
    a * w + b < a' * w + b' ↔ a < a' ∨ a = a' ∧ b < b' := by
  have hless : ∀ {m n : Nat}, m < n → m * w + w ≤ n * w := by
    intro m n h
    have hle := Nat.mul_le_mul_right w h
    rwa [Nat.succ_mul] at hle
  rcases Nat.lt_trichotomy a a' with h | rfl | h
  · have hbelow := hless h
    omega
  · omega
  · have hbelow := hless h
    omega

/-- **The places of a number are compared one after the other**, the higher ones first. -/
theorem compare_places {w a a' b b' : Nat} (hb : b < w) (hb' : b' < w) :
    (compare a a').then (compare b b') = compare (a * w + b) (a' * w + b') := by
  refine eq_of_lt_of_gt ?_ ?_
  · simp only [Ordering.then_eq_lt, Nat.compare_eq_lt, Nat.compare_eq_eq]
    exact (places_lt_iff hb hb').symm
  · simp only [Ordering.then_eq_gt, Nat.compare_eq_gt, Nat.compare_eq_eq]
    rw [places_lt_iff hb' hb, eq_comm]

/-- The byte of a digit. -/
def digitByte (d : Nat) : UInt8 := .ofNat (0x30 + d)

theorem compare_digitByte {d d' : Nat} (h : d ≤ 9) (h' : d' ≤ 9) :
    compare (digitByte d) (digitByte d') = compare d d' := by
  have hall : ∀ d < 10, ∀ d' < 10, compare (digitByte d) (digitByte d') = compare d d' := by decide
  exact hall d (by omega) d' (by omega)

/-- The bytes of digits are one for each of them. -/
theorem encodeChars_of_spells {cs : List Char} {digits : List Nat} (h : Spells cs digits) :
    encodeChars cs = digits.map digitByte := by
  induction h with
  | nil => rfl
  | @cons c d _ _ hd _ ih =>
    have hplain : c.toNat < 0x80 := by omega
    rw [Utf8.encodeChars_cons, Utf8.encodeChar_plain hplain, List.map_cons, ih, hd.2]
    rfl

theorem value_cons (d : Nat) (digits : List Nat) :
    value (d :: digits) = d * 10 ^ digits.length + value digits := by
  have h := value_append [d] digits
  rwa [List.singleton_append, show value [d] = d by simp [value]] at h

/-- **Digits on the same number of places compare as the numbers they stand for.** -/
theorem compare_digits {digits digits' : List Nat} (hlength : digits.length = digits'.length)
    (h : ∀ d ∈ digits, d ≤ 9) (h' : ∀ d ∈ digits', d ≤ 9) :
    compare (digits.map digitByte) (digits'.map digitByte) =
      compare (value digits) (value digits') := by
  induction digits generalizing digits' with
  | nil => rw [List.eq_nil_of_length_eq_zero hlength.symm]; rfl
  | cons d digits ih =>
    cases digits' with
    | nil => cases hlength
    | cons d' digits' =>
      have hrest := List.forall_mem_cons.mp h
      have hrest' := List.forall_mem_cons.mp h'
      have hsame : digits.length = digits'.length := Nat.succ.inj hlength
      have hlt := value_lt hrest.2
      have hlt' := value_lt hrest'.2
      rw [← hsame] at hlt'
      rw [List.map_cons, List.map_cons, List.compare_cons_cons,
        compare_digitByte hrest.1 hrest'.1, ih hsame hrest.2 hrest'.2, value_cons, value_cons,
        ← hsame, compare_places hlt hlt']

/-- **The bytes of two numerals of one width compare as their numbers.** -/
theorem compare_numerals {w n n' : Nat} {cs cs' : List Char} (h : Numeral w n cs)
    (h' : Numeral w n' cs') : compare (encodeChars cs) (encodeChars cs') = compare n n' := by
  obtain ⟨hlength, digits, hspells, rfl⟩ := h
  obtain ⟨hlength', digits', hspells', rfl⟩ := h'
  have hsame : digits.length = digits'.length := by
    rw [← hspells.length_eq, ← hspells'.length_eq, hlength, hlength']
  rw [encodeChars_of_spells hspells, encodeChars_of_spells hspells',
    compare_digits hsame hspells.le_nine hspells'.le_nine]

theorem length_encodeChars {w n : Nat} {cs : List Char} (h : Numeral w n cs) :
    (encodeChars cs).length = w := by
  obtain ⟨hlength, digits, hspells, -⟩ := h
  rw [encodeChars_of_spells hspells, List.length_map, ← hspells.length_eq, hlength]

/-- **Two texts that begin with numerals of one width and the same mark** compare as the numbers, and
    if these are the same as what stands behind the marks. -/
theorem compare_marked {w n n' : Nat} {cs cs' : List Char} (h : Numeral w n cs)
    (h' : Numeral w n' cs') (mark : Char) (rest rest' : List Char) :
    compare (encodeChars (cs ++ mark :: rest)) (encodeChars (cs' ++ mark :: rest')) =
      (compare n n').then (compare (encodeChars rest) (encodeChars rest')) := by
  have hsame : (encodeChars cs).length = (encodeChars cs').length := by
    rw [length_encodeChars h, length_encodeChars h']
  have hmark : compare (encodeChar mark) (encodeChar mark) = .eq := Std.ReflCmp.compare_self
  rw [Utf8.encodeChars_append, Utf8.encodeChars_append, compare_append hsame,
    compare_numerals h h', Utf8.encodeChars_cons, Utf8.encodeChars_cons, compare_append rfl, hmark,
    Ordering.eq_then]

end Decimal

end Steward
