import Mathlib.Algebra.Group.Nat.Defs
import Mathlib.Data.List.Forall2
import Mathlib.Data.List.Induction
import Steward.Text.Decimal

/-!
# Numbers and the digits that spell them

* `Spells` -- characters that are the digits of a sequence, one after another.
* `Numeral` -- characters that are the digits of a number, on so many places.
* `numeral_fixed`, `numeral_padded` -- what is written for a number is a numeral of it.
* `Numeral.unique` -- characters are a numeral of one number only.
-/

namespace Steward.Decimal

/-! ## 1. Digits -/

/-- **Characters that are the ASCII digits of a sequence**, one after another. -/
def Spells (cs : List Char) (digits : List Nat) : Prop :=
  List.Forall₂ (fun c d => d ≤ 9 ∧ c.toNat = 0x30 + d) cs digits

theorem digit?_eq_some_iff {c : Char} {d : Nat} :
    digit? c = some d ↔ d ≤ 9 ∧ c.toNat = 0x30 + d := by
  unfold digit?
  split
  · rw [Option.some.injEq]
    omega
  · refine iff_of_false nofun ?_
    omega

theorem mapM_digit?_eq_some_iff {cs : List Char} {digits : List Nat} :
    cs.mapM digit? = some digits ↔ Spells cs digits := by
  induction cs generalizing digits with
  | nil =>
    rw [List.mapM_nil, Spells, List.forall₂_nil_left_iff]
    exact ⟨fun h => (Option.some.inj h).symm, fun h => congrArg some h.symm⟩
  | cons c cs ih =>
    rw [List.mapM_cons, Spells, List.forall₂_cons_left_iff]
    constructor
    · intro h
      obtain ⟨d, hd, h⟩ := Option.bind_eq_some_iff.mp h
      obtain ⟨rest, hrest, h⟩ := Option.bind_eq_some_iff.mp h
      exact ⟨d, rest, digit?_eq_some_iff.mp hd, ih.mp hrest, (Option.some.inj h).symm⟩
    · intro ⟨d, rest, hd, hrest, h⟩
      rw [digit?_eq_some_iff.mpr hd, ih.mpr hrest, h]
      rfl

theorem Spells.length_eq {cs : List Char} {digits : List Nat} (h : Spells cs digits) :
    cs.length = digits.length := List.Forall₂.length_eq h

/-- Every digit is less than ten. -/
theorem Spells.le_nine {cs : List Char} {digits : List Nat} (h : Spells cs digits) :
    ∀ d ∈ digits, d ≤ 9 := by
  induction h with
  | nil => exact nofun
  | cons hd _ ih =>
    intro d hmem
    rcases List.mem_cons.mp hmem with rfl | hmem
    · exact hd.1
    · exact ih d hmem

/-- Every character is one of the ten digits. -/
theorem Spells.digit {cs : List Char} {digits : List Nat} (h : Spells cs digits) :
    ∀ c ∈ cs, 0x30 ≤ c.toNat ∧ c.toNat ≤ 0x39 := by
  induction h with
  | nil => exact nofun
  | cons hd _ ih =>
    intro c hmem
    rcases List.mem_cons.mp hmem with rfl | hmem
    · omega
    · exact ih c hmem

theorem Spells.unique {cs : List Char} {digits digits' : List Nat} (h : Spells cs digits)
    (h' : Spells cs digits') : digits = digits' := by
  rw [← mapM_digit?_eq_some_iff] at h h'
  exact Option.some.inj (h.symm.trans h')

theorem spells_append {cs cs' : List Char} {digits digits' : List Nat} (h : Spells cs digits)
    (h' : Spells cs' digits') : Spells (cs ++ cs') (digits ++ digits') :=
  List.rel_append h h'

theorem spells_digitChar (n : Nat) : Spells [digitChar n] [n % 10] := by
  have hall : ∀ d < 10, (Char.ofNat (0x30 + d)).toNat = 0x30 + d := by decide
  have hd : n % 10 < 10 := Nat.mod_lt n (by omega)
  exact .cons ⟨by omega, hall _ hd⟩ .nil

/-! ## 2. Values -/

theorem value_append_singleton (digits : List Nat) (d : Nat) :
    value (digits ++ [d]) = value digits * 10 + d := by
  simp [value]

/-- **Digits behind others** count for as much as they do alone, and move the others up. -/
theorem value_append (digits digits' : List Nat) :
    value (digits ++ digits') = value digits * 10 ^ digits'.length + value digits' := by
  induction digits' using List.reverseRecOn with
  | nil => simp [value]
  | append_singleton digits' d ih =>
    rw [← List.append_assoc, value_append_singleton, ih, value_append_singleton,
      List.length_append, List.length_singleton, Nat.pow_succ, Nat.add_mul, Nat.mul_assoc]
    omega

/-- So many digits stand for less than the power of ten. -/
theorem value_lt {digits : List Nat} (h : ∀ d ∈ digits, d ≤ 9) :
    value digits < 10 ^ digits.length := by
  induction digits using List.reverseRecOn with
  | nil => simp [value]
  | append_singleton digits d ih =>
    have hd : d ≤ 9 := h d (by simp)
    have hrest := ih fun x hx => h x (List.mem_append_left [d] hx)
    rw [value_append_singleton, List.length_append, List.length_singleton, Nat.pow_succ]
    omega

/-! ## 3. Numerals -/

/-- **The digits of a number, on `w` places.** -/
def Numeral (w n : Nat) (cs : List Char) : Prop :=
  cs.length = w ∧ ∃ digits, Spells cs digits ∧ value digits = n

theorem Numeral.unique {w w' n n' : Nat} {cs : List Char} (h : Numeral w n cs)
    (h' : Numeral w' n' cs) : n = n' := by
  obtain ⟨-, digits, hcs, rfl⟩ := h
  obtain ⟨-, digits', hcs', rfl⟩ := h'
  rw [hcs.unique hcs']

theorem Numeral.lt {w n : Nat} {cs : List Char} (h : Numeral w n cs) : n < 10 ^ w := by
  obtain ⟨hlength, digits, hcs, rfl⟩ := h
  rw [← hlength, hcs.length_eq]
  exact value_lt hcs.le_nine

theorem Numeral.digit {w n : Nat} {cs : List Char} (h : Numeral w n cs) :
    ∀ c ∈ cs, 0x30 ≤ c.toNat ∧ c.toNat ≤ 0x39 := by
  obtain ⟨-, digits, hcs, -⟩ := h
  exact hcs.digit

/-- **The last digits of a number are a numeral of it**, when there are no more. -/
theorem numeral_fixed {w n : Nat} (h : n < 10 ^ w) : Numeral w n (fixed w n) := by
  refine ⟨length_fixed w n, ?_⟩
  induction w generalizing n with
  | zero =>
    rw [Nat.pow_zero, Nat.lt_one_iff] at h
    exact ⟨[], .nil, h.symm⟩
  | succ w ih =>
    rw [Nat.pow_succ] at h
    obtain ⟨digits, hdigits, hvalue⟩ := ih (n := n / 10) (by omega)
    refine ⟨digits ++ [n % 10], spells_append hdigits (spells_digitChar n), ?_⟩
    rw [value_append_singleton, hvalue]
    omega

theorem lt_pow_width (n : Nat) : n < 10 ^ width n := by
  induction n using width.induct with
  | case1 n h =>
    rw [width, if_pos h]
    omega
  | case2 n h ih =>
    rw [width, if_neg h, Nat.pow_succ]
    omega

/-- **All digits of a number are a numeral of it**, with zeros before them. -/
theorem numeral_padded (w n : Nat) :
    ∃ places, w ≤ places ∧ Numeral places n (padded w n) := by
  refine ⟨max w (width n), Nat.le_max_left _ _, numeral_fixed ?_⟩
  have hwidth := lt_pow_width n
  have hmore : 10 ^ width n ≤ 10 ^ max w (width n) :=
    Nat.pow_le_pow_right (by omega) (Nat.le_max_right _ _)
  omega

end Steward.Decimal
