/-!
# Decimal digits

* `fixed w n` writes the last `w` decimal digits of `n`; `padded w n` writes all of them, and zeros
  before them up to `w` places.
* `digit?` reads one ASCII digit and `value` a sequence of digits.
-/

namespace Steward.Decimal

/-- The character of a digit. -/
def digitChar (n : Nat) : Char := Char.ofNat (0x30 + n % 10)

/-- The last `w` decimal digits of `n`, the most significant one first. -/
def fixed : (w n : Nat) → List Char
  | 0, _ => []
  | w + 1, n => fixed w (n / 10) ++ [digitChar n]

/-- The number of decimal digits of `n`. -/
def width (n : Nat) : Nat :=
  if n < 10 then 1 else width (n / 10) + 1

/-- All decimal digits of `n`, with zeros before them up to `w` places. -/
def padded (w n : Nat) : List Char := fixed (max w (width n)) n

/-- The value of an ASCII digit. -/
def digit? (c : Char) : Option Nat :=
  if 0x30 ≤ c.toNat ∧ c.toNat ≤ 0x39 then some (c.toNat - 0x30) else none

/-- The number that a sequence of digits stands for. -/
def value (digits : List Nat) : Nat := digits.foldl (fun n d => n * 10 + d) 0

/-- The number that a text of one or more ASCII digits stands for. -/
def read? (cs : List Char) : Option Nat :=
  if cs.isEmpty then none else (cs.mapM digit?).map value

@[simp] theorem length_fixed (w n : Nat) : (fixed w n).length = w := by
  induction w generalizing n with
  | zero => rfl
  | succ w ih => simp [fixed, ih]

end Steward.Decimal
