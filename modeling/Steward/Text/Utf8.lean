/-!
# UTF-8: characters as bytes, and any bytes as characters

* `encode` writes a text as bytes, one character after another (`encodeChar`).
* `decodeLossy` reads any bytes. It is a machine that takes one byte at a time (`step`), so what it
  prints for a concatenation is what it prints for the first part followed by what it prints for the
  second part from the state reached (`decodeFrom_append`).
* Bytes that form no character are replaced, not dropped: each maximal run that could still have
  become a character, and each byte that can begin none, reads as one `replacement`.
* Reading what was written gives the text back (`decodeLossy_encode`), and `decode?` reads exactly
  the bytes that `encode` writes (`decode?_eq_some_iff`).
-/

namespace Steward.Utf8

/-! ## 1. From characters to bytes -/

/-- A continuation byte: `10` followed by the six lowest bits of `n`. -/
def continuation (n : Nat) : UInt8 := .ofNat (0x80 + n % 0x40)

/-- The bytes of one character, a leading byte and up to three continuation bytes. -/
def encodeChar (c : Char) : List UInt8 :=
  let n := c.toNat
  if n < 0x80 then [.ofNat n]
  else if n < 0x800 then [.ofNat (0xC0 + n / 0x40), continuation n]
  else if n < 0x10000 then [.ofNat (0xE0 + n / 0x1000), continuation (n / 0x40), continuation n]
  else [.ofNat (0xF0 + n / 0x40000), continuation (n / 0x1000), continuation (n / 0x40),
    continuation n]

/-- The bytes of a sequence of characters. -/
def encodeChars (cs : List Char) : List UInt8 := cs.flatMap encodeChar

/-- The bytes of a text. -/
def encode (text : String) : List UInt8 := encodeChars text.toList

/-- The number of bytes a sequence of characters takes. -/
def size (cs : List Char) : Nat := (encodeChars cs).length

@[simp] theorem encodeChars_nil : encodeChars [] = [] := rfl

@[simp] theorem encodeChars_cons (c : Char) (cs : List Char) :
    encodeChars (c :: cs) = encodeChar c ++ encodeChars cs := rfl

@[simp] theorem encodeChars_append (cs ds : List Char) :
    encodeChars (cs ++ ds) = encodeChars cs ++ encodeChars ds := by
  simp [encodeChars]

/-! ## 2. From bytes to characters -/

/-- What stands in the text for bytes that form no character. -/
def replacement : Char := Char.ofNat 0xFFFD

/-- A character that has begun: how many bytes it still lacks, the bounds on the next of them, and
    the bits read so far. -/
structure Partial where
  lacking : Nat
  low : Nat
  high : Nat
  bits : Nat
deriving DecidableEq

/-- Between two characters, or inside one. -/
inductive State
  | boundary
  | inside (p : Partial)
deriving DecidableEq

/-- **The first byte of a character.** An ASCII byte is a character; a leading byte begins one, and
    its bounds on the second byte rule out overlong forms, surrogates and numbers past `10FFFF`; any
    other byte begins none. -/
def start (b : UInt8) : List Char × State :=
  let n := b.toNat
  if n < 0x80 then ([Char.ofNat n], .boundary)
  else if n < 0xC2 then ([replacement], .boundary)
  else if n < 0xE0 then ([], .inside ⟨1, 0x80, 0xBF, n - 0xC0⟩)
  else if n = 0xE0 then ([], .inside ⟨2, 0xA0, 0xBF, 0⟩)
  else if n = 0xED then ([], .inside ⟨2, 0x80, 0x9F, 0xD⟩)
  else if n < 0xF0 then ([], .inside ⟨2, 0x80, 0xBF, n - 0xE0⟩)
  else if n = 0xF0 then ([], .inside ⟨3, 0x90, 0xBF, 0⟩)
  else if n < 0xF4 then ([], .inside ⟨3, 0x80, 0xBF, n - 0xF0⟩)
  else if n = 0xF4 then ([], .inside ⟨3, 0x80, 0x8F, 4⟩)
  else ([replacement], .boundary)

/-- **One byte.** Inside a character, a byte within the bounds continues it; any other byte breaks
    it off, which prints one `replacement`, and is then read as a first byte. -/
def step : State → UInt8 → List Char × State
  | .boundary, b => start b
  | .inside p, b =>
    if p.low ≤ b.toNat ∧ b.toNat ≤ p.high then
      let bits := p.bits * 0x40 + (b.toNat - 0x80)
      if p.lacking ≤ 1 then ([Char.ofNat bits], .boundary)
      else ([], .inside ⟨p.lacking - 1, 0x80, 0xBF, bits⟩)
    else
      let (out, next) := start b
      (replacement :: out, next)

/-- What the end of the bytes prints: a character that is cut off is replaced. -/
def finish : State → List Char
  | .boundary => []
  | .inside _ => [replacement]

/-- The state after some bytes. -/
def after (s : State) (bytes : List UInt8) : State :=
  bytes.foldl (fun s b => (step s b).2) s

/-- What some bytes print, the end not yet reached. -/
def printed : State → List UInt8 → List Char
  | _, [] => []
  | s, b :: rest => (step s b).1 ++ printed (step s b).2 rest

/-- The characters of some bytes read from a state to the end. -/
def decodeFrom (s : State) (bytes : List UInt8) : List Char :=
  printed s bytes ++ finish (after s bytes)

/-- The text of any bytes. -/
def decodeLossy (bytes : List UInt8) : String := .ofList (decodeFrom .boundary bytes)

/-- The text whose bytes are given, if there is one. -/
def decode? (bytes : List UInt8) : Option String :=
  let text := decodeLossy bytes
  if encode text = bytes then some text else none

/-! ## 3. Concatenation -/

@[simp] theorem after_nil (s : State) : after s [] = s := rfl

@[simp] theorem after_cons (s : State) (b : UInt8) (rest : List UInt8) :
    after s (b :: rest) = after (step s b).2 rest := rfl

theorem after_append (s : State) (xs ys : List UInt8) :
    after s (xs ++ ys) = after (after s xs) ys := by
  simp [after]

theorem printed_append (s : State) (xs ys : List UInt8) :
    printed s (xs ++ ys) = printed s xs ++ printed (after s xs) ys := by
  induction xs generalizing s with
  | nil => rfl
  | cons b rest ih => simp [printed, ih]

/-- **Reading a concatenation** prints the first part and goes on with the second one. -/
theorem decodeFrom_append (s : State) (xs ys : List UInt8) :
    decodeFrom s (xs ++ ys) = printed s xs ++ decodeFrom (after s xs) ys := by
  simp [decodeFrom, printed_append, after_append]

/-! ## 4. Reading what was written -/

theorem toNat_ofNat_of_lt {n : Nat} (h : n < 256) : (UInt8.ofNat n).toNat = n := by
  simp; omega

theorem toNat_continuation (n : Nat) : (continuation n).toNat = 0x80 + n % 0x40 :=
  toNat_ofNat_of_lt (by omega)

/-- A code point is none of the surrogates, and at most `10FFFF`. -/
theorem codePoint_bounds (c : Char) :
    c.toNat < 0xD800 ∨ (0xDFFF < c.toNat ∧ c.toNat < 0x110000) := by
  simpa [UInt32.isValidChar, Nat.isValidChar] using c.valid

/-- A continuation byte within the bounds adds its six bits. -/
theorem step_continuation {p : Partial} {n : Nat} (hlow : p.low ≤ 0x80 + n % 0x40)
    (hhigh : 0x80 + n % 0x40 ≤ p.high) :
    step (.inside p) (continuation n) =
      if p.lacking ≤ 1 then ([Char.ofNat (p.bits * 0x40 + n % 0x40)], .boundary)
      else ([], .inside ⟨p.lacking - 1, 0x80, 0xBF, p.bits * 0x40 + n % 0x40⟩) := by
  simp [step, toNat_continuation, hlow, hhigh]

theorem start_ascii {n : Nat} (h : n < 0x80) :
    start (.ofNat n) = ([Char.ofNat n], .boundary) := by
  simp only [start, toNat_ofNat_of_lt (show n < 256 by omega), if_pos h]

theorem start_two {k : Nat} (hlow : 2 ≤ k) (hhigh : k < 0x20) :
    start (.ofNat (0xC0 + k)) = ([], .inside ⟨1, 0x80, 0xBF, k⟩) := by
  simp only [start, toNat_ofNat_of_lt (show 0xC0 + k < 256 by omega)]
  rw [if_neg (by omega), if_neg (by omega), if_pos (by omega), Nat.add_sub_cancel_left]

theorem start_three {k : Nat} (h : k < 0x10) :
    start (.ofNat (0xE0 + k)) =
      ([], .inside ⟨2, if k = 0 then 0xA0 else 0x80, if k = 0xD then 0x9F else 0xBF, k⟩) := by
  have : ∀ k < 0x10, start (.ofNat (0xE0 + k)) =
      ([], .inside ⟨2, if k = 0 then 0xA0 else 0x80, if k = 0xD then 0x9F else 0xBF, k⟩) := by
    decide
  exact this k h

theorem start_four {k : Nat} (h : k < 5) :
    start (.ofNat (0xF0 + k)) =
      ([], .inside ⟨3, if k = 0 then 0x90 else 0x80, if k = 4 then 0x8F else 0xBF, k⟩) := by
  have : ∀ k < 5, start (.ofNat (0xF0 + k)) =
      ([], .inside ⟨3, if k = 0 then 0x90 else 0x80, if k = 4 then 0x8F else 0xBF, k⟩) := by
    decide
  exact this k h

/-- **The bytes of a character read as that character.** -/
theorem read_encodeChar (c : Char) :
    printed .boundary (encodeChar c) = [c] ∧ after .boundary (encodeChar c) = .boundary := by
  have hc := codePoint_bounds c
  have hback : Char.ofNat c.toNat = c := Char.ofNat_toNat c
  simp only [encodeChar]
  generalize c.toNat = n at hc hback ⊢
  split
  · simp [printed, step, start_ascii ‹_›, hback]
  · split
    · have hn : n / 0x40 * 0x40 + n % 0x40 = n := by omega
      simp only [printed, after, List.foldl, step.eq_1,
        start_two (show 2 ≤ n / 0x40 by omega) (by omega)]
      rw [step_continuation (by simp) (by simp; omega)]
      simp [hn, hback]
    · split
      · have hn : (n / 0x1000 * 0x40 + n / 0x40 % 0x40) * 0x40 + n % 0x40 = n := by omega
        simp only [printed, after, List.foldl, step.eq_1,
          start_three (show n / 0x1000 < 0x10 by omega)]
        rw [step_continuation (by simp only; split <;> omega) (by simp only; split <;> omega)]
        simp only [show ¬ 2 ≤ 1 by omega, if_false]
        rw [step_continuation (by simp) (by simp; omega)]
        simp [hn, hback]
      · have hn : ((n / 0x40000 * 0x40 + n / 0x1000 % 0x40) * 0x40 + n / 0x40 % 0x40) * 0x40
            + n % 0x40 = n := by omega
        simp only [printed, after, List.foldl, step.eq_1,
          start_four (show n / 0x40000 < 5 by omega)]
        rw [step_continuation (by simp only; split <;> omega) (by simp only; split <;> omega)]
        simp only [show ¬ 3 ≤ 1 by omega, if_false]
        rw [step_continuation (by simp) (by simp; omega)]
        simp only [show ¬ 3 - 1 ≤ 1 by omega, if_false]
        rw [step_continuation (by simp) (by simp; omega)]
        simp [hn, hback]

theorem read_encodeChars (cs : List Char) :
    printed .boundary (encodeChars cs) = cs ∧
      after .boundary (encodeChars cs) = .boundary := by
  induction cs with
  | nil => exact ⟨rfl, rfl⟩
  | cons c cs ih =>
    have hc := read_encodeChar c
    rw [encodeChars_cons, printed_append, after_append, hc.1, hc.2, ih.1, ih.2]
    exact ⟨rfl, rfl⟩

/-- **Reading what was written** gives the text back. -/
theorem decodeLossy_encode (text : String) : decodeLossy (encode text) = text := by
  have h := read_encodeChars text.toList
  simp [decodeLossy, decodeFrom, encode, h.1, h.2, finish]

/-- **Exactly the bytes of a text are read strictly.** -/
theorem decode?_eq_some_iff {bytes : List UInt8} {text : String} :
    decode? bytes = some text ↔ bytes = encode text := by
  constructor
  · intro h
    simp only [decode?] at h
    split at h
    · rename_i he
      rw [← Option.some.inj h, he]
    · cases h
  · rintro rfl
    simp [decode?, decodeLossy_encode]

end Steward.Utf8
