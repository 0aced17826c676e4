import Mathlib.Tactic.Ring
import Steward.Command
import Steward.Text.Utf8

/-!
# ASCII in bytes and in the text read from them

Messages are read from any bytes whatever, and bytes that form no character are replaced. Whether a
word of ASCII characters stands in a message must not depend on what was replaced around it.

* `Partial.Sound` -- the INVARIANT of the reader inside a character: whatever bytes continue it, it
  becomes a character past ASCII.
* `decodeFrom_ascii` -- an ASCII byte is read as itself in every state; `step_high` -- every other
  byte prints characters past ASCII only.
* `decodeFrom_eq_iff`, `infix_decodeFrom_iff`, `afterFirst_decodeFrom` -- so a text is an ASCII
  word, holds one, or is split at an ASCII character, exactly where its bytes are, hold or are.
-/

namespace Steward.Utf8

/-- Whether a character is past ASCII. -/
def High (c : Char) : Prop := 0x80 ≤ c.toNat

/-- The least number that a character that has begun can still become. -/
def Partial.least (p : Partial) : Nat :=
  (p.bits * 0x40 + (p.low - 0x80)) * 0x40 ^ (p.lacking - 1)

/-- The least number past all those that a character that has begun can still become. -/
def Partial.bound (p : Partial) : Nat :=
  (p.bits * 0x40 + (p.high - 0x80) + 1) * 0x40 ^ (p.lacking - 1)

/-- **A character that has begun is one past ASCII**, whatever continues it: all it can still become
    are code points past `7F`. -/
structure Partial.Sound (p : Partial) : Prop where
  lacking : 1 ≤ p.lacking ∧ p.lacking ≤ 3
  low : 0x80 ≤ p.low
  least : 0x80 ≤ p.least
  codePoints : p.bound ≤ 0xD800 ∨ 0xE000 ≤ p.least ∧ p.bound ≤ 0x110000

/-- The reader is between two characters, or soundly inside one. -/
def State.Sound : State → Prop
  | .boundary => True
  | .inside p => p.Sound

/-! ## 1. One byte -/

theorem toNat_ofNat_of_codePoint {n : Nat} (h : n < 0xD800 ∨ 0xDFFF < n ∧ n < 0x110000) :
    (Char.ofNat n).toNat = n := by
  have hv : n.isValidChar := h
  unfold Char.ofNat
  rw [dif_pos hv]
  rfl

theorem high_replacement : High replacement := by
  unfold High
  decide

theorem high_finish (s : State) : ∀ c ∈ finish s, High c := by
  intro c hc
  cases s with
  | boundary => exact absurd hc List.not_mem_nil
  | inside p =>
    rw [List.mem_singleton.mp hc]
    exact high_replacement

theorem start_of_ascii {b : UInt8} (hb : b.toNat < 0x80) :
    start b = ([Char.ofNat b.toNat], .boundary) := by
  simp only [start, if_pos hb]

/-- **An ASCII byte is read as itself**, and breaks off whatever had begun. -/
theorem step_ascii {s : State} (hs : s.Sound) {b : UInt8} (hb : b.toNat < 0x80) :
    step s b = (finish s ++ [Char.ofNat b.toNat], .boundary) := by
  cases s with
  | boundary => exact start_of_ascii hb
  | inside p =>
    have hlow : 0x80 ≤ p.low := hs.low
    have hout : ¬ (p.low ≤ b.toNat ∧ b.toNat ≤ p.high) := by omega
    simp only [step, if_neg hout, start_of_ascii hb]
    rfl

/-- A byte past ASCII begins a character past ASCII, or none. -/
theorem start_high {b : UInt8} (hb : 0x80 ≤ b.toNat) :
    start b = ([replacement], .boundary) ∨ ∃ p : Partial, p.Sound ∧ start b = ([], .inside p) := by
  have hmax : b.toNat < 256 := b.toNat_lt
  unfold start
  generalize b.toNat = n at hb hmax
  simp only [if_neg (show ¬ n < 0x80 by omega)]
  -- one case for each line of the table of leading bytes
  split
  · exact Or.inl rfl
  split
  · exact Or.inr ⟨_, ⟨by simp, by simp, by simp [Partial.least]; omega,
      by simp [Partial.least, Partial.bound]; omega⟩, rfl⟩
  split
  · exact Or.inr ⟨_, ⟨by simp, by simp, by simp [Partial.least],
      by simp [Partial.least, Partial.bound]⟩, rfl⟩
  split
  · exact Or.inr ⟨_, ⟨by simp, by simp, by simp [Partial.least],
      by simp [Partial.least, Partial.bound]⟩, rfl⟩
  split
  · exact Or.inr ⟨_, ⟨by simp, by simp, by simp [Partial.least]; omega,
      by simp [Partial.least, Partial.bound]; omega⟩, rfl⟩
  split
  · exact Or.inr ⟨_, ⟨by simp, by simp, by simp [Partial.least],
      by simp [Partial.least, Partial.bound]⟩, rfl⟩
  split
  · exact Or.inr ⟨_, ⟨by simp, by simp, by simp [Partial.least]; omega,
      by simp [Partial.least, Partial.bound]; omega⟩, rfl⟩
  split
  · exact Or.inr ⟨_, ⟨by simp, by simp, by simp [Partial.least],
      by simp [Partial.least, Partial.bound]⟩, rfl⟩
  · exact Or.inl rfl

/-- The last byte of a sound character makes it one past ASCII. -/
theorem Partial.Sound.last {p : Partial} (h : p.Sound) (hl : p.lacking ≤ 1) {n : Nat}
    (hlow : p.low ≤ n) (hhigh : n ≤ p.high) : High (Char.ofNat (p.bits * 0x40 + (n - 0x80))) := by
  have h1 : p.lacking - 1 = 0 := by omega
  have hlow' := h.low
  have hleast := h.least
  have hcode := h.codePoints
  unfold Partial.least at hleast hcode
  unfold Partial.bound at hcode
  rw [h1, Nat.pow_zero, Nat.mul_one] at hleast hcode
  rw [Nat.mul_one] at hcode
  unfold High
  rw [toNat_ofNat_of_codePoint (by omega)]
  omega

/-- Every other byte that continues a character narrows what it can still become. -/
theorem Partial.narrow {p : Partial} (hl : ¬ p.lacking ≤ 1) {n : Nat} (hlow : p.low ≤ n)
    (hhigh : n ≤ p.high) :
    let q : Partial := ⟨p.lacking - 1, 0x80, 0xBF, p.bits * 0x40 + (n - 0x80)⟩
    p.least ≤ q.least ∧ q.bound ≤ p.bound := by
  have hpow : 0x40 ^ (p.lacking - 1) = 0x40 * 0x40 ^ (p.lacking - 1 - 1) := by
    rw [← Nat.pow_succ']
    congr 1
    omega
  unfold Partial.least Partial.bound
  simp only [hpow]
  generalize 0x40 ^ (p.lacking - 1 - 1) = w
  constructor
  · calc (p.bits * 0x40 + (p.low - 0x80)) * (0x40 * w)
        ≤ (p.bits * 0x40 + (n - 0x80)) * (0x40 * w) := Nat.mul_le_mul_right _ (by omega)
      _ = ((p.bits * 0x40 + (n - 0x80)) * 0x40 + (0x80 - 0x80)) * w := by ring
  · calc ((p.bits * 0x40 + (n - 0x80)) * 0x40 + (0xBF - 0x80) + 1) * w
        = (p.bits * 0x40 + (n - 0x80) + 1) * (0x40 * w) := by ring
      _ ≤ (p.bits * 0x40 + (p.high - 0x80) + 1) * (0x40 * w) :=
        Nat.mul_le_mul_right _ (by omega)

theorem Partial.Sound.next {p : Partial} (h : p.Sound) (hl : ¬ p.lacking ≤ 1) {n : Nat}
    (hlow : p.low ≤ n) (hhigh : n ≤ p.high) :
    Partial.Sound ⟨p.lacking - 1, 0x80, 0xBF, p.bits * 0x40 + (n - 0x80)⟩ := by
  obtain ⟨hleast, hbound⟩ := Partial.narrow hl hlow hhigh
  have hlacking := h.lacking
  have h80 := h.least
  refine ⟨⟨by simp only; omega, by simp only; omega⟩, Nat.le_refl _, by omega, ?_⟩
  rcases h.codePoints with hc | ⟨hc, hc'⟩
  · exact Or.inl (Nat.le_trans hbound hc)
  · exact Or.inr ⟨Nat.le_trans hc hleast, Nat.le_trans hbound hc'⟩

theorem start_prints_high {b : UInt8} (hb : 0x80 ≤ b.toNat) :
    (∀ c ∈ (start b).1, High c) ∧ (start b).2.Sound := by
  rcases start_high hb with h | ⟨p, hp, h⟩
  · rw [h]
    exact ⟨high_finish (.inside ⟨1, 0x80, 0xBF, 2⟩), trivial⟩
  · rw [h]
    exact ⟨fun c hc => absurd hc List.not_mem_nil, hp⟩

/-- **A byte past ASCII prints characters past ASCII only.** -/
theorem step_high {s : State} (hs : s.Sound) {b : UInt8} (hb : 0x80 ≤ b.toNat) :
    (∀ c ∈ (step s b).1, High c) ∧ (step s b).2.Sound := by
  obtain ⟨hout, hnext⟩ := start_prints_high hb
  cases s with
  | boundary => exact ⟨hout, hnext⟩
  | inside p =>
    have hp : p.Sound := hs
    simp only [step]
    split
    · rename_i hin
      split
      · rename_i hl
        refine ⟨fun c hc => ?_, trivial⟩
        rw [List.mem_singleton.mp hc]
        exact hp.last hl hin.1 hin.2
      · rename_i hl
        exact ⟨fun c hc => absurd hc List.not_mem_nil, hp.next hl hin.1 hin.2⟩
    · refine ⟨fun c hc => ?_, hnext⟩
      rcases List.mem_cons.mp hc with rfl | hc
      · exact high_replacement
      · exact hout c hc

/-! ## 2. Many bytes -/

theorem decodeFrom_cons (s : State) (b : UInt8) (rest : List UInt8) :
    decodeFrom s (b :: rest) = (step s b).1 ++ decodeFrom (step s b).2 rest := by
  simp [decodeFrom, printed]

/-- **Reading goes on afresh behind an ASCII byte.** -/
theorem decodeFrom_ascii {s : State} (hs : s.Sound) {b : UInt8} (hb : b.toNat < 0x80)
    (rest : List UInt8) :
    decodeFrom s (b :: rest) = finish s ++ Char.ofNat b.toNat :: decodeFrom .boundary rest := by
  rw [decodeFrom_cons, step_ascii hs hb]
  simp

/-- Inside a character, what is read begins with a character past ASCII. -/
theorem decodeFrom_inside {p : Partial} (hp : p.Sound) (bytes : List UInt8) :
    ∃ c cs, decodeFrom (.inside p) bytes = c :: cs ∧ High c := by
  induction bytes generalizing p with
  | nil => exact ⟨replacement, [], rfl, high_replacement⟩
  | cons b rest ih =>
    rw [decodeFrom_cons]
    by_cases hin : p.low ≤ b.toNat ∧ b.toNat ≤ p.high
    · by_cases hl : p.lacking ≤ 1
      · simp only [step, if_pos hin, if_pos hl]
        exact ⟨_, _, rfl, hp.last hl hin.1 hin.2⟩
      · simp only [step, if_pos hin, if_neg hl]
        exact ih (hp.next hl hin.1 hin.2)
    · simp only [step, if_neg hin]
      exact ⟨replacement, _, rfl, high_replacement⟩

/-- Behind a byte past ASCII, what is read begins with a character past ASCII. -/
theorem decodeFrom_high {b : UInt8} (hb : 0x80 ≤ b.toNat) (rest : List UInt8) :
    ∃ c cs, decodeFrom .boundary (b :: rest) = c :: cs ∧ High c := by
  rw [decodeFrom_cons]
  rcases start_high hb with h | ⟨p, hp, h⟩
  · exact ⟨replacement, decodeFrom .boundary rest, by simp [step, h], high_replacement⟩
  · obtain ⟨c, cs, hc, hhigh⟩ := decodeFrom_inside hp rest
    exact ⟨c, cs, by simp [step, h, hc], hhigh⟩

theorem decodeFrom_eq_nil_iff (bytes : List UInt8) :
    decodeFrom .boundary bytes = [] ↔ bytes = [] := by
  constructor
  · intro h
    cases bytes with
    | nil => rfl
    | cons b rest =>
      by_cases hb : b.toNat < 0x80
      · rw [decodeFrom_ascii (s := .boundary) trivial hb] at h
        cases h
      · obtain ⟨c, cs, hc, -⟩ := decodeFrom_high (Nat.le_of_not_lt hb) rest
        rw [hc] at h
        cases h
  · rintro rfl
    rfl

/-! ## 3. Words of ASCII characters -/

/-- Whether all characters of a word are ASCII. -/
def Plain (w : List Char) : Prop := ∀ c ∈ w, c.toNat < 0x80

theorem encodeChar_plain {c : Char} (hc : c.toNat < 0x80) : encodeChar c = [.ofNat c.toNat] := by
  simp [encodeChar, hc]

/-- A byte and an ASCII character are the same number exactly when the byte is the character's. -/
theorem ofNat_toNat_eq_iff {b : UInt8} (hb : b.toNat < 0x80) {c : Char} (hc : c.toNat < 0x80) :
    c = Char.ofNat b.toNat ↔ UInt8.ofNat c.toNat = b := by
  constructor
  · rintro rfl
    rw [toNat_ofNat_of_codePoint (by omega)]
    simp
  · rintro rfl
    rw [toNat_ofNat_of_lt (by omega), Char.ofNat_toNat]

theorem ne_of_high {c d : Char} (hc : c.toNat < 0x80) (hd : High d) : c ≠ d := by
  rintro rfl
  exact absurd hc (Nat.not_lt.mpr hd)

/-- A byte past ASCII is no ASCII character's. -/
theorem ofNat_toNat_ne {b : UInt8} (hb : ¬ b.toNat < 0x80) {c : Char} (hc : c.toNat < 0x80) :
    UInt8.ofNat c.toNat ≠ b := by
  rintro rfl
  rw [toNat_ofNat_of_lt (by omega)] at hb
  exact hb hc

/-- **A text begins with a word exactly where its bytes begin with the word's.** -/
theorem prefix_decodeFrom_iff {w : List Char} (hw : Plain w) (bytes : List UInt8) :
    w <+: decodeFrom .boundary bytes ↔ encodeChars w <+: bytes := by
  induction w generalizing bytes with
  | nil => simp
  | cons c w ih =>
    have hc : c.toNat < 0x80 := hw c List.mem_cons_self
    have hw' : Plain w := fun d hd => hw d (List.mem_cons_of_mem c hd)
    rw [encodeChars_cons, encodeChar_plain hc, List.singleton_append]
    cases bytes with
    | nil => simp [decodeFrom, printed, finish]
    | cons b rest =>
      rw [List.cons_prefix_cons]
      by_cases hb : b.toNat < 0x80
      · rw [decodeFrom_ascii (s := .boundary) trivial hb, ← ofNat_toNat_eq_iff hb hc, ← ih hw' rest]
        exact List.cons_prefix_cons
      · obtain ⟨d, ds, hd, hhigh⟩ := decodeFrom_high (Nat.le_of_not_lt hb) rest
        have hcd : c ≠ d := ne_of_high hc hhigh
        have hcb : UInt8.ofNat c.toNat ≠ b := ofNat_toNat_ne hb hc
        rw [hd, List.cons_prefix_cons]
        exact ⟨fun h => absurd h.1 hcd, fun h => absurd h.1 hcb⟩

/-- **A text is a word exactly when its bytes are the word's.** -/
theorem decodeFrom_eq_iff {w : List Char} (hw : Plain w) (bytes : List UInt8) :
    decodeFrom .boundary bytes = w ↔ bytes = encodeChars w := by
  obtain ⟨hread, hafter⟩ := read_encodeChars w
  constructor
  · intro h
    obtain ⟨rest, rfl⟩ := (prefix_decodeFrom_iff hw bytes).mp (h ▸ List.prefix_rfl)
    rw [decodeFrom_append, hread, hafter] at h
    have hrest : decodeFrom .boundary rest = [] := by simpa using h
    rw [(decodeFrom_eq_nil_iff rest).mp hrest, List.append_nil]
  · rintro rfl
    simp [decodeFrom, hread, hafter, finish]

/-- Characters past ASCII in front hide no word. -/
theorem infix_append_high {c : Char} {w : List Char} (hc : c.toNat < 0x80) {out : List Char}
    (hout : ∀ d ∈ out, High d) (cs : List Char) : c :: w <:+: out ++ cs ↔ c :: w <:+: cs := by
  induction out with
  | nil => exact Iff.rfl
  | cons d out ih =>
    have hcd : c ≠ d := ne_of_high hc (hout d List.mem_cons_self)
    rw [List.cons_append, List.infix_cons_iff, List.cons_prefix_cons,
      ih fun e he => hout e (List.mem_cons_of_mem d he)]
    exact ⟨fun h => h.resolve_left fun hp => hcd hp.1, Or.inr⟩

/-- **A text holds a word exactly where its bytes hold the word's.** -/
theorem infix_decodeFrom_iff {w : List Char} (hw : Plain w) (hne : w ≠ []) {s : State}
    (hs : s.Sound) (bytes : List UInt8) :
    w <:+: decodeFrom s bytes ↔ encodeChars w <:+: bytes := by
  obtain ⟨c, v, rfl⟩ := List.exists_cons_of_ne_nil hne
  have hc : c.toNat < 0x80 := hw c List.mem_cons_self
  induction bytes generalizing s with
  | nil =>
    have hfinish := infix_append_high (w := v) hc (high_finish s) []
    rw [List.append_nil] at hfinish
    rw [show decodeFrom s [] = finish s from rfl, hfinish, encodeChars_cons, encodeChar_plain hc]
    simp
  | cons b rest ih =>
    by_cases hb : b.toNat < 0x80
    · have hrest : c :: v <:+: decodeFrom .boundary rest ↔ encodeChars (c :: v) <:+: rest :=
        ih trivial
      rw [decodeFrom_ascii hs hb, infix_append_high hc (high_finish s), List.infix_cons_iff,
        List.infix_cons_iff, hrest]
      have hprefix := prefix_decodeFrom_iff hw (b :: rest)
      rw [decodeFrom_ascii (s := .boundary) trivial hb] at hprefix
      exact or_congr_left hprefix
    · obtain ⟨hout, hnext⟩ := step_high hs (Nat.le_of_not_lt hb)
      have hcb : UInt8.ofNat c.toNat ≠ b := ofNat_toNat_ne hb hc
      have hrest : c :: v <:+: decodeFrom (step s b).2 rest ↔ encodeChars (c :: v) <:+: rest :=
        ih hnext
      rw [decodeFrom_cons, infix_append_high hc hout, hrest, List.infix_cons_iff,
        encodeChars_cons, encodeChar_plain hc, List.singleton_append, List.cons_prefix_cons]
      exact ⟨Or.inr, fun h => h.resolve_left fun hp => hcb hp.1⟩

/-! ## 4. Splitting at an ASCII character -/

theorem afterFirst_append_of_not_mem {α : Type} [DecidableEq α] {mark : α} {xs : List α}
    (h : mark ∉ xs) (ys : List α) :
    Command.afterFirst mark (xs ++ ys) = Command.afterFirst mark ys := by
  induction xs with
  | nil => rfl
  | cons x xs ih =>
    have hx : x ≠ mark := fun e => h (e ▸ List.mem_cons_self)
    simp only [List.cons_append, Command.afterFirst, if_neg hx]
    exact ih fun hm => h (List.mem_cons_of_mem x hm)

/-- **Splitting the text is reading the split bytes.** -/
theorem afterFirst_decodeFrom {mark : Char} (hmark : mark.toNat < 0x80) {s : State}
    (hs : s.Sound) (bytes : List UInt8) :
    Command.afterFirst mark (decodeFrom s bytes) =
      decodeFrom .boundary (Command.afterFirst (.ofNat mark.toNat) bytes) := by
  have hhigh : ∀ out : List Char, (∀ c ∈ out, High c) → mark ∉ out := fun out hout hm =>
    ne_of_high hmark (hout mark hm) rfl
  induction bytes generalizing s with
  | nil =>
    have hfinish := afterFirst_append_of_not_mem (hhigh _ (high_finish s)) []
    rw [List.append_nil] at hfinish
    exact hfinish
  | cons b rest ih =>
    by_cases hb : b.toNat < 0x80
    · rw [decodeFrom_ascii hs hb, afterFirst_append_of_not_mem (hhigh _ (high_finish s))]
      simp only [Command.afterFirst, eq_comm (b := mark), ofNat_toNat_eq_iff hb hmark,
        eq_comm (a := b)]
      split
      · rfl
      · exact ih trivial
    · obtain ⟨hout, hnext⟩ := step_high hs (Nat.le_of_not_lt hb)
      have hbm : b ≠ .ofNat mark.toNat := (ofNat_toNat_ne hb hmark).symm
      rw [decodeFrom_cons, afterFirst_append_of_not_mem (hhigh _ hout), ih hnext]
      simp only [Command.afterFirst, if_neg hbm]

end Steward.Utf8
