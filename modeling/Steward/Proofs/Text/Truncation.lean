import Steward.Proofs.Text.Ascii

/-!
# Cutting a text at a number of bytes

A text that is kept up to some number of bytes may be cut inside a character. What is read of it then
are the characters in front of the cut, and one replacement for the character that was cut off.

* `length_decodeFrom_le` -- there are no more characters than bytes, whatever the bytes are.
* `inside_of_printed_nil` -- bytes that print nothing leave the reader inside a character, so
  `decodeFrom_begun`: a character that was begun and not finished reads as one replacement.
* `Longest` -- the longest beginning of some characters that has room in a number of bytes;
  `Straddled` -- whether a character lies across a position. `Longest.straddled_iff` compares them.
* `Longest.decodeFrom_take` -- what is read of a text that was cut.
-/

namespace Steward.Utf8

/-! ## 1. Characters and bytes -/

/-- **A first byte prints one character, or begins one.** -/
theorem start_cases (b : UInt8) :
    (∃ c, start b = ([c], .boundary)) ∨ ∃ p, start b = ([], .inside p) := by
  by_cases hb : b.toNat < 0x80
  · exact Or.inl ⟨_, start_of_ascii hb⟩
  · rcases start_high (Nat.le_of_not_lt hb) with h | ⟨p, -, h⟩
    · exact Or.inl ⟨replacement, h⟩
    · exact Or.inr ⟨p, h⟩

/-- One byte pays for one character, and the end for one that is cut off. -/
theorem length_step_le (s : State) (b : UInt8) :
    (step s b).1.length + (finish (step s b).2).length ≤ 1 + (finish s).length := by
  have hstart : (start b).1.length + (finish (start b).2).length ≤ 1 := by
    rcases start_cases b with ⟨c, h⟩ | ⟨p, h⟩ <;> rw [h] <;> rfl
  cases s with
  | boundary => exact hstart
  | inside p =>
    have hbegun : (finish (.inside p)).length = 1 := rfl
    simp only [step]
    split
    · split <;> simp [finish]
    · show (replacement :: (start b).1).length + (finish (start b).2).length ≤ _
      rw [List.length_cons, hbegun]
      omega

/-- **No more characters are read than there are bytes**, but for one that has begun before. -/
theorem length_decodeFrom_le (s : State) (bytes : List UInt8) :
    (decodeFrom s bytes).length ≤ bytes.length + (finish s).length := by
  induction bytes generalizing s with
  | nil => exact Nat.le_add_left _ _
  | cons b rest ih =>
    have hstep := length_step_le s b
    have hrest := ih (step s b).2
    rw [decodeFrom_cons, List.length_append, List.length_cons]
    omega

/-- A byte that prints nothing begins a character, or continues one. -/
theorem inside_of_step_nil {s : State} {b : UInt8} (h : (step s b).1 = []) :
    ∃ p, (step s b).2 = .inside p := by
  cases s with
  | boundary =>
    rcases start_cases b with ⟨c, hb⟩ | ⟨p, hb⟩
    · rw [step, hb] at h
      cases h
    · exact ⟨p, by rw [step, hb]⟩
  | inside p =>
    simp only [step] at h ⊢
    split
    · rename_i hin
      rw [if_pos hin] at h
      split
      · rename_i hlast
        rw [if_pos hlast] at h
        cases h
      · exact ⟨_, rfl⟩
    · rename_i hout
      rw [if_neg hout] at h
      cases h

/-- **Bytes that print nothing leave the reader inside a character.** -/
theorem inside_of_printed_nil {s : State} {bytes : List UInt8} (h : printed s bytes = [])
    (hne : bytes ≠ []) : ∃ p, after s bytes = .inside p := by
  induction bytes generalizing s with
  | nil => exact absurd rfl hne
  | cons b rest ih =>
    obtain ⟨hb, hrest⟩ := List.append_eq_nil_iff.mp h
    rw [after_cons]
    by_cases hlast : rest = []
    · rw [hlast]
      exact inside_of_step_nil hb
    · exact ih hrest hlast

/-- **A character that was begun and not finished reads as one replacement.** -/
theorem decodeFrom_begun {c : Char} {front back : List UInt8} (h : encodeChar c = front ++ back)
    (hfront : front ≠ []) (hback : back ≠ []) : decodeFrom .boundary front = [replacement] := by
  obtain ⟨hread, hafter⟩ := read_encodeChar c
  rw [h, printed_append] at hread
  rw [h, after_append] at hafter
  -- had the front printed the character, the back would print nothing and yet end behind it
  have hsilent : printed .boundary front = [] := by
    cases hprinted : printed .boundary front with
    | nil => rfl
    | cons d ds =>
      rw [hprinted] at hread
      have hnothing : printed (after .boundary front) back = [] :=
        (List.append_eq_nil_iff.mp (List.cons.inj hread).2).2
      obtain ⟨p, hp⟩ := inside_of_printed_nil hnothing hback
      rw [hp] at hafter
      cases hafter
  obtain ⟨p, hp⟩ := inside_of_printed_nil hsilent hfront
  rw [decodeFrom, hsilent, hp]
  rfl

/-! ## 2. Whole characters -/

theorem size_append (cs ds : List Char) : size (cs ++ ds) = size cs + size ds := by
  simp [size]

theorem size_singleton (c : Char) : size [c] = (encodeChar c).length := by
  simp [size]

theorem size_le_of_prefix {cs ds : List Char} (h : cs <+: ds) : size cs ≤ size ds := by
  obtain ⟨rest, rfl⟩ := h
  rw [size_append]
  exact Nat.le_add_right _ _

/-- **The longest beginning of some characters that has room** in a number of bytes. -/
structure Longest (room : Nat) (cs front : List Char) : Prop where
  beginning : front <+: cs
  fits : size front ≤ room
  longest : ∀ other, other <+: cs → size other ≤ room → other <+: front

theorem exists_longest (room : Nat) (cs : List Char) : ∃ front, Longest room cs front := by
  induction cs generalizing room with
  | nil => exact ⟨[], List.prefix_rfl, Nat.zero_le _, fun _ h _ => h⟩
  | cons c cs ih =>
    have hsize : ∀ ds, size (c :: ds) = (encodeChar c).length + size ds := fun ds => by
      simp [size]
    by_cases hc : (encodeChar c).length ≤ room
    · obtain ⟨front, hfront⟩ := ih (room - (encodeChar c).length)
      have hfits := hfront.fits
      refine ⟨c :: front, List.cons_prefix_cons.mpr ⟨rfl, hfront.beginning⟩, ?_, ?_⟩
      · rw [hsize]
        omega
      · intro other hother hroom
        rcases List.prefix_cons_iff.mp hother with rfl | ⟨ds, rfl, hds⟩
        · exact List.nil_prefix
        · rw [hsize] at hroom
          exact List.cons_prefix_cons.mpr ⟨rfl, hfront.longest ds hds (by omega)⟩
    · refine ⟨[], List.nil_prefix, Nat.zero_le _, fun other hother hroom => ?_⟩
      rcases List.prefix_cons_iff.mp hother with rfl | ⟨ds, rfl, -⟩
      · exact List.prefix_rfl
      · rw [hsize] at hroom
        omega

/-- Of characters that have no room, the next one behind the longest beginning has none. -/
theorem Longest.next {room : Nat} {cs front : List Char} (h : Longest room cs front)
    (hlong : room < size cs) :
    ∃ c rest, cs = front ++ c :: rest ∧ room < size (front ++ [c]) := by
  obtain ⟨rest, rfl⟩ := h.beginning
  cases rest with
  | nil =>
    rw [List.append_nil] at hlong
    exact absurd h.fits (Nat.not_le.mpr hlong)
  | cons c rest =>
    refine ⟨c, rest, rfl, Nat.lt_of_not_le fun hroom => ?_⟩
    have hmore : front ++ [c] <+: front ++ c :: rest := ⟨rest, by simp⟩
    have hlength := (h.longest _ hmore hroom).length_le
    simp at hlength

/-- **A character lies across a position**: it begins before it and ends behind it. -/
def Straddled (cs : List Char) (position : Nat) : Prop :=
  ∃ front c, front ++ [c] <+: cs ∧ size front < position ∧ position < size (front ++ [c])

/-- **A character lies across a position exactly if the characters before it do not reach it.** -/
theorem Longest.straddled_iff {room : Nat} {cs front : List Char} (h : Longest room cs front)
    (hlong : room < size cs) : Straddled cs room ↔ size front < room := by
  constructor
  · intro ⟨before, c, hbegins, hbefore, hbehind⟩
    have hwithin : before <+: front :=
      h.longest before ((List.prefix_append before [c]).trans hbegins) (Nat.le_of_lt hbefore)
    by_contra hreached
    have hfull : size front = room := Nat.le_antisymm h.fits (Nat.le_of_not_lt hreached)
    -- the longest beginning would hold the character that lies across
    have hlength : (before ++ [c]).length ≤ front.length := by
      rw [List.length_append, List.length_singleton]
      refine Nat.lt_of_le_of_ne hwithin.length_le fun heq => ?_
      rw [hwithin.eq_of_length heq, hfull] at hbefore
      exact absurd hbefore (Nat.lt_irrefl _)
    have hheld := List.prefix_of_prefix_length_le hbegins h.beginning hlength
    have hsize := size_le_of_prefix hheld
    omega
  · intro hroom
    obtain ⟨c, rest, rfl, hbehind⟩ := h.next hlong
    exact ⟨front, c, ⟨rest, by simp⟩, hroom, hbehind⟩

/-! ## 3. The cut -/

/-- **What is read of a text that was cut**: the longest beginning that has room, and one replacement
    if it does not fill it. -/
theorem Longest.decodeFrom_take {room : Nat} {cs front : List Char} (h : Longest room cs front)
    (hlong : room < size cs) :
    decodeFrom .boundary ((encodeChars cs).take room) =
      front ++ if size front < room then [replacement] else [] := by
  obtain ⟨c, rest, rfl, hbehind⟩ := h.next hlong
  obtain ⟨hread, hafter⟩ := read_encodeChars front
  have hfits := h.fits
  have hcut : (encodeChars (front ++ c :: rest)).take room =
      encodeChars front ++ (encodeChar c).take (room - size front) := by
    rw [size_append, size_singleton] at hbehind
    rw [encodeChars_append, encodeChars_cons, List.take_append, List.take_of_length_le hfits,
      List.take_append_of_le_length (by show room - size front ≤ _; omega)]
    rfl
  rw [hcut, decodeFrom_append, hread, hafter]
  split
  · rename_i hroom
    rw [size_append, size_singleton] at hbehind
    have hfront : (encodeChar c).take (room - size front) ≠ [] := by
      intro hnil
      have hlength := congrArg List.length hnil
      rw [List.length_take, List.length_nil] at hlength
      omega
    have hback : (encodeChar c).drop (room - size front) ≠ [] := by
      intro hnil
      have hlength := congrArg List.length hnil
      rw [List.length_drop, List.length_nil] at hlength
      omega
    rw [decodeFrom_begun (List.take_append_drop _ _).symm hfront hback]
  · rename_i hfull
    rw [show room - size front = 0 by omega]
    rfl

end Steward.Utf8
