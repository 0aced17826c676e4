import Steward.Message

/-!
# What was read, computed from the bytes alone

The reader keeps what it has read, a count, and whether the limit was passed. None of them depends
on how the bytes were cut into reads.

* `Message.of` -- the state of the reader after some bytes, computed from the bytes and the limit.
* `absorb_of` -- a chunk takes the state after some bytes to the state after these and the chunk.
* `read_message` -- so reading a stream gives the state after its `content`, all bytes before it
  first ends or fails.
* `handleClient_eq` -- a connection within the limit is one message handled, the text of its content.
-/

namespace Steward

namespace Message

/-- **The message of which some bytes have been read.** -/
def of (limit : Option Nat) (bytes : List UInt8) : Message :=
  if exceeds limit bytes.length then ⟨[], bytes.length, true⟩ else ⟨bytes, bytes.length, false⟩

theorem of_received (limit : Option Nat) (bytes : List UInt8) :
    (of limit bytes).received = bytes.length := by
  unfold of
  split <;> rfl

theorem of_exceeded (limit : Option Nat) (bytes : List UInt8) :
    (of limit bytes).exceeded = exceeds limit bytes.length := by
  unfold of
  split <;> simp_all

theorem of_text {limit : Option Nat} {bytes : List UInt8} (h : exceeds limit bytes.length = false) :
    (of limit bytes).text = Utf8.decodeLossy bytes := by
  simp [of, h, text]

theorem empty_eq_of (limit : Option Nat) : empty = of limit [] := by
  cases limit <;> rfl

theorem exceeds_eq_false_iff {limit : Option Nat} {count : Nat} :
    exceeds limit count = false ↔ ∀ n, limit = some n → count ≤ n := by
  cases limit <;> simp [exceeds]

/-- More bytes stay over the limit. -/
theorem exceeds_mono {limit : Option Nat} {m n : Nat} (hmn : m ≤ n) (h : exceeds limit m = true) :
    exceeds limit n = true := by
  cases limit with
  | none => cases h
  | some max =>
    simp only [exceeds, decide_eq_true_eq] at h ⊢
    omega

/-- **A chunk takes the state after some bytes to the state after these and the chunk.** -/
theorem absorb_of (limit : Option Nat) (bytes chunk : List UInt8) :
    absorb limit (of limit bytes) chunk = of limit (bytes ++ chunk) := by
  cases h : exceeds limit bytes.length with
  | true =>
    have hmore : exceeds limit (bytes.length + chunk.length) = true :=
      exceeds_mono (Nat.le_add_right _ _) h
    simp [absorb, of, h, hmore]
  | false =>
    simp only [absorb, of, h, List.length_append]
    split <;> simp_all

theorem absorbAll_of (limit : Option Nat) (bytes : List UInt8) (cs : List (List UInt8)) :
    absorbAll limit (of limit bytes) cs = of limit (bytes ++ cs.flatten) := by
  induction cs generalizing bytes with
  | nil => simp [absorbAll]
  | cons c cs ih =>
    have h := ih (bytes ++ c)
    simp only [absorbAll, List.foldl_cons, absorb_of] at h ⊢
    rw [h, List.flatten_cons, List.append_assoc]

/-- Cutting loses nothing. -/
theorem flatten_chunks (bytes : List UInt8) : (chunks bytes).flatten = bytes := by
  induction bytes using chunks.induct with
  | case1 bytes h hempty => rw [chunks, dif_pos h, if_pos hempty, List.isEmpty_iff.mp hempty]; rfl
  | case2 bytes h hfull => rw [chunks, dif_pos h, if_neg hfull]; simp
  | case3 bytes h ih => rw [chunks, dif_neg h, List.flatten_cons, ih, List.take_append_drop]

/-- **The bytes that a stream delivers** before it first ends or fails. -/
def content : List Piece → List UInt8
  | [] => []
  | .pending :: rest => content rest
  | .failure _ :: _ => []
  | .bytes [] :: _ => []
  | .bytes (b :: bs) :: rest => b :: bs ++ content rest

theorem readFrom_message (limit : Option Nat) (bytes : List UInt8) (stream : List Piece) :
    (readFrom limit (of limit bytes) stream).message = of limit (bytes ++ content stream) := by
  induction stream using content.induct generalizing bytes with
  | case1 => simp [readFrom, content]
  | case2 rest ih => exact ih bytes
  | case3 error rest => simp [readFrom, content]
  | case4 rest => simp [readFrom, content]
  | case5 b bs rest ih =>
    simp only [readFrom, content, absorbAll_of, flatten_chunks]
    rw [ih, List.append_assoc]

/-- **Reading a stream gives the state after its content.** -/
theorem read_message (limit : Option Nat) (stream : List Piece) :
    (read limit stream).message = of limit (content stream) := by
  unfold read
  rw [empty_eq_of limit, readFrom_message]
  rfl

/-- **All that reading says** is how much each read brought, and that a read failed. -/
theorem readFrom_events (limit : Option Nat) (m : Message) (stream : List Piece) :
    ∀ e ∈ (readFrom limit m stream).events,
      (∃ count, e = .readChunk count) ∨ ∃ error received, e = .readFailed error received := by
  induction stream using content.induct generalizing m with
  | case1 => exact nofun
  | case2 rest ih => exact ih m
  | case3 error rest =>
    intro e he
    exact Or.inr ⟨error, m.received, List.mem_singleton.mp he⟩
  | case4 rest => exact nofun
  | case5 b bs rest ih =>
    intro e he
    rcases List.mem_append.mp he with he | he
    · obtain ⟨chunk, -, rfl⟩ := List.mem_map.mp he
      exact Or.inl ⟨chunk.length, rfl⟩
    · exact ih _ e he

/-- What neither a read nor its failure is, reading does not say. -/
theorem filter_readFrom {p : Event → Bool} (hread : ∀ count, p (.readChunk count) = false)
    (hfailed : ∀ error received, p (.readFailed error received) = false) (limit : Option Nat)
    (m : Message) (stream : List Piece) : (readFrom limit m stream).events.filter p = [] := by
  refine List.filter_eq_nil_iff.mpr fun e he => ?_
  rcases readFrom_events limit m stream e he with ⟨count, rfl⟩ | ⟨error, received, rfl⟩
  · rw [hread]
    exact Bool.false_ne_true
  · rw [hfailed]
    exact Bool.false_ne_true

end Message

/-- **One connection within the limit is one message handled**, behind what its reading says. -/
theorem handleClient_eq (host : Host) {limit : Option Nat} (desk : Desk) {stream : List Piece}
    (h : Message.exceeds limit (Message.content stream).length = false) :
    let text := Utf8.decodeLossy (Message.content stream)
    handleClient host limit desk stream =
      { command := some (.parse text)
        desk := (desk.handle host text).1
        events := .clientConnected :: (Message.read limit stream).events ++
          (desk.handle host text).2.events } := by
  have hfits : (Message.read limit stream).message.exceeded = false := by
    rw [Message.read_message, Message.of_exceeded, h]
  have htext : (Message.read limit stream).message.text =
      Utf8.decodeLossy (Message.content stream) := by
    rw [Message.read_message, Message.of_text h]
  unfold handleClient
  rw [if_neg (by rw [hfits]; exact Bool.false_ne_true), htext]
  rfl

end Steward
