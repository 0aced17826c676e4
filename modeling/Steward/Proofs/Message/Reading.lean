import Steward.Proofs.Message.Content

/-!
# Reading to the end, and no further

A message is read from a stream that comes in pieces of any size, may have nothing to offer for a
while, and ends or fails at some point. This file says what is read of it, and what is not.

* `Cut` -- a stream, cut at the first piece that ends it.
* `content_of_cut` -- what is read are the bytes before the cut; `unread_of_cut` -- and what is left
  unread is all behind it, however little of a message was kept.
* `reads_to_end` -- so what is known of a message depends on these bytes and the limit alone.
-/

namespace Steward

/-- Whether a piece ends a stream: it has no bytes, or is a failure. -/
def Piece.ends : Piece → Bool
  | .bytes chunk => chunk.isEmpty
  | .pending => false
  | .failure _ => true

/-- The bytes that a piece brings. -/
def Piece.payload : Piece → List UInt8
  | .bytes chunk => chunk
  | .pending => []
  | .failure _ => []

/-- **A stream, cut at the first piece that ends it**: what comes before that piece, and what comes
    behind it. A stream without such a piece ends with its last one. -/
structure Cut (stream front rest : List Piece) : Prop where
  /-- Nothing before the cut ends the stream. -/
  open_front : ∀ p ∈ front, p.ends = false
  ended : (stream = front ∧ rest = []) ∨ ∃ last, last.ends = true ∧ stream = front ++ last :: rest

theorem Cut.cons {stream front rest : List Piece} {p : Piece} (h : Cut stream front rest)
    (hp : p.ends = false) : Cut (p :: stream) (p :: front) rest := by
  constructor
  · intro q hq
    rcases List.mem_cons.mp hq with rfl | hq
    · exact hp
    · exact h.open_front q hq
  · rcases h.ended with ⟨hstream, hrest⟩ | ⟨last, hlast, hstream⟩
    · exact Or.inl ⟨by rw [hstream], hrest⟩
    · exact Or.inr ⟨last, hlast, by rw [hstream, List.cons_append]⟩

/-- What is cut behind its first piece is cut without it as well. -/
theorem Cut.tail {stream front rest : List Piece} {p : Piece} (h : Cut stream (p :: front) rest) :
    ∃ stream', stream = p :: stream' ∧ Cut stream' front rest := by
  have hopen : ∀ q ∈ front, q.ends = false :=
    fun q hq => h.open_front q (List.mem_cons_of_mem p hq)
  rcases h.ended with ⟨hstream, hrest⟩ | ⟨last, hlast, hstream⟩
  · exact ⟨front, hstream, hopen, Or.inl ⟨rfl, hrest⟩⟩
  · exact ⟨front ++ last :: rest, hstream, hopen, Or.inr ⟨last, hlast, rfl⟩⟩

/-- **Every stream can be cut.** -/
theorem exists_cut_stream (stream : List Piece) : ∃ front rest, Cut stream front rest := by
  induction stream with
  | nil => exact ⟨[], [], nofun, Or.inl ⟨rfl, rfl⟩⟩
  | cons p stream ih =>
    cases hp : p.ends with
    | true => exact ⟨[], stream, nofun, Or.inr ⟨p, hp, rfl⟩⟩
    | false =>
      obtain ⟨front, rest, hcut⟩ := ih
      exact ⟨p :: front, rest, hcut.cons hp⟩

namespace Message

/-! ## 1. Before the cut -/

/-- A piece that does not end the stream adds its bytes to what is delivered. -/
theorem content_cons {p : Piece} (hp : p.ends = false) (stream : List Piece) :
    content (p :: stream) = p.payload ++ content stream := by
  cases p with
  | bytes chunk =>
    cases chunk with
    | nil => cases hp
    | cons b bs => rfl
  | pending => rfl
  | failure error => cases hp

/-- Nothing is delivered from the piece on that ends the stream. -/
theorem content_of_ends {p : Piece} (hp : p.ends = true) (stream : List Piece) :
    content (p :: stream) = [] := by
  cases p with
  | bytes chunk =>
    cases chunk with
    | nil => rfl
    | cons b bs => cases hp
  | pending => cases hp
  | failure error => rfl

theorem content_append {front : List Piece} (h : ∀ p ∈ front, p.ends = false)
    (stream : List Piece) :
    content (front ++ stream) = front.flatMap Piece.payload ++ content stream := by
  induction front with
  | nil => rfl
  | cons p front ih =>
    have hrest : ∀ q ∈ front, q.ends = false := fun q hq => h q (List.mem_cons_of_mem p hq)
    rw [List.cons_append, content_cons (h p List.mem_cons_self), ih hrest, List.flatMap_cons,
      List.append_assoc]

/-- **What is read are the bytes before the cut.** -/
theorem content_of_cut {stream front rest : List Piece} (h : Cut stream front rest) :
    content stream = front.flatMap Piece.payload := by
  rcases h.ended with ⟨rfl, -⟩ | ⟨last, hlast, rfl⟩
  · have hall := content_append h.open_front []
    rw [List.append_nil] at hall
    rw [hall, content, List.append_nil]
  · rw [content_append h.open_front, content_of_ends hlast, List.append_nil]

/-! ## 2. Behind the cut -/

/-- What is read of a piece that does not end the stream changes nothing about what is left. -/
theorem unread_cons {p : Piece} (hp : p.ends = false) (limit : Option Nat) (m : Message)
    (stream : List Piece) :
    ∃ m', (readFrom limit m (p :: stream)).unread = (readFrom limit m' stream).unread := by
  cases p with
  | bytes chunk =>
    cases chunk with
    | nil => cases hp
    | cons b bs => exact ⟨_, rfl⟩
  | pending => exact ⟨m, rfl⟩
  | failure error => cases hp

theorem unread_of_ends {p : Piece} (hp : p.ends = true) (limit : Option Nat) (m : Message)
    (stream : List Piece) : (readFrom limit m (p :: stream)).unread = stream := by
  cases p with
  | bytes chunk =>
    cases chunk with
    | nil => rfl
    | cons b bs => cases hp
  | pending => cases hp
  | failure error => rfl

/-- **What is left unread is all behind the cut**, whatever has been read and kept before. -/
theorem unread_of_cut {stream front rest : List Piece} (h : Cut stream front rest)
    (limit : Option Nat) (m : Message) : (readFrom limit m stream).unread = rest := by
  induction front generalizing stream m with
  | nil =>
    rcases h.ended with ⟨rfl, rfl⟩ | ⟨last, hlast, rfl⟩
    · rfl
    · exact unread_of_ends hlast limit m rest
  | cons p front ih =>
    obtain ⟨stream, rfl, htail⟩ := h.tail
    obtain ⟨m', hm⟩ := unread_cons (h.open_front p List.mem_cons_self) limit m stream
    rw [hm]
    exact ih htail m'

/-! ## 3. The whole -/

theorem exceeds_iff {limit : Option Nat} {count : Nat} :
    exceeds limit count = true ↔ ∃ n, limit = some n ∧ n < count := by
  cases limit <;> simp [exceeds]

theorem of_bytes (limit : Option Nat) (bytes : List UInt8) :
    (of limit bytes).bytes = if exceeds limit bytes.length then [] else bytes := by
  unfold of
  split <;> rfl

/-- **A message is read to the end of its stream and no further.** All bytes before the first end or
    failure are counted, and kept unless they are more than the limit allows; the piece that ends
    the stream is taken, and nothing behind it, whatever the limit is. So streams that bring the
    same bytes before they end make the same message, however these are cut into pieces, wherever
    there was nothing to read for a while, and whether they end or fail. -/
theorem reads_to_end (stream : List Piece) :
    (∃ front rest, Cut stream front rest) ∧
    ∀ front rest, Cut stream front rest → ∀ limit : Option Nat,
      let bytes := front.flatMap Piece.payload
      let r := read limit stream
      r.message.received = bytes.length ∧
        (r.message.exceeded = true ↔ ∃ n, limit = some n ∧ n < bytes.length) ∧
        r.message.bytes = (if r.message.exceeded then [] else bytes) ∧
        r.unread = rest ∧
        ∀ stream' front' rest', Cut stream' front' rest' →
          front'.flatMap Piece.payload = bytes → (read limit stream').message = r.message := by
  refine ⟨exists_cut_stream stream, ?_⟩
  intro front rest hcut limit bytes r
  have hmessage : r.message = of limit bytes := by
    have hall := read_message limit stream
    rwa [content_of_cut hcut] at hall
  have hexceeded : r.message.exceeded = exceeds limit bytes.length := by
    rw [hmessage, of_exceeded]
  refine ⟨?_, ?_, ?_, unread_of_cut hcut limit empty, ?_⟩
  · rw [hmessage, of_received]
  · rw [hexceeded, exceeds_iff]
  · rw [hexceeded, hmessage, of_bytes]
  · intro stream' front' rest' hcut' hbytes
    rw [hmessage, read_message, content_of_cut hcut', hbytes]

end Message

end Steward
