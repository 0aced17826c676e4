import Mathlib.Algebra.GroupWithZero.Nat
import Steward.Proofs.Message.Reading

/-!
# What the log says of a reading

Each read that brings something is logged with the number of its bytes, and a failure with the
number of all bytes before it. So the log accounts for the stream, whether its bytes are kept or not.

* `Fetch` -- one read that brings something; `Stops` -- why there is none any more; `Reads` -- all
  the reads of a stream, one after another. `Reads.unique`: there is one way to read a stream.
* `readFrom_of_fetch` -- what the reader says of one read; `events_of_reads` -- and of all.
* `reads_of_cut` -- the reads of a stream are those of the pieces before its cut, and `counts` says
  how many bytes each of them brings.
* `Accounted` -- all that is promised of the log; `reading_accounted` says that it is kept.
-/

namespace Steward

/-- The number of bytes that an event says were read. -/
def Event.count? : Event → Option Nat
  | .readChunk count => some count
  | _ => none

namespace Message

/-! ## 1. Reads -/

/-- **One read that brings something**: what it brings, and what the stream has to offer then. It
    waits for a piece, and takes no more of it than 512 bytes. -/
inductive Fetch : List Piece → List UInt8 → List Piece → Prop
  | wait {stream chunk rest} (h : Fetch stream chunk rest) : Fetch (.pending :: stream) chunk rest
  | whole {bytes stream} (hne : bytes ≠ []) (hfits : bytes.length ≤ 512) :
      Fetch (.bytes bytes :: stream) bytes stream
  | part {bytes stream} (hlong : 512 < bytes.length) :
      Fetch (.bytes bytes :: stream) (bytes.take 512) (.bytes (bytes.drop 512) :: stream)

/-- Why nothing more is read of a stream. -/
inductive Stop
  | ended
  | failed (error : String)

/-- **The next read brings nothing.** -/
inductive Stops : List Piece → Stop → Prop
  | wait {stream stop} (h : Stops stream stop) : Stops (.pending :: stream) stop
  | exhausted : Stops [] .ended
  | ended {stream} : Stops (.bytes [] :: stream) .ended
  | failed {error stream} : Stops (.failure error :: stream) (.failed error)

/-- **All the reads of a stream**, and why they stop. -/
inductive Reads : List Piece → List (List UInt8) → Stop → Prop
  | stop {stream stop} (h : Stops stream stop) : Reads stream [] stop
  | fetch {stream chunk rest reads stop} (h : Fetch stream chunk rest) (hrest : Reads rest reads stop) :
      Reads stream (chunk :: reads) stop

theorem Fetch.unique {stream rest rest' : List Piece} {chunk chunk' : List UInt8}
    (h : Fetch stream chunk rest) (h' : Fetch stream chunk' rest') :
    chunk' = chunk ∧ rest' = rest := by
  induction h with
  | wait h ih =>
    cases h' with
    | wait h' => exact ih h'
  | whole hne hfits =>
    cases h' with
    | whole => exact ⟨rfl, rfl⟩
    | part hlong => exact absurd hfits (Nat.not_le.mpr hlong)
  | part hlong =>
    cases h' with
    | whole hne hfits => exact absurd hfits (Nat.not_le.mpr hlong)
    | part => exact ⟨rfl, rfl⟩

theorem Stops.unique {stream : List Piece} {stop stop' : Stop} (h : Stops stream stop)
    (h' : Stops stream stop') : stop' = stop := by
  induction h with
  | wait h ih =>
    cases h' with
    | wait h' => exact ih h'
  | exhausted => cases h'; rfl
  | ended => cases h'; rfl
  | failed => cases h'; rfl

/-- The next read brings something or nothing. -/
theorem Fetch.not_stops {stream rest : List Piece} {chunk : List UInt8} {stop : Stop}
    (h : Fetch stream chunk rest) : ¬ Stops stream stop := by
  induction h with
  | wait h ih =>
    intro hstops
    cases hstops with
    | wait hstops => exact ih hstops
  | whole hne hfits =>
    intro hstops
    cases hstops
    exact hne rfl
  | part hlong =>
    intro hstops
    cases hstops
    exact absurd hlong (Nat.not_lt_zero _)

/-- **There is one way to read a stream.** -/
theorem Reads.unique {stream : List Piece} {reads reads' : List (List UInt8)} {stop stop' : Stop}
    (h : Reads stream reads stop) (h' : Reads stream reads' stop') :
    reads' = reads ∧ stop' = stop := by
  induction h generalizing reads' with
  | stop h =>
    cases h' with
    | stop h' => exact ⟨rfl, h.unique h'⟩
    | fetch h' => exact absurd h h'.not_stops
  | fetch h _ ih =>
    cases h' with
    | stop h' => exact absurd h' h.not_stops
    | fetch h' hrest' =>
      obtain ⟨rfl, rfl⟩ := h.unique h'
      obtain ⟨rfl, rfl⟩ := ih hrest'
      exact ⟨rfl, rfl⟩

/-- A read brings at least one byte and at most 512. -/
theorem Fetch.bounds {stream rest : List Piece} {chunk : List UInt8}
    (h : Fetch stream chunk rest) : 1 ≤ chunk.length ∧ chunk.length ≤ 512 := by
  induction h with
  | wait h ih => exact ih
  | whole hne hfits => exact ⟨List.length_pos_iff.mpr hne, hfits⟩
  | part hlong =>
    rw [List.length_take]
    omega

theorem Reads.bounds {stream : List Piece} {reads : List (List UInt8)} {stop : Stop}
    (h : Reads stream reads stop) : ∀ chunk ∈ reads, 1 ≤ chunk.length ∧ chunk.length ≤ 512 := by
  induction h with
  | stop h => exact nofun
  | fetch h _ ih =>
    intro chunk hchunk
    rcases List.mem_cons.mp hchunk with rfl | hchunk
    · exact h.bounds
    · exact ih chunk hchunk

/-! ## 2. What the reader says -/

/-- A piece that fits into one read is read at once. -/
theorem chunks_of_le {bytes : List UInt8} (hne : bytes ≠ []) (h : bytes.length ≤ 512) :
    chunks bytes = [bytes] := by
  rw [chunks, dif_pos (show bytes.length ≤ chunkBytes from h),
    if_neg fun hempty => hne (List.isEmpty_iff.mp hempty)]

/-- A longer one is read on behind its first 512 bytes. -/
theorem chunks_of_lt {bytes : List UInt8} (h : 512 < bytes.length) :
    chunks bytes = bytes.take 512 :: chunks (bytes.drop 512) := by
  rw [chunks, dif_neg (show ¬ bytes.length ≤ chunkBytes from Nat.not_le.mpr h)]
  rfl

/-- There is something behind the first 512 bytes of more than that. -/
theorem drop_ne_nil {bytes : List UInt8} (h : 512 < bytes.length) : bytes.drop 512 ≠ [] :=
  fun hnil => absurd (List.drop_eq_nil_iff.mp hnil) (Nat.not_le.mpr h)

/-- What is said of the end of the reads, after some bytes were received. -/
def Stop.warning (received : Nat) : Stop → List Event
  | .ended => []
  | .failed error => [.readFailed error received]

/-- **The reader takes in one read and logs its count**, whatever it has kept so far. -/
theorem readFrom_of_fetch {stream rest : List Piece} {chunk : List UInt8}
    (h : Fetch stream chunk rest) (limit : Option Nat) (m : Message) :
    (readFrom limit m stream).events =
        .readChunk chunk.length :: (readFrom limit (m.absorb limit chunk) rest).events ∧
      (readFrom limit m stream).message = (readFrom limit (m.absorb limit chunk) rest).message := by
  induction h with
  | wait h ih => exact ih
  | @whole bytes stream hne hfits =>
    have hchunks := chunks_of_le hne hfits
    obtain ⟨b, bs, rfl⟩ := List.exists_cons_of_ne_nil hne
    simp only [readFrom, hchunks]
    exact ⟨rfl, rfl⟩
  | @part bytes stream hlong =>
    have hchunks := chunks_of_lt hlong
    obtain ⟨d, ds, hdrop⟩ := List.exists_cons_of_ne_nil (drop_ne_nil hlong)
    rw [hdrop] at hchunks ⊢
    cases bytes with
    | nil => cases hdrop
    | cons b bs =>
      simp only [readFrom, hchunks]
      exact ⟨rfl, rfl⟩

/-- What the reader says when nothing more is to be read. -/
theorem readFrom_of_stops {stream : List Piece} {stop : Stop} (h : Stops stream stop)
    (limit : Option Nat) (m : Message) :
    (readFrom limit m stream).events = stop.warning m.received ∧
      (readFrom limit m stream).message = m := by
  induction h with
  | wait h ih => exact ih
  | exhausted => exact ⟨rfl, rfl⟩
  | ended => exact ⟨rfl, rfl⟩
  | failed => exact ⟨rfl, rfl⟩

/-- **What the reader says of a stream**: one event for each read, and then of its end. -/
theorem events_of_reads {stream : List Piece} {reads : List (List UInt8)} {stop : Stop}
    (h : Reads stream reads stop) (limit : Option Nat) (m : Message) :
    (readFrom limit m stream).events =
      reads.map (fun chunk => .readChunk chunk.length) ++
        stop.warning (readFrom limit m stream).message.received := by
  induction h generalizing m with
  | stop h =>
    obtain ⟨hevents, hmessage⟩ := readFrom_of_stops h limit m
    rw [hevents, hmessage]
    rfl
  | fetch h _ ih =>
    obtain ⟨hevents, hmessage⟩ := readFrom_of_fetch h limit m
    rw [hevents, hmessage, ih]
    rfl

/-! ## 3. The reads of a piece -/

/-- **How many bytes the reads of a piece bring**: as often 512 as it goes, and then the rest. -/
def counts (n : Nat) : List Nat :=
  List.replicate (n / 512) 512 ++ if n % 512 = 0 then [] else [n % 512]

theorem counts_of_lt {n : Nat} (h : 512 < n) : counts n = 512 :: counts (n - 512) := by
  have hdiv : n / 512 = (n - 512) / 512 + 1 := by omega
  have hmod : n % 512 = (n - 512) % 512 := by omega
  unfold counts
  rw [hdiv, hmod, List.replicate_succ, List.cons_append]

theorem counts_of_le {n : Nat} (hpos : n ≠ 0) (h : n ≤ 512) : counts n = [n] := by
  unfold counts
  by_cases hfull : n = 512
  · rw [hfull]
    rfl
  · rw [Nat.div_eq_of_lt (by omega), Nat.mod_eq_of_lt (by omega), if_neg hpos]
    rfl

theorem map_length_chunks (bytes : List UInt8) :
    (chunks bytes).map List.length = counts bytes.length := by
  induction bytes using chunks.induct with
  | case1 bytes _ hempty =>
    rw [List.isEmpty_iff.mp hempty, chunks]
    rfl
  | case2 bytes hfits hfull =>
    have hne : bytes ≠ [] := fun hnil => hfull (List.isEmpty_iff.mpr hnil)
    rw [chunks_of_le hne hfits, counts_of_le (fun h => hne (List.eq_nil_of_length_eq_zero h)) hfits]
    rfl
  | case3 bytes hlong ih =>
    have hlong' : 512 < bytes.length := Nat.lt_of_not_le hlong
    have htake : (bytes.take 512).length = 512 := by
      rw [List.length_take]
      exact Nat.min_eq_left (Nat.le_of_lt hlong')
    rw [chunks_of_lt hlong', counts_of_lt hlong', List.map_cons, htake, ← List.length_drop]
    exact congrArg _ ih

/-- **A piece is read in its chunks**, and then what is behind it. -/
theorem reads_chunks {stream : List Piece} {reads : List (List UInt8)} {stop : Stop}
    (h : Reads stream reads stop) {bytes : List UInt8} (hne : bytes ≠ []) :
    Reads (.bytes bytes :: stream) (chunks bytes ++ reads) stop := by
  induction bytes using chunks.induct with
  | case1 bytes _ hempty => exact absurd (List.isEmpty_iff.mp hempty) hne
  | case2 bytes hfits _ =>
    rw [chunks_of_le hne hfits]
    exact .fetch (.whole hne hfits) h
  | case3 bytes hlong ih =>
    have hlong' : 512 < bytes.length := Nat.lt_of_not_le hlong
    rw [chunks_of_lt hlong']
    exact .fetch (.part hlong') (ih (drop_ne_nil hlong'))

/-- Waiting reads nothing. -/
theorem Reads.wait {stream : List Piece} {reads : List (List UInt8)} {stop : Stop}
    (h : Reads stream reads stop) : Reads (.pending :: stream) reads stop := by
  cases h with
  | stop h => exact .stop h.wait
  | fetch h hrest => exact .fetch h.wait hrest

/-- **The reads of a stream are those of the pieces before its cut**, and it fails exactly if it is
    cut at a failure. -/
theorem reads_of_cut {stream front rest : List Piece} (h : Cut stream front rest) :
    ∃ stop, Reads stream (front.flatMap fun p => chunks p.payload) stop ∧
      ∀ error, stop = .failed error ↔ stream = front ++ .failure error :: rest := by
  induction front generalizing stream with
  | nil =>
    rcases h.ended with ⟨rfl, -⟩ | ⟨last, hlast, rfl⟩
    · exact ⟨.ended, .stop .exhausted, fun error => iff_of_false nofun nofun⟩
    · cases last with
      | bytes chunk =>
        obtain rfl : chunk = [] := List.isEmpty_iff.mp hlast
        exact ⟨.ended, .stop .ended, fun error => iff_of_false nofun (by simp)⟩
      | pending => cases hlast
      | failure error' =>
        exact ⟨.failed error', .stop .failed, fun error => by simp⟩
  | cons p front ih =>
    obtain ⟨stream, rfl, htail⟩ := h.tail
    obtain ⟨stop, hreads, hfailed⟩ := ih htail
    have hopen : p.ends = false := h.open_front p List.mem_cons_self
    refine ⟨stop, ?_, fun error => by rw [hfailed, List.cons_append, List.cons.injEq, eq_self, true_and]⟩
    cases p with
    | bytes chunk =>
      have hne : chunk ≠ [] := by
        intro hnil
        rw [hnil] at hopen
        cases hopen
      exact reads_chunks hreads hne
    | pending =>
      have hnone : chunks [] = [] := by rw [chunks]; rfl
      rw [List.flatMap_cons, Piece.payload, hnone]
      exact hreads.wait
    | failure error => cases hopen

/-! ## 4. The whole -/

/-- **What is promised of the log of a reading**, for a stream that is cut at the piece that ends it
    and read in a number of reads. -/
structure Accounted (stream front rest : List Piece) (reads : List (List UInt8)) (stop : Stop)
    (r : Reading) : Prop where
  /-- One event stands for each read that brought something, in order, and nothing else but at the
      end of a stream that fails. -/
  events : r.events = reads.map (fun chunk => .readChunk chunk.length) ++
    stop.warning r.message.received
  /-- Each read brought at least one byte and at most 512, -/
  bounds : ∀ count, .readChunk count ∈ r.events → 1 ≤ count ∧ count ≤ 512
  /-- each piece as often 512 as it goes, and then its rest, -/
  pieces : r.events.filterMap Event.count? = front.flatMap fun p => counts p.payload.length
  /-- and all together what was received, be it within the limit or not. -/
  sum : (r.events.filterMap Event.count?).sum = r.message.received
  /-- The log warns exactly if the stream is cut at a failure: -/
  warned_iff : (∃ e ∈ r.events, e.level = .warn) ↔ ∃ error, stream = front ++ .failure error :: rest
  /-- it does so last of all, with that failure and the number of bytes that were received. -/
  warned_last : ∀ error, stream = front ++ .failure error :: rest →
    ∃ before, r.events = before ++ [.readFailed error r.message.received] ∧
      ∀ e ∈ before, ∃ count, e = .readChunk count

/-- The counts in a log are those of the reads. -/
theorem filterMap_count (reads : List (List UInt8)) (stop : Stop) (received : Nat) :
    (reads.map (fun chunk => Event.readChunk chunk.length) ++ stop.warning received).filterMap
      Event.count? = reads.map List.length := by
  have hnone : (stop.warning received).filterMap Event.count? = [] := by
    cases stop <;> rfl
  rw [List.filterMap_append, hnone, List.append_nil, List.filterMap_map]
  exact congrFun (List.filterMap_eq_map (f := List.length)) reads

/-- A log warns exactly if its reads failed. -/
theorem exists_warn_iff (reads : List (List UInt8)) (stop : Stop) (received : Nat) :
    (∃ e ∈ reads.map (fun chunk => Event.readChunk chunk.length) ++ stop.warning received,
      e.level = .warn) ↔ ∃ error, stop = .failed error := by
  constructor
  · intro ⟨e, he, hlevel⟩
    rcases List.mem_append.mp he with he | he
    · obtain ⟨chunk, -, rfl⟩ := List.mem_map.mp he
      cases hlevel
    · cases stop with
      | ended => cases he
      | failed error => exact ⟨error, rfl⟩
  · intro ⟨error, hstop⟩
    subst hstop
    exact ⟨.readFailed error received, List.mem_append_right _ (List.mem_singleton_self _), rfl⟩

/-- What was received are the bytes before the cut. -/
theorem received_of_cut {stream front rest : List Piece} (h : Cut stream front rest)
    (limit : Option Nat) :
    (read limit stream).message.received = (front.flatMap Piece.payload).length := by
  rw [read_message, of_received, content_of_cut h]

theorem flatten_flatMap_chunks (front : List Piece) :
    (front.flatMap fun p => chunks p.payload).flatten = front.flatMap Piece.payload := by
  induction front with
  | nil => rfl
  | cons p front ih =>
    rw [List.flatMap_cons, List.flatten_append, flatten_chunks, ih, List.flatMap_cons]

/-- **The log of a reading accounts for the reads of the stream.** -/
theorem accounted_of_cut {stream front rest : List Piece} {stop : Stop}
    (hcut : Cut stream front rest)
    (hreads : Reads stream (front.flatMap fun p => chunks p.payload) stop)
    (hfailed : ∀ error, stop = .failed error ↔ stream = front ++ .failure error :: rest)
    (limit : Option Nat) :
    Accounted stream front rest (front.flatMap fun p => chunks p.payload) stop
      (read limit stream) := by
  have hevents : (read limit stream).events =
      (front.flatMap fun p => chunks p.payload).map (fun chunk => .readChunk chunk.length) ++
        stop.warning (read limit stream).message.received := events_of_reads hreads limit empty
  have hcounts : (read limit stream).events.filterMap Event.count? =
      (front.flatMap fun p => chunks p.payload).map List.length := by
    rw [hevents, filterMap_count]
  exact {
    events := hevents
    bounds := fun count hcount => by
      have hmem : count ∈ (read limit stream).events.filterMap Event.count? :=
        List.mem_filterMap.mpr ⟨.readChunk count, hcount, rfl⟩
      rw [hcounts] at hmem
      obtain ⟨chunk, hchunk, rfl⟩ := List.mem_map.mp hmem
      exact hreads.bounds chunk hchunk
    pieces := by
      rw [hcounts, List.map_flatMap]
      exact congrArg (front.flatMap ·) (funext fun p => map_length_chunks p.payload)
    sum := by
      rw [hcounts, ← List.length_flatten, flatten_flatMap_chunks,
        received_of_cut hcut]
    warned_iff := by
      rw [hevents, exists_warn_iff]
      exact exists_congr hfailed
    warned_last := fun error hstream => by
      obtain rfl := (hfailed error).mpr hstream
      refine ⟨_, hevents, fun e he => ?_⟩
      obtain ⟨chunk, -, rfl⟩ := List.mem_map.mp he
      exact ⟨chunk.length, rfl⟩ }

/-- **The log accounts for a stream**: for each read and for the failure that ended it, the same
    whatever the limit is. -/
theorem reading_accounted (stream : List Piece) :
    (∃ front rest, Cut stream front rest) ∧
    ∀ front rest, Cut stream front rest → ∃ reads stop,
      (∀ reads' stop', Reads stream reads' stop' ↔ reads' = reads ∧ stop' = stop) ∧
      (∀ limit, Accounted stream front rest reads stop (read limit stream)) ∧
      ∀ limit limit', (read limit stream).events = (read limit' stream).events := by
  refine ⟨exists_cut_stream stream, ?_⟩
  intro front rest hcut
  obtain ⟨stop, hreads, hfailed⟩ := reads_of_cut hcut
  have haccounted := accounted_of_cut hcut hreads hfailed
  refine ⟨_, stop, fun reads' stop' => ⟨hreads.unique, ?_⟩, haccounted, fun limit limit' => ?_⟩
  · intro ⟨hreads', hstop'⟩
    rw [hreads', hstop']
    exact hreads
  · rw [(haccounted limit).events, (haccounted limit').events, received_of_cut hcut,
      received_of_cut hcut]

end Message

end Steward
