import Steward.Dispatch

/-!
# Reading one message

A message is everything a client writes before its stream ends. It is read piece by piece, at most
`chunkBytes` at a time. Once it is over the limit its bytes are forgotten, but the stream is still
read to the end.

* `Message.absorb` takes in one chunk.
* `Message.read` reads a stream that is given piece by piece (`Piece`), and tells what it left
  unread.
* `handleClient` handles one connection: it reads the message and dispatches it, unless it is over
  the limit.
-/

namespace Steward

/-- How many bytes one read takes at most. -/
def chunkBytes : Nat := 512

/-- What has been read of a message. -/
structure Message where
  bytes : List UInt8
  received : Nat
  /-- Whether more was received than the limit allows. -/
  exceeded : Bool
deriving DecidableEq

namespace Message

/-- The message of which nothing has been read. -/
def empty : Message := ⟨[], 0, false⟩

/-- Whether a number of bytes is over the limit. -/
def exceeds (limit : Option Nat) (count : Nat) : Bool :=
  match limit with
  | some n => n < count
  | none => false

/-- Takes in one chunk. -/
def absorb (limit : Option Nat) (m : Message) (chunk : List UInt8) : Message :=
  let received := m.received + chunk.length
  if m.exceeded then { m with received }
  else if exceeds limit received then ⟨[], received, true⟩
  else ⟨m.bytes ++ chunk, received, false⟩

/-- The message as a text. -/
def text (m : Message) : String := Utf8.decodeLossy m.bytes

end Message

/-! ## 1. Streams in pieces -/

/-- What a stream has to offer next. -/
inductive Piece
  /-- Some bytes; none at all mean that the stream has ended. -/
  | bytes (bytes : List UInt8)
  /-- Nothing for now. -/
  | pending
  /-- A failure, by its text. -/
  | failure (error : String)

/-- The chunks in which some bytes are read: full ones, and a shorter one for what remains. -/
def chunks (bytes : List UInt8) : List (List UInt8) :=
  if _h : bytes.length ≤ chunkBytes then (if bytes.isEmpty then [] else [bytes])
  else bytes.take chunkBytes :: chunks (bytes.drop chunkBytes)
termination_by bytes.length
decreasing_by simp [chunkBytes] at *; omega

/-- A message that was read, what was logged meanwhile, and what was left of the stream. -/
structure Reading where
  message : Message
  events : List Event
  unread : List Piece

namespace Message

/-- Takes in the chunks of a piece. -/
def absorbAll (limit : Option Nat) (m : Message) (cs : List (List UInt8)) : Message :=
  cs.foldl (absorb limit) m

/-- **Reads a stream to its end**, which is an empty piece, a failure, or the end of the pieces. A
    failure keeps what was read before it. -/
def readFrom (limit : Option Nat) (m : Message) : List Piece → Reading
  | [] => ⟨m, [], []⟩
  | .pending :: rest => readFrom limit m rest
  | .failure error :: rest => ⟨m, [.readFailed error m.received], rest⟩
  | .bytes [] :: rest => ⟨m, [], rest⟩
  | .bytes (b :: bs) :: rest =>
    let cs := chunks (b :: bs)
    let r := readFrom limit (m.absorbAll limit cs) rest
    { r with events := cs.map (fun c => .readChunk c.length) ++ r.events }

/-- Reads one message. -/
def read (limit : Option Nat) (stream : List Piece) : Reading := readFrom limit empty stream

end Message

/-! ## 2. One connection -/

/-- What came of one connection. -/
structure Handled where
  /-- The command that was dispatched; none when the message was over the limit. -/
  command : Option Command
  desk : Desk
  events : List Event

/-- Handles one connection: its message is read to the end and, within the limit, dispatched. -/
def handleClient (host : Host) (limit : Option Nat) (desk : Desk) (stream : List Piece) :
    Handled :=
  let r := Message.read limit stream
  let events := .clientConnected :: r.events
  if r.message.exceeded then
    { command := none
      desk
      events := events ++ [.messageTooLong r.message.received limit] }
  else
    let (desk, d) := desk.handle host r.message.text
    { command := some d.command
      desk
      events := events ++ d.events }

end Steward
