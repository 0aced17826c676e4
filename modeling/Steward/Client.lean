import Steward.Command
import Steward.Failure
import Steward.Filesystem
import Steward.Text.Blank

/-!
# The client

* `Client.timeSync` makes the command that sets the clock: to a given timestamp, moved to universal
  time, or to the present moment.
* `Client.reach` finds the daemon's socket, and `Client.send` delivers one command to it.
-/

namespace Steward.Client

/-! ## 1. Asking for a time sync -/

/-- The command that sets the clock to an instant. -/
def setClock (i : Instant) : Command := .timeSync i.text

/-- The command that sets the clock to the time a text gives, or else to the present. Blanks around
    the text do not count. -/
def timeSync (now : Instant) (given : Option String) : Except Failure Command :=
  match given with
  | none => .ok (setClock now)
  | some text => match Timestamp.read (Text.trim text.toList) with
    | .ok t => .ok (setClock t.instant)
    | .error cause => .error (.timestamp text cause)

/-! ## 2. Delivering a command -/

/-- What a client does over one connection: it writes all these bytes, ends its side of the stream,
    and waits for the other side to end. -/
def wire (c : Command) : List UInt8 := Utf8.encode c.toMessage

/-- The number of the socket that a path leads to. A path that leads nowhere is told apart. -/
def reach (files : Filesystem) (path : Path) : Except Failure Nat :=
  if files.leadsSomewhere path then
    match files.connect path with
    | .ok number => .ok number
    | .error cause => .error (.connect path cause)
  else .error (.noSocket path)

/-- Who is behind a socket. -/
inductive Peer
  | nobody
  /-- It reads to the end of the stream, answers, and closes. -/
  | reader
  /-- It closes without reading. Unread bytes make that a reset. -/
  | deserter
deriving DecidableEq

/-- Delivers a command: the bytes the peer was given, or why the delivery failed. An answer is
    ignored. -/
def send (files : Filesystem) (peers : Nat → Peer) (path : Path) (c : Command) :
    Except Failure (List UInt8) := do
  let number ← reach files path
  match peers number with
  | .nobody => .error (.connect path .connectionRefused)
  | .reader => .ok (wire c)
  | .deserter => if (wire c).isEmpty then .ok [] else .error (.broken .connectionReset)

/-- The name under which the client logs a command it has sent: the one the daemon reads. -/
def loggedName (c : Command) : String := (Command.parse c.toMessage).name

end Steward.Client
