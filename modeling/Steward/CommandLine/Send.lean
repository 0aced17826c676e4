import Steward.Client
import Steward.CommandLine

/-!
# The command line of the client

* `Order.read` reads what to send, and where to.
* `Order.carryOut` sends it; `run` tells how the program ends.
-/

namespace Steward.CommandLine.Send

/-! ## 1. What can be asked for -/

/-- Where the daemon listens; it may be given before or after the subcommand. -/
def socketPath : Parameter := ⟨"socket-path", isPath⟩

/-- The time to set the clock to. -/
def time : Parameter := ⟨"at", isText⟩

/-- A message to send as it is. -/
def text : Parameter := ⟨"text", isText⟩

/-- The level before the subcommand. -/
def top : Level where
  options := [socketPath]
  operand := none
  subcommands := ["shutdown", "reboot", "service-restart", "service-pull", "time-sync", "raw"]

/-- The level of a subcommand. -/
def level (subcommand : String) : Level where
  options := socketPath :: (if subcommand = "time-sync" then [time] else [])
  operand := if subcommand = "raw" then some text else none
  subcommands := []

/-- What to send. -/
inductive Request
  | command (c : Command)
  | timeSync (given : Option String)
deriving DecidableEq

/-- What to send, and where to. -/
structure Order where
  path : Path
  request : Request
deriving DecidableEq

/-- The request of a subcommand. -/
def requestOf (subcommand : String) (s : Scan) : Option Request :=
  match subcommand with
  | "shutdown" => some (.command .shutdown)
  | "reboot" => some (.command .reboot)
  | "service-restart" => some (.command .serviceRestart)
  | "service-pull" => some (.command .servicePull)
  | "time-sync" => some (.timeSync ((s.value? time.name).map Utf8.decodeLossy))
  | "raw" => (s.value? text.name).map fun v => .command (.unrecognized (Utf8.decodeLossy v))
  | _ => none

/-- Reads the arguments. The subcommand's own socket path goes before the one given earlier. -/
def Order.read (args : List Arg) : Except Refusal Order := do
  let (above, subcommand) ← top.scan .empty args
  match subcommand with
  | none => .error .usage
  | some (name, rest) =>
    let g := level name
    let (below, _) ← g.scan .empty rest
    let below ← g.complete below
    let above ← top.complete above
    match requestOf name below with
    | none => .error .usage
    | some request =>
      let path := match below.value? socketPath.name, above.value? socketPath.name with
        | some v, _ | none, some v => Path.mk v
        | none, none => .ofString defaultSocketPath
      .ok { path, request }

/-! ## 2. Doing it -/

/-- The command to send. -/
def Request.toCommand (now : Instant) : Request → Except Failure Command
  | .command c => .ok c
  | .timeSync given => Client.timeSync now given

/-- Sends what is asked for: the command, and the bytes that were delivered. -/
def Order.carryOut (o : Order) (now : Instant) (files : Filesystem) (peers : Nat → Client.Peer) :
    Except Failure (Command × List UInt8) := do
  let c ← o.request.toCommand now
  let bytes ← Client.send files peers o.path c
  .ok (c, bytes)

/-- How the client ends. -/
structure Exit where
  code : Nat
  /-- What was delivered, connection by connection. -/
  delivered : List (List UInt8)
  /-- The name of the command in the line that is logged at the end. -/
  logged : Option String
  failure : Option Failure

/-- How the client ends with the given arguments. -/
def run (now : Instant) (files : Filesystem) (peers : Nat → Client.Peer) (args : List Arg) : Exit :=
  match Order.read args with
  | .error refusal => ⟨refusal.exitCode, [], none, none⟩
  | .ok order => match order.carryOut now files peers with
    | .error failure => ⟨1, [], none, some failure⟩
    | .ok (c, bytes) => ⟨0, [bytes], some (Client.loggedName c), none⟩

end Steward.CommandLine.Send
