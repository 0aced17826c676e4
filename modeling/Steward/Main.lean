import Std.Time.DateTime.Timestamp
import Steward.CommandLine.Send
import Steward.CommandLine.Serve

/-!
# The command

`steward send …` and `steward serve …` over the standard streams.

* `send` writes the message of a command to the standard output, for whatever carries it to the
  daemon's socket.
* `serve` handles one connection, whose bytes come from the standard input. It writes the programs
  that the message calls for to the standard output, and all that is logged of it but the details to
  the standard error.
-/

namespace Steward.Main

open CommandLine

/-- The present moment. -/
def present : IO Instant := do
  let nanos := (← Std.Time.Timestamp.now).toNanosecondsSinceUnixEpoch.val
  return ⟨nanos / nanosPerSecond, (nanos % nanosPerSecond).toNat⟩

/-- One line of the log. -/
def logLine (e : Event) : String :=
  let shown (v : Field) : String := match v with
    | .text t => Text.quoted t
    | .number n => toString n
  " ".intercalate
    (e.level.name :: (e.target ++ ":") :: e.message ::
      e.fields.map fun (name, v) => name ++ "=" ++ shown v)

/-- Writes what the client would send. -/
def send (args : List Arg) : IO UInt32 := do
  match Send.Order.read args with
  | .error refusal => return .ofNat refusal.exitCode
  | .ok order => match order.request.toCommand (← present) with
    | .error failure =>
      (← IO.getStderr).putStr failure.report
      return 1
    | .ok command =>
      let out ← IO.getStdout
      out.write (.mk (Client.wire command).toArray)
      out.flush
      return 0

/-- All bytes of a stream, up to `fuel` reads. -/
def readAll (stream : IO.FS.Stream) : (fuel : Nat) → IO (List UInt8)
  | 0 => return []
  | fuel + 1 => do
    let bytes ← stream.read (.ofNat chunkBytes)
    if bytes.isEmpty then return []
    return bytes.toList ++ (← readAll stream fuel)

/-- Handles one connection and writes what it calls for. -/
def serve (args : List Arg) : IO UInt32 := do
  match Serve.Order.read args with
  | .error refusal => return .ofNat refusal.exitCode
  | .ok order =>
    let bytes ← readAll (← IO.getStdin) 4294967296
    let programs : Host.Programs := fun _ => .silent
    let handled := handleClient (.system order.setup programs) order.limit .initial [.bytes bytes]
    for e in handled.events.filter fun e => e.level ≠ .debug do
      (← IO.getStderr).putStrLn (logLine e)
    for i in order.setup.started programs (handled.desk.attempts.map (·.action)) do
      (← IO.getStdout).putStrLn (i.program ++ " " ++ Text.quotedList i.args)
    return 0

end Steward.Main

/-- Chooses between the client and the daemon by the first argument. -/
def main (args : List String) : IO UInt32 :=
  match args with
  | "send" :: rest => Steward.Main.send (rest.map Steward.Utf8.encode)
  | "serve" :: rest => Steward.Main.serve (rest.map Steward.Utf8.encode)
  | _ => do
    (← IO.getStderr).putStrLn "usage: steward (send | serve) ..."
    return 2
