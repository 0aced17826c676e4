import Steward.CommandLine
import Steward.Command
import Steward.Daemon
import Steward.Host.Programs

/-!
# The command line of the daemon

* `Order.read` reads where to listen, how long messages may be, and what the host acts on.
* `run` is a whole run of the daemon: it is started, takes one message after another, each on a
  connection of its own, and may be sent a signal at the end.
-/

namespace Steward.CommandLine.Serve

/-! ## 1. What can be asked for -/

def socketPath : Parameter := ⟨"socket-path", isPath⟩
def service : Parameter := ⟨"service", isText⟩
def composeFile : Parameter := ⟨"compose-file", isPath⟩
def envFile : Parameter := ⟨"env-file", isPath⟩
def maxMessageBytes : Parameter := ⟨"max-message-bytes", fun a => (count? a).isSome⟩

/-- The only level: options alone. -/
def top : Level where
  options := [socketPath, service, composeFile, envFile, maxMessageBytes]
  operand := none
  subcommands := []

/-- How to run the daemon. -/
structure Order where
  path : Path
  limit : Option Nat
  setup : Host.Setup
deriving DecidableEq

/-- Reads the arguments; what is not given is as usual. -/
def Order.read (args : List Arg) : Except Refusal Order := do
  let (s, _) ← top.scan .empty args
  let s ← top.complete s
  let path (p : Parameter) (usual : Path) : Path := (s.value? p.name).elim usual Path.mk
  .ok
    { path := path socketPath (.ofString defaultSocketPath)
      limit := (s.value? maxMessageBytes.name).bind count?
      setup :=
        { service := (s.value? service.name).elim Host.Setup.standard.service Utf8.decodeLossy
          composeFile := path composeFile Host.Setup.standard.composeFile
          envFile := path envFile Host.Setup.standard.envFile } }

/-! ## 2. A whole run -/

/-- The settings of a daemon that runs programs. -/
def Order.settings (o : Order) (programs : Host.Programs) : Settings where
  path := o.path
  limit := o.limit
  host := .system o.setup programs

/-- A client sends one message over a connection of its own, if it can connect. -/
def post (settings : Settings) (path : Path) (d : Daemon) (bytes : List UInt8) : Daemon :=
  match d.connect path with
  | .error _ => d
  | .ok d =>
    let client := d.connections.length - 1
    let d := (d.write client bytes).toOption.getD d
    Daemon.settle settings (d.close client .endOfStream)

/-- How the daemon ends. -/
structure Exit where
  /-- Unset while the daemon still waits for a reason to stop. -/
  code : Option Nat
  trigger : Option Trigger
  started : List Host.Invocation
  files : Filesystem
  failure : Option Failure

/-- A whole run: `messages` come one after another by way of `path`, and then the signal `last`. -/
def Order.carryOut (o : Order) (programs : Host.Programs) (files : Filesystem) (path : Path)
    (messages : List (List UInt8)) (last : Option String) : Exit :=
  let settings := o.settings programs
  let d := Daemon.settle settings (.start settings files)
  let d := messages.foldl (post settings path) d
  let d := match last with
    | some name => Daemon.settle settings (Daemon.step settings d (.signal name))
    | none => d
  let started := o.setup.started programs (d.attempts.map (·.action))
  match d.outcome? with
  | some (.returned t) => ⟨some 0, some t, started, d.files, none⟩
  | some (.refused f) => ⟨some 1, none, started, d.files, some f⟩
  | none => ⟨none, none, started, d.files, none⟩

/-- How the daemon ends with the given arguments. -/
def run (programs : Host.Programs) (files : Filesystem) (path : Path)
    (messages : List (List UInt8)) (last : Option String) (args : List Arg) : Exit :=
  match Order.read args with
  | .error refusal => ⟨some refusal.exitCode, none, [], files, none⟩
  | .ok order => order.carryOut programs files path messages last

end Steward.CommandLine.Serve
