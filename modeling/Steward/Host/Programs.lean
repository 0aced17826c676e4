import Steward.Host

/-!
# The host that runs programs

* `Setup.invocation?` is the program an action runs, with its arguments. Nothing a client sends gets
  into it but the timestamp, which stays one argument.
* `Behaviour` says what a program does when it is started; `Setup.attempt` is what comes of an
  action.
* `clip` bounds what is kept of a failed program's output.
-/

namespace Steward.Host

/-! ## 1. Which program an action runs -/

/-- What the service actions act on. -/
structure Setup where
  service : String
  composeFile : Path
  envFile : Path
deriving DecidableEq

/-- The service and files that are acted on unless the daemon is told otherwise. -/
def Setup.standard : Setup where
  service := "databeam.service"
  composeFile := .ofString "/opt/databeam/docker-compose.yml"
  envFile := .ofString "/opt/databeam/.env"

/-- How the clock program is told to read the timestamp. -/
def dateFormat : String := "+%Y-%m-%dT%H:%M:%S.%3NZ"

/-- The program that an action runs; none sets the clock from an empty timestamp. -/
def Setup.invocation? (setup : Setup) : Action → Option Invocation
  | .powerOff => some ⟨"poweroff", []⟩
  | .reboot => some ⟨"reboot", []⟩
  | .restartService => some ⟨"systemctl", ["restart", setup.service]⟩
  | .pullImages => some ⟨"docker",
      ["compose", "--env-file", setup.envFile.text, "-f", setup.composeFile.text, "pull"]⟩
  | .setSystemClock timestamp =>
    if timestamp.isEmpty then none else some ⟨"date", [dateFormat, "-u", "-s", timestamp]⟩
  | .persistHardwareClock => some ⟨"hwclock", ["-w"]⟩

/-! ## 2. What becomes of it -/

/-- What a program does when it is started. -/
inductive Behaviour
  /-- It cannot be started. -/
  | unstartable (error : SystemError)
  /-- It prints on its two streams and ends. -/
  | ends (status : WaitStatus) (stdout stderr : List UInt8)

/-- The behaviour of a program that does nothing and succeeds. -/
def Behaviour.silent : Behaviour := .ends (.exited 0) [] []

/-- The programs of a host, by name. -/
abbrev Programs := String → Behaviour

/-- How many bytes of a stream are kept. -/
def keptBytes : Nat := 8192

/-- What follows a stream that was cut. -/
def cutMark : String := "\n[truncated]\n"

/-- The text that is kept of what a program printed. -/
def clip (bytes : List UInt8) : String :=
  if bytes.length ≤ keptBytes then Utf8.decodeLossy bytes
  else Utf8.decodeLossy (bytes.take keptBytes) ++ cutMark

/-- Whether an argument holds a NUL character, which no program can be given. -/
def Invocation.hasNul (i : Invocation) : Bool := i.args.any fun a => a.toList.contains '\x00'

/-- What comes of an action, and the program that was started for it, if any. -/
structure Trial where
  started : Option Invocation
  outcome : Outcome

/-- Runs a program: an argument with a NUL character is refused before the program is looked up. -/
def Invocation.run (programs : Programs) (i : Invocation) : Trial :=
  if i.hasNul then ⟨none, .error (.spawn i.program .nulInArgument)⟩
  else match programs i.program with
    | .unstartable error => ⟨none, .error (.spawn i.program error)⟩
    | .ends status stdout stderr =>
      ⟨some i, if status.succeeded then .ok ()
        else .error (.failed i.program status (clip stdout) (clip stderr))⟩

/-- What comes of an action. -/
def Setup.attempt (setup : Setup) (programs : Programs) (action : Action) : Trial :=
  match setup.invocation? action with
  | some i => i.run programs
  | none => ⟨none, .error .emptyTimestamp⟩

/-- What is logged before a program is started. -/
def Setup.notices (setup : Setup) (action : Action) : List Event :=
  (setup.invocation? action).toList.map Invocation.notice

/-- The host that runs programs. -/
def system (setup : Setup) (programs : Programs) : Host where
  announced? := setup.invocation?
  outcome _ action := (setup.attempt programs action).outcome

/-- The programs that some actions started, in order. -/
def Setup.started (setup : Setup) (programs : Programs) (actions : List Action) :
    List Invocation :=
  actions.filterMap fun a => (setup.attempt programs a).started

end Steward.Host
