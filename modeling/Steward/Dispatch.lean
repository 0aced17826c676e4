import Steward.Command
import Steward.Host
import Steward.Lifecycle

/-!
# Acting on a message

* `Command.agenda` lists the actions a command calls for. They are done in order, and the first one
  that fails ends the list (`Host.carryOut`).
* `dispatch` reads a message, does what it calls for, and says in the log what it did: one report for
  each action, whatever came of it.
* `Command.request?` is the request for the teardown that a command leaves behind. `Desk` handles
  message after message with one host and one lifecycle.
-/

namespace Steward

/-! ## 1. What a command calls for -/

/-- The actions of a command, each to be done only if the one before it was. -/
def Command.agenda : Command → List Action
  | .shutdown => [.powerOff]
  | .reboot => [.reboot]
  | .serviceRestart => [.restartService]
  | .servicePull => [.pullImages]
  | .timeSync timestamp =>
    if timestamp.isEmpty then [] else [.setSystemClock timestamp, .persistHardwareClock]
  | .unrecognized _ => []

/-- What is logged about a command before any action. -/
def Command.remarks : Command → List Event
  | .timeSync timestamp =>
    if timestamp.isEmpty then
      [.actionFailed (Action.setSystemClock timestamp).title .emptyTimestamp]
    else [.settingSystemTime timestamp]
  | .unrecognized raw => [.unrecognizedCommand raw]
  | _ => []

/-- The teardown that a command asks for, under its name. -/
def Command.request? (c : Command) : Option String :=
  if c.isTerminal then some c.name else none

/-! ## 2. Doing it -/

/-- How an attempt is reported. -/
def Attempt.report (a : Attempt) : Event :=
  match a.outcome with
  | .ok () => .actionSucceeded a.action.title
  | .error e => .actionFailed a.action.title e

/-- What an attempt leaves in the log. -/
def Host.account (host : Host) (a : Attempt) : List Event := host.notices a.action ++ [a.report]

/-- Asks the host for one action, after the earlier attempts. -/
def Host.attempt (host : Host) (earlier : List Attempt) (action : Action) : Attempt :=
  ⟨action, host.outcome (earlier.map (·.action)) action⟩

/-- Asks the host for actions one after another, until one fails. -/
def Host.carryOut (host : Host) : (earlier : List Attempt) → List Action → List Attempt
  | _, [] => []
  | earlier, action :: rest =>
    let a := host.attempt earlier action
    if a.succeeded then a :: host.carryOut (earlier ++ [a]) rest else [a]

/-- What came of one message. -/
structure Dispatched where
  command : Command
  attempts : List Attempt
  events : List Event

/-- What is logged about a message before any action. -/
def opening (message : String) : List Event :=
  let command := Command.parse message
  .messageReceived command.name message :: command.remarks

/-- Handles one message, after the earlier attempts. -/
def dispatch (host : Host) (earlier : List Attempt) (message : String) : Dispatched :=
  let command := Command.parse message
  let attempts := host.carryOut earlier command.agenda
  { command
    attempts
    events := opening message ++ attempts.flatMap host.account }

/-! ## 3. Message after message -/

/-- What is kept from one message to the next. -/
structure Desk where
  attempts : List Attempt
  lifecycle : Lifecycle

namespace Desk

/-- Nothing attempted, nothing asked for. -/
def initial : Desk := ⟨[], .initial⟩

/-- Handles one message and posts the request it leaves behind. -/
def handle (host : Host) (desk : Desk) (message : String) : Desk × Dispatched :=
  let d := dispatch host desk.attempts message
  let (lifecycle, posted) := match d.command.request? with
    | some reason => desk.lifecycle.request reason
    | none => (desk.lifecycle, [])
  (⟨desk.attempts ++ d.attempts, lifecycle⟩, { d with events := d.events ++ posted })

/-- Handles messages in order. -/
def handleAll (host : Host) : Desk → List String → Desk × List Dispatched
  | desk, [] => (desk, [])
  | desk, message :: rest =>
    let (desk, d) := desk.handle host message
    let (desk, ds) := handleAll host desk rest
    (desk, d :: ds)

/-- What a supervisor stops with if it looks once now. -/
def trigger? (desk : Desk) : Option Trigger :=
  (desk.lifecycle.run [.start, .poll]).trigger?

end Desk

end Steward
