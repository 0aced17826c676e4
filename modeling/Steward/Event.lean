import Steward.Action
import Steward.Filesystem.Path
import Steward.Trigger

/-!
# Events of the log

The daemon never answers its clients, so the log is the only account of what it did. `Event` lists
all it can say. Its level, the part of the program that speaks (`target`), the fixed text (`message`)
and the values beside it (`fields`) are functions of the event.
-/

namespace Steward

/-- How much an event matters, the least first. -/
inductive Level
  | debug
  | info
  | warn
  | error
deriving DecidableEq

/-- The name of a level. -/
def Level.name : Level → String
  | .debug => "DEBUG"
  | .info => "INFO"
  | .warn => "WARN"
  | .error => "ERROR"

/-- A value beside the text of an event. -/
inductive Field
  | text (value : String)
  | number (value : Nat)
deriving DecidableEq

/-- One line of the log. -/
inductive Event
  /-- A complete message was read as a command. -/
  | messageReceived (command message : String)
  | unrecognizedCommand (message : String)
  | settingSystemTime (timestamp : String)
  | actionSucceeded (title : String)
  | actionFailed (title : String) (error : ActionError)
  | runningProgram (program : String) (args : List String)
  | shutdownRequested (reason : String)
  /-- A request that came after another one, or after the end. -/
  | shutdownInProgress (reason : String)
  | draining (trigger : Trigger)
  | stopped
  | staleRemoved (path : Path)
  | listening (path : Path)
  | clientConnected
  | readChunk (count : Nat)
  | readFailed (error : String) (received : Nat)
  /-- A message over the limit; it is not read as a command. -/
  | messageTooLong (received : Nat) (limit : Option Nat)
  | acceptFailed (error : SystemError)
  | listenerClosed
  | listenerClosedAfterTerminal
  | endedWithoutTrigger
  | socketRemoved (path : Path)
  | socketNotRemoved (path : Path) (error : SystemError)
deriving DecidableEq

namespace Event

/-- How much the event matters. -/
def level : Event → Level
  | .runningProgram .. | .shutdownRequested _ | .shutdownInProgress _ | .readChunk _
  | .socketRemoved _ => .debug
  | .unrecognizedCommand _ | .readFailed .. | .messageTooLong .. | .endedWithoutTrigger
  | .socketNotRemoved .. => .warn
  | .actionFailed .. | .acceptFailed _ => .error
  | _ => .info

/-- The part of the program that speaks. -/
def target : Event → String
  | .messageReceived .. | .unrecognizedCommand _ | .settingSystemTime _ | .actionSucceeded _
  | .actionFailed .. => "dispatch"
  | .runningProgram .. => "actions::system"
  | .shutdownRequested _ | .shutdownInProgress _ | .draining _ | .stopped => "lifecycle"
  | _ => "server"

/-- The fixed text of the event. -/
def message : Event → String
  | .messageReceived .. => "command message received"
  | .unrecognizedCommand _ => "unrecognized command"
  | .settingSystemTime _ => "setting system time"
  | .actionSucceeded _ => "host action succeeded"
  | .actionFailed .. => "host action failed"
  | .runningProgram .. => "running host program"
  | .shutdownRequested _ => "shutdown requested"
  | .shutdownInProgress _ => "shutdown already in progress"
  | .draining _ => "draining"
  | .stopped => "hostcmd stopped"
  | .staleRemoved _ => "removed stale socket"
  | .listening _ => "listening"
  | .clientConnected => "client connected"
  | .readChunk _ => "read chunk"
  | .readFailed .. => "error on read"
  | .messageTooLong .. => "message exceeds max bytes, ignoring"
  | .acceptFailed _ => "accept error"
  | .listenerClosed => "listener closed"
  | .listenerClosedAfterTerminal => "listener closed after terminal command"
  | .endedWithoutTrigger => "accept loop ended without a shutdown trigger"
  | .socketRemoved _ => "removed socket"
  | .socketNotRemoved .. => "failed to remove socket"

/-- The values beside the text, by name. -/
def fields : Event → List (String × Field)
  | .messageReceived command message =>
    [("command", .text command), ("message", .text message)]
  | .unrecognizedCommand message => [("message", .text message)]
  | .settingSystemTime timestamp => [("timestamp", .text timestamp)]
  | .actionSucceeded title => [("action", .text title)]
  | .actionFailed title error =>
    [("action", .text title), ("error", .text error.message)] ++
      match error.captured with
      | some (stdout, stderr) => [("stdout", .text stdout), ("stderr", .text stderr)]
      | none => []
  | .runningProgram program args =>
    [("program", .text program), ("args", .text (Text.quotedList args))]
  | .shutdownRequested reason | .shutdownInProgress reason => [("reason", .text reason)]
  | .draining trigger => [("trigger", .text trigger.text)]
  | .staleRemoved path | .listening path | .socketRemoved path => [("path", .text path.text)]
  | .readChunk count => [("count", .number count)]
  | .readFailed error received => [("error", .text error), ("received", .number received)]
  | .messageTooLong received limit =>
    ("received", .number received) :: (limit.map fun n => ("limit", Field.number n)).toList
  | .acceptFailed error => [("error", .text error.message)]
  | .socketNotRemoved path error => [("path", .text path.text), ("error", .text error.message)]
  | .stopped | .clientConnected | .listenerClosed | .listenerClosedAfterTerminal
  | .endedWithoutTrigger => []

end Event

end Steward
