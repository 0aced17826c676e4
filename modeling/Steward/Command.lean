/-!
# The vocabulary

A client asks for one of six things, and a message is the text that asks for it.

* `Command.parse` reads any message. Four messages are words that must match exactly; a message that
  contains the word `dothetimesync` anywhere asks to set the clock to what follows the first `#`; any
  other message is unrecognized.
* `Command.toMessage` writes the message of a command.
-/

namespace Steward

/-- Where the daemon listens unless it is told otherwise. -/
def defaultSocketPath : String := "/tmp/databeam_hostcmd.sock"

/-- What a client asks the host to do. -/
inductive Command
  | shutdown
  | reboot
  | serviceRestart
  | servicePull
  | timeSync (timestamp : String)
  | unrecognized (raw : String)
deriving DecidableEq

namespace Command

/-! ## 1. The words -/

def shutdownWord : String := "dotheshutdown"
def rebootWord : String := "dothereboot"
def serviceRestartWord : String := "dothedockerrestart"
def servicePullWord : String := "dothedockerpull"
def timeSyncWord : String := "dothetimesync"

/-- Stands between the word that asks for a time sync and the timestamp. -/
def delimiter : Char := '#'

/-! ## 2. Reading a message -/

/-- Whether the characters `word` stand one after another somewhere in `cs`. -/
def occursIn (word : List Char) : List Char → Bool
  | [] => word.isEmpty
  | c :: cs => word.isPrefixOf (c :: cs) || occursIn word cs

/-- What follows the first `mark`; nothing when there is none. -/
def afterFirst {α : Type} [DecidableEq α] (mark : α) : List α → List α
  | [] => []
  | c :: cs => if c = mark then cs else afterFirst mark cs

/-- The text after the first delimiter of a message. -/
def timestampOf (message : String) : String := .ofList (afterFirst delimiter message.toList)

/-- Reads one complete message. -/
def parse (message : String) : Command :=
  if message = shutdownWord then .shutdown
  else if message = rebootWord then .reboot
  else if message = serviceRestartWord then .serviceRestart
  else if message = servicePullWord then .servicePull
  else if occursIn timeSyncWord.toList message.toList then .timeSync (timestampOf message)
  else .unrecognized message

/-! ## 3. Writing a message -/

/-- The message of a command. -/
def toMessage : Command → String
  | .shutdown => shutdownWord
  | .reboot => rebootWord
  | .serviceRestart => serviceRestartWord
  | .servicePull => servicePullWord
  | .timeSync timestamp => timeSyncWord ++ String.singleton delimiter ++ timestamp
  | .unrecognized raw => raw

/-! ## 4. Names -/

/-- The name under which a command is logged. -/
def name : Command → String
  | .shutdown => "shutdown"
  | .reboot => "reboot"
  | .serviceRestart => "service_restart"
  | .servicePull => "service_pull"
  | .timeSync _ => "time_sync"
  | .unrecognized _ => "unrecognized"

/-- The commands after which the daemon stops. -/
def isTerminal : Command → Bool
  | .shutdown | .reboot => true
  | _ => false

end Command

end Steward
