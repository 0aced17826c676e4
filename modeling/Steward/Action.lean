import Steward.SystemError
import Steward.WaitStatus

/-!
# Privileged actions and how they fail

* `Action` is one thing the host is asked to do, `ActionError` is why it was not done, and `Attempt`
  is an action together with its outcome.
* `ActionError.message` is the text of an error, `ActionError.captured` what a failed program had
  printed.
-/

namespace Steward

/-- The sorts of action. -/
inductive ActionKind
  | powerOff
  | reboot
  | restartService
  | pullImages
  | setSystemClock
  | persistHardwareClock
deriving DecidableEq

/-- One action on the host. -/
inductive Action
  | powerOff
  | reboot
  | restartService
  | pullImages
  | setSystemClock (timestamp : String)
  | persistHardwareClock
deriving DecidableEq

namespace Action

/-- The sort of an action, whatever timestamp it carries. -/
def kind : Action → ActionKind
  | .powerOff => .powerOff
  | .reboot => .reboot
  | .restartService => .restartService
  | .pullImages => .pullImages
  | .setSystemClock _ => .setSystemClock
  | .persistHardwareClock => .persistHardwareClock

/-- What a report calls an action. -/
def title : Action → String
  | .powerOff => "power off"
  | .reboot => "reboot"
  | .restartService => "service restart"
  | .pullImages => "image pull"
  | .setSystemClock _ => "set system time"
  | .persistHardwareClock => "set hardware clock"

end Action

/-- Why an action was not done. -/
inductive ActionError
  /-- Its program could not be started. -/
  | spawn (program : String) (source : SystemError)
  /-- Its program ran and did not succeed. -/
  | failed (program : String) (status : WaitStatus) (stdout stderr : String)
  /-- There is no time to set the clock to. -/
  | emptyTimestamp
deriving DecidableEq

namespace ActionError

/-- The text of an error. -/
def message : ActionError → String
  | .spawn program source => "failed to start " ++ program ++ ": " ++ source.message
  | .failed program status _ _ => program ++ " exited with " ++ status.text
  | .emptyTimestamp => "refusing to set the clock from an empty timestamp"

/-- What a program that ran and failed had printed, on its two streams. -/
def captured : ActionError → Option (String × String)
  | .failed _ _ stdout stderr => some (stdout, stderr)
  | _ => none

/-- The system error behind an error. -/
def source : ActionError → Option SystemError
  | .spawn _ source => some source
  | _ => none

end ActionError

/-- How an action went. -/
abbrev Outcome := Except ActionError Unit

/-- Whether an action was done. -/
def Outcome.isOk : Outcome → Bool
  | .ok _ => true
  | .error _ => false

/-- An action that was asked for, and how it went. -/
structure Attempt where
  action : Action
  outcome : Outcome

/-- Whether the action was done. -/
def Attempt.succeeded (a : Attempt) : Bool := a.outcome.isOk

end Steward
