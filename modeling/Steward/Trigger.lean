import Steward.Text.Quoted

/-!
# Why the daemon stops
-/

namespace Steward

/-- What made the supervisor begin the teardown. -/
inductive Trigger
  /-- A signal from outside, by its name. -/
  | external (name : String)
  /-- A handled command asked for it. -/
  | requested (reason : String)
  /-- The accept loop ended by itself. -/
  | listenerClosed
deriving DecidableEq

/-- A trigger as the log shows it. -/
def Trigger.text : Trigger → String
  | .external name => "External(" ++ Text.quoted name ++ ")"
  | .requested reason => "Requested(" ++ Text.quoted reason ++ ")"
  | .listenerClosed => "ListenerClosed"

end Steward
