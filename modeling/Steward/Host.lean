import Steward.Event

/-!
# Hosts

A host answers each action with an outcome, which may depend on the actions it was asked for before.
Any assignment of outcomes is a host, so a statement about all hosts is a statement about every way
the actions can go.

* `Host.recording` fails certain sorts of action and does the others.
* `Host.scripted` takes the outcomes of each sort of action from a list.
-/

namespace Steward

/-- A program and its arguments. -/
structure Host.Invocation where
  program : String
  args : List String
deriving DecidableEq

/-- Who performs the actions. -/
structure Host where
  /-- The program that the host says it runs for an action, if it says so at all. -/
  announced? : Action → Option Host.Invocation
  /-- How an action goes, after the earlier ones (the first of them first). -/
  outcome : (earlier : List Action) → Action → Outcome

namespace Host

/-- What is logged before a program is started. -/
def Invocation.notice (i : Invocation) : Event := .runningProgram i.program i.args

/-- What the host logs when it is asked for an action. -/
def notices (host : Host) (action : Action) : List Event :=
  (host.announced? action).toList.map Invocation.notice

/-- The failure of a rehearsed action. -/
def rehearsedFailure : ActionError :=
  .failed "fake" (.exited 1) "fake stdout" "fake stderr"

/-- A host that only takes notes: it fails the given sorts of action and does the others. -/
def recording (failing : List ActionKind) : Host where
  announced? _ := none
  outcome _ action := if action.kind ∈ failing then .error rehearsedFailure else .ok ()

/-- A host whose `n`-th action of a sort has the `n`-th outcome listed for it, and succeeds past the
    end of the list. -/
def scripted (outcomes : ActionKind → List Outcome) : Host where
  announced? _ := none
  outcome earlier action :=
    let turn := earlier.countP fun a => a.kind = action.kind
    (outcomes action.kind)[turn]?.getD (.ok ())

end Host

end Steward
