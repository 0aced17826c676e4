import Steward.Event

/-!
# The lifecycle: how the daemon is brought down

Three sources can end the daemon: a signal from outside, a request from a handled command, and the
end of the accept loop. They meet in one supervisor.

* `Lifecycle` is the state they share. Requests go through a slot that holds one of them; the
  supervisor takes it, and keeps the slot open as long as it lives.
* `Lifecycle.verdict` is what a waiting supervisor stops with: a signal before a request, a request
  before the end of the accept loop. `Lifecycle.poll` lets it look once.
* `Lifecycle.step` is one move of any owner of a handle, of the supervisor or of the daemon, and
  `Lifecycle.run` a sequence of them.
-/

namespace Steward

/-! ## 1. State -/

/-- Where the daemon stands, as it publishes it. -/
inductive Phase
  | running
  | draining
  | terminated
deriving DecidableEq

/-- Where the supervisor stands. -/
inductive Supervisor
  /-- Made, but not yet waiting. -/
  | idle
  | waiting
  | stopped (trigger : Trigger)
  /-- Thrown away before it stopped. `deaf` tells whether the means to hear the signal went with it:
      it is handed over when the supervisor is started, be it too late. -/
  | dropped (deaf : Bool)
deriving DecidableEq

/-- The signal from outside, which fires at most once. -/
inductive Signal
  | silent
  | fired (name : String)
  /-- It fired when nobody could hear it any more. -/
  | unheard
deriving DecidableEq

/-- The state of the teardown. -/
structure Lifecycle where
  phase : Phase
  /-- Whether the accept loop has been told to end. -/
  cancelled : Bool
  /-- How many handles there are to ask for the teardown with. -/
  handles : Nat
  /-- The request that waits to be taken. -/
  slot : Option String
  supervisor : Supervisor
  signal : Signal
  /-- For each time the listener was closed, whether the accept loop had been told to end by then. -/
  closings : List Bool
deriving DecidableEq

namespace Lifecycle

/-- One handle, an idle supervisor, and nothing asked for yet. -/
def initial : Lifecycle where
  phase := .running
  cancelled := false
  handles := 1
  slot := none
  supervisor := .idle
  signal := .silent
  closings := []

/-- What the supervisor stopped with. -/
def trigger? (l : Lifecycle) : Option Trigger :=
  match l.supervisor with
  | .stopped t => some t
  | _ => none

/-- Whether the supervisor still lives, so that a request can reach it. -/
def supervised (l : Lifecycle) : Bool :=
  match l.supervisor with
  | .idle | .waiting => true
  | .stopped _ | .dropped _ => false

/-- Whether a signal still finds somebody to hear it. A supervisor that is thrown away before it is
    started leaves the means to hear it behind. -/
def audible (l : Lifecycle) : Bool :=
  match l.supervisor with
  | .idle | .waiting | .dropped false => true
  | .stopped _ | .dropped true => false

/-! ## 2. Requests and signals -/

/-- Asks for the teardown. Only a request that finds the slot free and the supervisor alive is taken
    down; it never waits. -/
def request (reason : String) (l : Lifecycle) : Lifecycle × List Event :=
  if l.slot.isNone && l.supervised then
    ({ l with slot := some reason }, [.shutdownRequested reason])
  else (l, [.shutdownInProgress reason])

/-- Fires the signal from outside. -/
def fire (name : String) (l : Lifecycle) : Lifecycle :=
  if l.audible then { l with signal := .fired name } else { l with signal := .unheard }

/-- Tells the accept loop to end. -/
def cancel (l : Lifecycle) : Lifecycle := { l with cancelled := true }

/-- Publishes the end. -/
def finish (l : Lifecycle) : Lifecycle × List Event :=
  ({ l with phase := .terminated }, [.stopped])

/-! ## 3. The supervisor -/

/-- **What a waiting supervisor stops with**, if it can stop: the signal if it has fired, else the
    request in the slot, else the end of the accept loop. -/
def verdict (l : Lifecycle) : Option Trigger :=
  match l.signal with
  | .fired name => some (.external name)
  | _ => match l.slot with
    | some reason => some (.requested reason)
    | none => if l.cancelled then some .listenerClosed else none

/-- **The teardown**: the phase is published, the listener is closed, and only then is the accept
    loop told to end. -/
def drain (t : Trigger) (l : Lifecycle) : Lifecycle × List Event :=
  ({ l with
      phase := .draining
      closings := l.closings ++ [l.cancelled]
      cancelled := true
      slot := none
      supervisor := .stopped t },
    [.draining t])

/-- Whether the supervisor would stop if it looked now. -/
def ready (l : Lifecycle) : Bool := l.supervisor = .waiting && l.verdict.isSome

/-- Lets the supervisor look once. -/
def poll (l : Lifecycle) : Lifecycle × List Event :=
  match l.supervisor, l.verdict with
  | .waiting, some t => l.drain t
  | _, _ => (l, [])

/-! ## 4. Steps -/

/-- One move in the life of the daemon. -/
inductive Step
  | request (reason : String) (handle : Nat)
  | cloneHandle
  | dropHandle
  | external (name : String)
  | start
  | poll
  | dropSupervisor
  | listenerClosed
  | finish
deriving DecidableEq

/-- What the mover is told. -/
inductive Reply
  | ok
  | noSuchHandle
  | handles (count : Nat)
  /-- Whether the signal was heard. -/
  | heard (yes : Bool)
  | alreadySent
  | alreadyStarted
  | notRunning
  | pending
  | ready
deriving DecidableEq

/-- One move: what it answers, the state after it, and what is logged. -/
def step (l : Lifecycle) : Step → Reply × Lifecycle × List Event
  | .request reason handle =>
    if handle < l.handles then (.ok, l.request reason) else (.noSuchHandle, l, [])
  | .cloneHandle =>
    if l.handles = 0 then (.noSuchHandle, l, [])
    else (.handles (l.handles + 1), { l with handles := l.handles + 1 }, [])
  | .dropHandle => (.handles (l.handles - 1), { l with handles := l.handles - 1 }, [])
  | .external name =>
    if l.signal = .silent then (.heard l.audible, l.fire name, []) else (.alreadySent, l, [])
  | .start =>
    match l.supervisor with
    | .idle => (.ok, { l with supervisor := .waiting }, [])
    | .dropped _ => (.alreadyStarted, { l with supervisor := .dropped true }, [])
    | .waiting | .stopped _ => (.alreadyStarted, l, [])
  | .poll =>
    if l.supervisor = .waiting then (if l.ready then .ready else .pending, l.poll)
    else (.notRunning, l, [])
  | .dropSupervisor =>
    (.ok, match l.supervisor with
      | .idle => { l with supervisor := .dropped false, slot := none }
      | .waiting => { l with supervisor := .dropped true, slot := none }
      | .stopped _ | .dropped _ => l, [])
  | .listenerClosed => (.ok, l.cancel, [])
  | .finish => (.ok, l.finish)

/-- The state after some moves. -/
def run (l : Lifecycle) (steps : List Step) : Lifecycle :=
  steps.foldl (fun l s => (l.step s).2.1) l

end Lifecycle

end Steward
