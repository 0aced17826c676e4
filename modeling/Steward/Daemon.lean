import Steward.Listener
import Steward.Message

/-!
# The daemon

The daemon accepts connections one after another, reads each to its end and does what its message
asks for, while a supervisor waits for a reason to stop. Clients, the signal from outside and the two
tasks of the daemon move in any order.

* `Daemon` is the state of a run: the file system, the socket, every connection made so far, the
  shared lifecycle, and the place the accept loop has reached (`Loop`).
* `Daemon.pollLoop` is one step of the accept loop: one look for a reason to stop or for a client,
  one read, or one action. `Daemon.pollSupervisor` lets the supervisor look once.
* `Daemon.connect`, `write` and `close` are what a client does; `Daemon.step` gathers all moves, and
  `Daemon.Reachable` is closed under them.
* `Daemon.settle` lets the two tasks run until both can only wait. It takes no other steps
  (`reachable_settle`).
-/

namespace Steward

/-! ## 1. Connections -/

/-- How a client's stream ends. -/
inductive Ending
  | endOfStream
  /-- Reading it fails, once all its bytes are read. -/
  | failure (error : String)
deriving DecidableEq

/-- How far the daemon is with a connection. -/
inductive Standing
  /-- It waits to be accepted. -/
  | queued
  /-- Its message is being read. -/
  | accepted
  /-- It was read to its end, and closed. -/
  | closed
  /-- The daemon went away before it was accepted. -/
  | reset
deriving DecidableEq

/-- One connection. Connections are accepted in the order in which they are made. -/
structure Connection where
  /-- All bytes the client has written. -/
  written : List UInt8
  ending : Option Ending
  standing : Standing
deriving DecidableEq

/-- A connection that was just made. -/
def Connection.fresh : Connection := ⟨[], none, .queued⟩

/-! ## 2. State -/

/-- The place the accept loop has reached. -/
inductive Loop
  /-- It waits for a client, or for a reason to stop. -/
  | selecting
  /-- It reads the message of a connection. -/
  | reading (client : Nat) (message : Message)
  /-- It has a command of a connection, and these actions are still to be done. -/
  | acting (client : Nat) (command : Command) (agenda : List Action)
  /-- It has ended, and waits for the supervisor. -/
  | ended
  /-- The daemon has returned. -/
  | returned (trigger : Trigger)
  /-- The daemon could not listen. -/
  | refused (failure : Failure)
deriving DecidableEq

/-- What a daemon is started with. -/
structure Settings where
  path : Path
  /-- The size of the longest message that is dispatched; unset, all are. -/
  limit : Option Nat
  host : Host

/-- The state of a run. -/
structure Daemon where
  files : Filesystem
  listener : Listener
  /-- Whether a client may be waiting: set when one connects, and cleared when none is found. -/
  notified : Bool
  /-- Whether the operating system gives out new descriptors. -/
  descriptors : Bool
  connections : List Connection
  lifecycle : Lifecycle
  loop : Loop
  attempts : List Attempt
  /-- All that was logged. -/
  journal : List Event

namespace Daemon

/-- The number of the daemon's own socket. -/
def socketNumber : Nat := 1

/-- The lifecycle of a run: the supervisor is waiting from the beginning. -/
def startedLifecycle : Lifecycle := Lifecycle.initial.run [.start]

/-- The lifecycle of a run that never began: nobody hears the signal. -/
def refusedLifecycle : Lifecycle := startedLifecycle.run [.dropSupervisor]

/-- Starts the daemon over a file system. -/
def start (settings : Settings) (files : Filesystem) : Daemon :=
  let bound := Listener.bind files socketNumber settings.path
  let base : Daemon :=
    { files := bound.files
      listener := ⟨settings.path, socketNumber, true⟩
      notified := false
      descriptors := true
      connections := []
      lifecycle := startedLifecycle
      loop := .selecting
      attempts := []
      journal := bound.events }
  match bound.result with
  | .ok listener => { base with listener }
  | .error failure =>
    { base with
      listener := base.listener.shut
      lifecycle := refusedLifecycle
      loop := .refused failure }

/-- Adds to the log. -/
def log (d : Daemon) (events : List Event) : Daemon := { d with journal := d.journal ++ events }

/-- Changes how far the daemon is with a connection. -/
def mark (d : Daemon) (client : Nat) (s : Standing) : Daemon :=
  { d with connections := d.connections.modify client fun c => { c with standing := s } }

/-- The connection that is to be accepted next. -/
def nextQueued? (d : Daemon) : Option Nat :=
  d.connections.findIdx? fun c => c.standing = .queued

/-- The end of the accept loop, which tells the supervisor. -/
def endLoop (d : Daemon) : Daemon := { d with loop := .ended, lifecycle := d.lifecycle.cancel }

/-! ## 3. The accept loop -/

/-- Looks for a reason to stop, and then for a client. -/
def select (d : Daemon) : Daemon :=
  if d.lifecycle.cancelled then (d.log [.listenerClosed]).endLoop
  else if !d.notified then d
  else if !d.descriptors then (d.log [.acceptFailed .tooManyFiles]).endLoop
  else match d.nextQueued? with
    | none => { d with notified := false }
    | some client =>
      { (d.mark client .accepted).log [.clientConnected] with loop := .reading client .empty }

/-- Goes on with a message that was read to its end. -/
def conclude (settings : Settings) (d : Daemon) (client : Nat) (m : Message) : Daemon :=
  let d := d.mark client .closed
  if m.exceeded then
    { d.log [.messageTooLong m.received settings.limit] with loop := .selecting }
  else
    let command := Command.parse m.text
    { d.log (opening m.text) with loop := .acting client command command.agenda }

/-- Reads once from a connection. -/
def readOnce (settings : Settings) (d : Daemon) (client : Nat) (m : Message) : Daemon :=
  match d.connections[client]? with
  | none => d
  | some c => match (c.written.drop m.received).take chunkBytes, c.ending with
    | [], none => d
    | [], some .endOfStream => conclude settings d client m
    | [], some (.failure error) =>
      conclude settings (d.log [.readFailed error m.received]) client m
    | chunk, _ =>
      { d.log [.readChunk chunk.length] with
        loop := .reading client (m.absorb settings.limit chunk) }

/-- Does the next action of a command, or leaves the command behind. -/
def act (settings : Settings) (d : Daemon) (client : Nat) (command : Command) :
    List Action → Daemon
  | action :: rest =>
    let a := settings.host.attempt d.attempts action
    { d.log (settings.host.account a) with
      attempts := d.attempts ++ [a]
      loop := .acting client command (if a.succeeded then rest else []) }
  | [] => match command.request? with
    | none => { d with loop := .selecting }
    | some reason =>
      let (lifecycle, posted) := d.lifecycle.request reason
      ({ d with lifecycle }.log (posted ++ [Event.listenerClosedAfterTerminal])).endLoop

/-- The last steps, once the supervisor has stopped: the socket is closed and its entry removed,
    connections that still wait are dropped, and the end is published. -/
def wrapUp (d : Daemon) (t : Trigger) : Daemon :=
  let warning := if t = .listenerClosed then [.endedWithoutTrigger] else []
  let (listener, files, removal) := d.listener.close d.files
  let (lifecycle, farewell) := d.lifecycle.finish
  { d with
    listener
    files
    lifecycle
    connections := d.connections.map fun c =>
      if c.standing = .queued then { c with standing := .reset } else c
    loop := .returned t
    journal := d.journal ++ (warning ++ removal ++ farewell) }

/-- **One step of the accept loop.** -/
def pollLoop (settings : Settings) (d : Daemon) : Daemon :=
  match d.loop with
  | .selecting => d.select
  | .reading client m => readOnce settings d client m
  | .acting client command agenda => act settings d client command agenda
  | .ended => match d.lifecycle.trigger? with
    | some t => d.wrapUp t
    | none => d
  | .returned _ | .refused _ => d

/-! ## 4. The supervisor -/

/-- **One look of the supervisor.** When it stops, the socket refuses connections from then on. -/
def pollSupervisor (d : Daemon) : Daemon :=
  let (lifecycle, events) := d.lifecycle.poll
  let listener := if d.lifecycle.ready then d.listener.shut else d.listener
  { d with lifecycle, listener }.log events

/-! ## 5. Clients -/

/-- A client connects to a path. -/
def connect (d : Daemon) (path : Path) : Except SystemError Daemon :=
  if !d.descriptors then .error .tooManyFiles
  else match d.listener.connect d.files path with
    | .error e => .error e
    | .ok () => .ok { d with connections := d.connections ++ [.fresh], notified := true }

/-- Whether the daemon still has its end of a connection open. -/
def isOpen (d : Daemon) (client : Nat) : Bool :=
  match d.connections[client]? with
  | some c => c.standing = .queued || c.standing = .accepted
  | none => false

/-- A client writes. A connection that either side has ended takes no bytes. -/
def write (d : Daemon) (client : Nat) (bytes : List UInt8) : Except SystemError Daemon :=
  match d.connections[client]? with
  | none => .error .brokenPipe
  | some c =>
    if bytes.isEmpty then .ok d
    else if d.isOpen client && c.ending.isNone then
      .ok { d with
        connections := d.connections.modify client fun c => { c with written := c.written ++ bytes } }
    else .error .brokenPipe

/-- A client's stream ends, if it has not ended before. -/
def close (d : Daemon) (client : Nat) (how : Ending) : Daemon :=
  { d with
    connections := d.connections.modify client fun c =>
      { c with ending := some (c.ending.getD how) } }

/-! ## 6. All moves -/

/-- One move of a client, of the surroundings or of the daemon. -/
inductive Move
  | connect (path : Path)
  | write (client : Nat) (bytes : List UInt8)
  | close (client : Nat) (how : Ending)
  | signal (name : String)
  /-- The operating system runs out of descriptors, or has some again. -/
  | descriptors (available : Bool)
  /-- Somebody swaps what stands at a path. -/
  | replace (path : Path) (node : Option Node)
  | pollSupervisor
  | pollLoop

/-- The state after one move. A move that is refused changes nothing. -/
def step (settings : Settings) (d : Daemon) : Move → Daemon
  | .connect path => (d.connect path).toOption.getD d
  | .write client bytes => (d.write client bytes).toOption.getD d
  | .close client how => d.close client how
  | .signal name => { d with lifecycle := (d.lifecycle.step (.external name)).2.1 }
  | .descriptors available => { d with descriptors := available }
  | .replace path node => { d with files := d.files.replace path node }
  | .pollSupervisor => d.pollSupervisor
  | .pollLoop => pollLoop settings d

/-- The states a daemon can reach from its start, whoever moves. -/
inductive Reachable (settings : Settings) (files : Filesystem) : Daemon → Prop
  | start : Reachable settings files (start settings files)
  | step {d : Daemon} (m : Move) :
      Reachable settings files d → Reachable settings files (step settings d m)

/-! ## 7. Letting the daemon run -/

/-- Whether the accept loop can go on. -/
def loopReady (d : Daemon) : Bool :=
  match d.loop with
  | .selecting => d.lifecycle.cancelled || d.notified
  | .reading client m => match d.connections[client]? with
    | some c => m.received < c.written.length || c.ending.isSome
    | none => false
  | .acting .. => true
  | .ended => d.lifecycle.trigger?.isSome
  | .returned _ | .refused _ => false

/-- A bound on the steps the daemon can take by itself: each connection is accepted, read in as many
    reads as it has bytes at most, concluded and acted on. -/
def stepBound (d : Daemon) : Nat :=
  d.connections.foldl (fun n c => n + c.written.length + 8) 16

/-- Lets the accept loop go on as long as it can, and the supervisor when it cannot, for a number of
    steps at most. -/
def settleWithin (settings : Settings) : Nat → Daemon → Daemon
  | 0, d => d
  | n + 1, d =>
    if d.loopReady then settleWithin settings n (pollLoop settings d)
    else if d.lifecycle.ready then settleWithin settings n d.pollSupervisor
    else d

/-- Lets the daemon run until both of its tasks can only wait. -/
def settle (settings : Settings) (d : Daemon) : Daemon := settleWithin settings d.stepBound d

theorem reachable_settleWithin {settings : Settings} {files : Filesystem} (n : Nat) {d : Daemon}
    (h : Reachable settings files d) : Reachable settings files (settleWithin settings n d) := by
  induction n generalizing d with
  | zero => exact h
  | succ n ih =>
    simp only [settleWithin]
    split
    · exact ih (h.step .pollLoop)
    · split
      · exact ih (h.step .pollSupervisor)
      · exact h

/-- **A daemon that was left to run** is in a state that it can reach step by step. -/
theorem reachable_settle {settings : Settings} {files : Filesystem} {d : Daemon}
    (h : Reachable settings files d) : Reachable settings files (settle settings d) :=
  reachable_settleWithin d.stepBound h

/-! ## 8. What can be asked of a run -/

/-- How a run has ended, if it has. -/
inductive Outcome
  | returned (trigger : Trigger)
  | refused (failure : Failure)
deriving DecidableEq

/-- How the run has ended, if it has. -/
def outcome? (d : Daemon) : Option Outcome :=
  match d.loop with
  | .returned t => some (.returned t)
  | .refused f => some (.refused f)
  | _ => none

end Daemon

end Steward
