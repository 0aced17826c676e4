import Steward.Client
import Steward.Daemon

/-!
# Sessions

A session is a daemon together with the clients that talk to it, each known by a label. After every
step the daemon runs until it can only wait, and the step's answer (`Session.Answer`) and what the
daemon did meanwhile (`Session.Entry`) are noted.
-/

namespace Steward

/-- A daemon and its clients. -/
structure Session where
  settings : Settings
  daemon : Daemon
  /-- The open connections, by the label of the client that holds them. -/
  clients : List (String × Nat)
  /-- The connections whose clients have noticed that they were dropped unread. -/
  noticed : List Nat

namespace Session

/-- One step of a client or of the surroundings. -/
inductive Step
  /-- A client connects. One that was connected before lets go of its former connection. -/
  | connect (label : String)
  | write (label : String) (bytes : List UInt8)
  /-- The client ends its side of the stream. -/
  | finish (label : String)
  /-- The client goes away. -/
  | drop (label : String)
  | read (label : String)
  /-- A client program delivers a command. -/
  | send (command : Command)
  | signal (name : String)
  | limitDescriptors (on : Bool)
  | replace (node : Option Node)

/-- What a step is answered. -/
inductive Answer
  | ok
  | error (error : SystemError)
  /-- The daemon has not closed the connection. -/
  | stillOpen
  | endOfStream
  | failed (failure : Failure)
  /-- The client must wait behind another one. -/
  | pending
  | heard (yes : Bool)
  | alreadySent
  | noSuchClient
deriving DecidableEq

/-- What is noted of a step. -/
structure Entry where
  answer : Answer
  attempts : List Attempt
  outcome : Option Daemon.Outcome
  pathExists : Bool
  events : List Event

/-- Lets the daemon run. -/
def settle (s : Session) : Session := { s with daemon := Daemon.settle s.settings s.daemon }

/-- The session of a daemon that was just started, and has come to wait. -/
def start (settings : Settings) (files : Filesystem) : Session :=
  settle ⟨settings, .start settings files, [], []⟩

/-- The connection of a client. -/
def find (s : Session) (label : String) : Option Nat := s.clients.lookup label

/-- A client lets go of its connection, which ends its side of the stream. -/
def leave (s : Session) (label : String) : Session :=
  match s.find label with
  | some client =>
    { s with
      daemon := s.daemon.close client .endOfStream
      clients := s.clients.filter fun entry => entry.1 ≠ label }
  | none => s

/-- A client looks whether the daemon has closed its connection. A connection that was dropped
    unread fails once, and has ended after that. -/
def look (s : Session) (client : Nat) : Answer × Session :=
  if s.daemon.isOpen client then (.stillOpen, s)
  else if client ∉ s.noticed && s.daemon.connections[client]?.any fun c => c.standing = .reset then
    (.error .connectionReset, { s with noticed := client :: s.noticed })
  else (.endOfStream, s)

/-- A client program connects, writes its command and ends its side of the stream. Its answer waits
    for the daemon. -/
def deliver (s : Session) (c : Command) : Except Failure (Nat × Session) :=
  let path := s.settings.path
  if !s.daemon.files.leadsSomewhere path then .error (.noSocket path)
  else match s.daemon.connect path with
    | .error e => .error (.connect path e)
    | .ok daemon =>
      let client := daemon.connections.length - 1
      match daemon.write client (Client.wire c) with
      | .error e => .error (.broken e)
      | .ok daemon => .ok (client, { s with daemon := daemon.close client .endOfStream })

/-- How the answer of a step is found. -/
inductive Question
  /-- It is known before the daemon runs. -/
  | settled (answer : Answer)
  /-- A client looks at its connection once the daemon has run. -/
  | look (client : Nat)
  /-- A delivery is done if the daemon has closed the connection once it has run. -/
  | delivery (client : Nat)

/-- The answer to a step, once the daemon has run. -/
def resolve (s : Session) : Question → Answer × Session
  | .settled answer => (answer, s)
  | .look client => s.look client
  | .delivery client => match (s.look client).1 with
    | .stillOpen => (.pending, s)
    | .error e => (.failed (.broken e), s)
    | _ => (.ok, s)

/-- Changes the connection of a client, if there is one. -/
def onClient (s : Session) (label : String) (f : Nat → Question × Session) : Question × Session :=
  match s.find label with
  | some client => f client
  | none => (.settled .noSuchClient, s)

/-- One step, after which the daemon has not yet run. -/
def apply (s : Session) : Step → Question × Session
  | .connect label =>
    match s.daemon.connect s.settings.path with
    | .ok daemon =>
      let t := { s with daemon }.leave label
      (.settled .ok, { t with clients := (label, s.daemon.connections.length) :: t.clients })
    | .error e => (.settled (.error e), s)
  | .write label bytes => s.onClient label fun client =>
    match s.daemon.write client bytes with
    | .ok daemon => (.settled .ok, { s with daemon })
    | .error e => (.settled (.error e), s)
  | .finish label => s.onClient label fun client =>
    (.settled .ok, { s with daemon := s.daemon.close client .endOfStream })
  | .drop label => s.onClient label fun _ => (.settled .ok, s.leave label)
  | .read label => s.onClient label fun client => (.look client, s)
  | .send command =>
    match s.deliver command with
    | .ok (client, t) => (.delivery client, t)
    | .error failure => (.settled (.failed failure), s)
  | .signal name =>
    let (reply, lifecycle, _) := s.daemon.lifecycle.step (.external name)
    let answer : Answer := match reply with
      | .heard yes => .heard yes
      | _ => .alreadySent
    (.settled answer, { s with daemon := { s.daemon with lifecycle } })
  | .limitDescriptors on =>
    (.settled .ok, { s with daemon := { s.daemon with descriptors := !on } })
  | .replace node =>
    (.settled .ok,
      { s with
        daemon := { s.daemon with files := s.daemon.files.replace s.settings.path node } })

/-- What is noted when the daemon went from one state to another. -/
def note (answer : Answer) (before : Option Daemon) (s : Session) : Entry where
  answer := answer
  attempts := s.daemon.attempts.drop (before.elim 0 (·.attempts.length))
  outcome := s.daemon.outcome?
  pathExists := s.daemon.files.hasEntry s.settings.path
  events := s.daemon.journal.drop (before.elim 0 (·.journal.length))

/-- One step, after which the daemon runs until it can only wait. -/
def step (s : Session) (action : Step) : Entry × Session :=
  let (question, t) := s.apply action
  let (answer, u) := t.settle.resolve question
  (note answer (some s.daemon) u, u)

/-- Steps in order. -/
def stepAll : Session → List Step → List Entry × Session
  | s, [] => ([], s)
  | s, action :: rest =>
    let (entry, t) := s.step action
    let (entries, u) := stepAll t rest
    (entry :: entries, u)

/-- The notes of a session: one for the start, and one for each step. -/
def run (settings : Settings) (files : Filesystem) (steps : List Step) : List Entry :=
  let s := start settings files
  note .ok none s :: (s.stepAll steps).1

end Session

end Steward
