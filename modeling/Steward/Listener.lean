import Steward.Event
import Steward.Failure
import Steward.Filesystem

/-!
# The listening socket

* `Listener.bind` removes whatever stands at the path, then makes a socket there. Either step can
  fail, and the file system after it says how far it came (`Bound`).
* `Listener.shut` refuses connections from then on; the entry at the path stays. Every `Closer` made
  from the listener can do it as well (`Listener.shutBy`).
* `Listener.close` shuts the socket and removes the entry at its path, by name: it does not ask
  whether it is still the socket that was made.
-/

namespace Steward

/-- A socket that listens at a path, or has ceased to. -/
structure Listener where
  path : Path
  number : Nat
  isOpen : Bool
deriving DecidableEq

/-- A further hold on the socket of a listener, by which it can be shut from elsewhere. -/
structure Closer where
  number : Nat
deriving DecidableEq

/-- What came of an attempt to listen. -/
structure Bound where
  result : Except Failure Listener
  files : Filesystem
  events : List Event

namespace Listener

/-- Makes the socket, once the path is free. -/
def bindFree (files : Filesystem) (number : Nat) (path : Path) (events : List Event) : Bound :=
  match files.bindSocket number path with
  | .error cause => ⟨.error (.bind path cause), files, events⟩
  | .ok files => ⟨.ok ⟨path, number, true⟩, files, events ++ [.listening path]⟩

/-- Listens at a path, in place of whatever stands there. -/
def bind (files : Filesystem) (number : Nat) (path : Path) : Bound :=
  match files.unlink path with
  | .ok files => bindFree files number path [.staleRemoved path]
  | .error cause =>
    if cause = .noEntry then bindFree files number path []
    else ⟨.error (.staleEntry path cause), files, []⟩

/-- Refuses connections from now on. -/
def shut (l : Listener) : Listener := { l with isOpen := false }

/-- Makes another hold on the socket. -/
def closer (l : Listener) : Closer := ⟨l.number⟩

/-- Shuts the socket that a closer holds, if it is the listener's. -/
def shutBy (l : Listener) (c : Closer) : Listener := if l.number = c.number then l.shut else l

@[simp] theorem shut_shut (l : Listener) : l.shut.shut = l.shut := rfl

@[simp] theorem closer_shut (l : Listener) : l.shut.closer = l.closer := rfl

/-- A closer does to the listener that it was made from what the listener does itself. -/
@[simp] theorem shutBy_closer (l : Listener) : l.shutBy l.closer = l.shut := if_pos rfl

/-- Whether a connection to a path reaches the listener. -/
def connect (l : Listener) (files : Filesystem) (path : Path) : Except SystemError Unit := do
  let number ← files.connect path
  if number = l.number ∧ l.isOpen then .ok () else .error .connectionRefused

/-- Removes the entry at the listener's path. -/
def removeEntry (path : Path) (files : Filesystem) : Filesystem × List Event :=
  match files.unlink path with
  | .ok files => (files, [.socketRemoved path])
  | .error cause => (files, if cause = .noEntry then [] else [.socketNotRemoved path cause])

/-- Shuts the socket and removes the entry at its path. -/
def close (l : Listener) (files : Filesystem) : Listener × Filesystem × List Event :=
  (l.shut, removeEntry l.path files)

end Listener

end Steward
