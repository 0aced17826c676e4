import Steward.Daemon
import Steward.Proofs.Lifecycle.History

/-!
# What the log says about connections and requests

The log is the only account of what the daemon did, and most of what it says is about something
else. An event is about a connection, about a request for the teardown, or about neither
(`Event.concern`); `Quiet` events are about neither. Each source of events is classified once.
-/

namespace Steward

namespace Event

/-- What an event is about. -/
inductive Concern
  /-- A connection: it was accepted, something was read from it, or its message was judged. -/
  | connection
  /-- A request for the teardown. -/
  | request
  | other
deriving DecidableEq

/-- What an event is about. -/
def concern : Event → Concern
  | .clientConnected | .readChunk _ | .readFailed .. | .messageTooLong .. | .messageReceived .. =>
    .connection
  | .shutdownRequested _ | .shutdownInProgress _ => .request
  | _ => .other

/-- Whether an event is the verdict on a message that was read to its end. -/
def isVerdict : Event → Bool
  | .messageReceived .. | .messageTooLong .. => true
  | _ => false

end Event

/-- **Events that say nothing about connections and requests.** -/
def Quiet (events : List Event) : Prop := ∀ e ∈ events, e.concern = .other

/-- Every verdict is about a connection. -/
theorem verdicts_of_apart {events : List Event} (h : ∀ e ∈ events, e.concern ≠ .connection) :
    events.filter Event.isVerdict = [] := by
  refine List.filter_eq_nil_iff.mpr fun e he => ?_
  have hapart := h e he
  cases e <;> first | exact Bool.false_ne_true | exact absurd rfl hapart

namespace Quiet

theorem nil : Quiet [] := nofun

theorem singleton {e : Event} (h : e.concern = .other) : Quiet [e] := by
  intro e' he
  rw [List.mem_singleton.mp he]
  exact h

theorem append {xs ys : List Event} (hx : Quiet xs) (hy : Quiet ys) : Quiet (xs ++ ys) := by
  intro e he
  rcases List.mem_append.mp he with he | he
  · exact hx e he
  · exact hy e he

theorem apart {events : List Event} (h : Quiet events) :
    ∀ e ∈ events, e.concern ≠ .connection := by
  intro e he
  rw [h e he]
  exact nofun

theorem verdicts {events : List Event} (h : Quiet events) :
    events.filter Event.isVerdict = [] :=
  verdicts_of_apart h.apart

theorem answered {events : List Event} (h : Quiet events) :
    events.filterMap Event.answered? = [] := by
  refine List.filterMap_eq_nil_iff.mpr fun e he => ?_
  have hother := h e he
  cases e <;> first | rfl | cases hother

end Quiet

/-! ## Where events come from -/

theorem quiet_account (host : Host) (a : Attempt) : Quiet (host.account a) := by
  refine .append ?_ (.singleton ?_)
  · unfold Host.notices
    cases host.announced? a.action with
    | none => exact .nil
    | some i => exact .singleton rfl
  · unfold Attempt.report
    cases a.outcome <;> rfl

theorem quiet_remarks (command : Command) : Quiet command.remarks := by
  cases command with
  | timeSync timestamp =>
    simp only [Command.remarks]
    split <;> exact .singleton rfl
  | unrecognized raw => exact .singleton rfl
  | shutdown => exact .nil
  | reboot => exact .nil
  | serviceRestart => exact .nil
  | servicePull => exact .nil

theorem verdicts_opening (message : String) :
    (opening message).filter Event.isVerdict =
      [.messageReceived (Command.parse message).name message] := by
  unfold opening
  rw [List.filter_cons_of_pos rfl, (quiet_remarks _).verdicts]

theorem quiet_poll (l : Lifecycle) : Quiet l.poll.2 := by
  unfold Lifecycle.poll
  split
  · exact .singleton rfl
  · exact .nil

/-- Binding says which stale entry it removed and where it listens, and nothing else. -/
theorem of_mem_bind {files : Filesystem} {number : Nat} {path : Path} {e : Event}
    (h : e ∈ (Listener.bind files number path).events) :
    e = .staleRemoved path ∨ e = .listening path := by
  have hfree : ∀ (fs : Filesystem) (events : List Event), (∀ e ∈ events, e = .staleRemoved path) →
      e ∈ (Listener.bindFree fs number path events).events →
      e = .staleRemoved path ∨ e = .listening path := by
    intro fs events hevents he
    unfold Listener.bindFree at he
    split at he
    · exact Or.inl (hevents e he)
    · rcases List.mem_append.mp he with he | he
      · exact Or.inl (hevents e he)
      · exact Or.inr (List.mem_singleton.mp he)
  unfold Listener.bind at h
  split at h
  · exact hfree _ _ (fun e he => List.mem_singleton.mp he) h
  split at h
  · exact hfree _ [] (by simp) h
  · cases h

theorem quiet_bind (files : Filesystem) (number : Nat) (path : Path) :
    Quiet (Listener.bind files number path).events := by
  intro e he
  rcases of_mem_bind he with rfl | rfl <;> rfl

theorem quiet_close (l : Listener) (files : Filesystem) : Quiet (l.close files).2.2 := by
  simp only [Listener.close, Listener.removeEntry]
  split
  · exact .singleton rfl
  · dsimp only
    split
    · exact .nil
    · exact .singleton rfl

/-- What is logged when the daemon returns. -/
theorem quiet_wrapUp (d : Daemon) (t : Trigger) :
    ∃ later, (d.wrapUp t).journal = d.journal ++ later ∧ Quiet later := by
  refine ⟨_, rfl, .append (.append ?_ (quiet_close d.listener d.files)) (.singleton rfl)⟩
  split
  · exact .singleton rfl
  · exact .nil

/-- A request is answered once, by its name. -/
theorem answered_request (l : Lifecycle) (reason : String) :
    (l.request reason).2.filterMap Event.answered? = [reason] := by
  unfold Lifecycle.request
  split <;> rfl

theorem apart_request (l : Lifecycle) (reason : String) :
    ∀ e ∈ (l.request reason).2, e.concern ≠ .connection := by
  unfold Lifecycle.request
  intro e he
  split at he <;> rw [List.mem_singleton.mp he] <;> exact nofun

end Steward
