import Mathlib.Data.List.Forall2
import Steward.Proofs.Dispatch.Calls

/-!
# What the outcomes of actions decide

Whether an action was done is reported, and it decides whether the hardware clock is set behind the
system clock. It decides nothing else: which commands are read, which other calls are made and what
stops the daemon is a matter of the messages alone.

* `foremost` -- the calls of a message or of a run without those to the hardware clock.
* `foremost_carryOut` -- of one message they are its agenda, whatever came of them.
* `seen_handleAll` -- each of many messages is answered as if it were the only one.
* `lifecycle_handleAll` -- after any messages the slot holds the request of the first terminal one.
* `outcomes_decide_nothing` -- so two hosts that answer differently cannot be told apart by any of
  these, and later terminal messages are carried out and replace nothing.
-/

namespace Steward

/-- **The calls of some attempts**, without those to the hardware clock. -/
def foremost (attempts : List Attempt) : List Action :=
  (attempts.map (·.action)).filter (· ≠ .persistHardwareClock)

theorem foremost_append (xs ys : List Attempt) :
    foremost (xs ++ ys) = foremost xs ++ foremost ys := by
  simp [foremost]

theorem foremost_flatMap (ds : List Dispatched) :
    foremost (ds.flatMap (·.attempts)) = ds.flatMap fun d => foremost d.attempts := by
  induction ds with
  | nil => rfl
  | cons d ds ih => rw [List.flatMap_cons, foremost_append, ih, List.flatMap_cons]

/-- **Whatever the host answers, the calls of a command are those of its agenda**, as long as the
    hardware clock is left out: it is the only action that waits for another one. -/
theorem foremost_carryOut (host : Host) (earlier : List Attempt) (c : Command) :
    foremost (host.carryOut earlier c.agenda) = c.agenda.filter (· ≠ .persistHardwareClock) := by
  rcases agenda_cases c with h | ⟨action, h, -, -⟩ | ⟨timestamp, h⟩
  · rw [h]
    rfl
  · rw [h, Host.carryOut_singleton]
    rfl
  · rw [h, Host.carryOut_cons]
    split
    · rw [Host.carryOut_singleton]
      rfl
    · rfl

/-- A terminal command makes the one call that it is there for. -/
theorem carryOut_of_terminal (host : Host) (earlier : List Attempt) :
    (host.carryOut earlier Command.shutdown.agenda).map (·.action) = [.powerOff] ∧
      (host.carryOut earlier Command.reboot.agenda).map (·.action) = [.reboot] := by
  simp [Command.agenda]

/-! ## 1. What is asked of the lifecycle -/

namespace Lifecycle

/-- The state of a lifecycle of which nothing but a request was asked yet. -/
def asked (slot : Option String) : Lifecycle := { initial with slot }

/-- Only the first request is taken down. -/
theorem request_asked (slot : Option String) (reason : String) :
    ((asked slot).request reason).1 = asked (slot.or (some reason)) := by
  cases slot <;> rfl

/-- What a supervisor that looks once stops with: the request, if there is one. -/
theorem trigger?_asked (slot : Option String) :
    ((asked slot).run [.start, .poll]).trigger? = slot.map .requested := by
  cases slot <;> rfl

end Lifecycle

/-- **The first request that some messages leave behind**: the name of the first command among them
    that is terminal. -/
def firstRequest (messages : List String) : Option String :=
  ((messages.map Command.parse).find? (·.isTerminal)).map (·.name)

theorem firstRequest_cons (m : String) (rest : List String) :
    firstRequest (m :: rest) = (Command.parse m).request?.or (firstRequest rest) := by
  unfold firstRequest Command.request?
  cases h : (Command.parse m).isTerminal <;> simp [h]

theorem firstRequest_eq_none_iff (messages : List String) :
    firstRequest messages = none ↔ ∀ m ∈ messages, (Command.parse m).isTerminal = false := by
  simp [firstRequest]

namespace Desk

/-! ## 2. One message -/

theorem calls_handle (host : Host) (desk : Desk) (m : String) :
    (desk.handle host m).2.attempts =
      host.carryOut desk.attempts (Command.parse m).agenda := rfl

theorem attempts_handle (host : Host) (desk : Desk) (m : String) :
    (desk.handle host m).1.attempts = desk.attempts ++ (desk.handle host m).2.attempts := rfl

/-- A message leaves its command's request behind, whatever came of its action. -/
theorem lifecycle_handle (host : Host) (desk : Desk) (m : String) :
    (desk.handle host m).1.lifecycle =
      match (Command.parse m).request? with
      | some reason => (desk.lifecycle.request reason).1
      | none => desk.lifecycle := by
  simp only [handle, dispatch]
  cases (Command.parse m).request? <;> rfl

theorem asked_handle (host : Host) (desk : Desk) {slot : Option String} (m : String)
    (h : desk.lifecycle = .asked slot) :
    (desk.handle host m).1.lifecycle = .asked (slot.or (Command.parse m).request?) := by
  rw [lifecycle_handle, h]
  cases (Command.parse m).request? with
  | none => rw [Option.or_none]
  | some reason => exact Lifecycle.request_asked slot reason

/-- **What a message is answered with**, whatever the host answers: the command it is read as, and
    the calls of that command's agenda but those to the hardware clock. -/
def answer (m : String) : Command × List Action :=
  let c := Command.parse m
  (c, c.agenda.filter (· ≠ .persistHardwareClock))

/-- What can be seen of a message that was handled: its command, and its calls but those to the
    hardware clock. -/
def seen (d : Dispatched) : Command × List Action := (d.command, foremost d.attempts)

theorem seen_handle (host : Host) (desk : Desk) (m : String) :
    seen (desk.handle host m).2 = answer m := by
  unfold seen answer
  rw [calls_handle, foremost_carryOut]
  rfl

/-! ## 3. Message after message -/

theorem handleAll_cons (host : Host) (desk : Desk) (m : String) (rest : List String) :
    handleAll host desk (m :: rest) =
      let next := (desk.handle host m).1
      ((handleAll host next rest).1, (desk.handle host m).2 :: (handleAll host next rest).2) := rfl

/-- **What holds of one message after any others holds of each of many.** -/
theorem forall_handleAll {host : Host} {P : String → Dispatched → Prop}
    (hstep : ∀ desk m, P m (handle host desk m).2) (desk : Desk) (messages : List String) :
    List.Forall₂ P messages (handleAll host desk messages).2 := by
  induction messages generalizing desk with
  | nil => exact .nil
  | cons m rest ih =>
    rw [handleAll_cons]
    exact .cons (hstep desk m) (ih _)

/-- **Each message is answered as if it were the only one.** -/
theorem seen_handleAll (host : Host) (desk : Desk) (messages : List String) :
    (handleAll host desk messages).2.map seen = messages.map answer := by
  induction messages generalizing desk with
  | nil => rfl
  | cons m rest ih => simp [handleAll_cons, ih, seen_handle]

theorem attempts_handleAll (host : Host) (desk : Desk) (messages : List String) :
    (handleAll host desk messages).1.attempts =
      desk.attempts ++ (handleAll host desk messages).2.flatMap (·.attempts) := by
  induction messages generalizing desk with
  | nil => simp [handleAll]
  | cons m rest ih => simp [handleAll_cons, ih, attempts_handle]

theorem foremost_handleAll (host : Host) (messages : List String) :
    foremost (handleAll host .initial messages).1.attempts =
      messages.flatMap fun m => (answer m).2 := by
  have hseen := congrArg (List.flatMap (·.2)) (seen_handleAll host .initial messages)
  rw [List.flatMap_map, List.flatMap_map] at hseen
  rw [attempts_handleAll, ← hseen]
  exact foremost_flatMap _

/-- **After any messages the slot holds the request of the first terminal one**, unless somebody had
    asked before. -/
theorem lifecycle_handleAll (host : Host) (desk : Desk) {slot : Option String}
    (messages : List String) (h : desk.lifecycle = .asked slot) :
    (handleAll host desk messages).1.lifecycle = .asked (slot.or (firstRequest messages)) := by
  induction messages generalizing desk slot with
  | nil => simpa [handleAll, firstRequest] using h
  | cons m rest ih =>
    have hnext := ih _ (asked_handle host desk m h)
    rw [handleAll_cons, hnext, firstRequest_cons, Option.or_assoc]

theorem trigger?_handleAll (host : Host) (messages : List String) :
    (handleAll host .initial messages).1.trigger? = (firstRequest messages).map .requested := by
  have hfree : initial.lifecycle = .asked none := rfl
  rw [trigger?, lifecycle_handleAll host .initial messages hfree, Option.none_or,
    Lifecycle.trigger?_asked]

/-! ## 4. Two hosts -/

/-- **Outcomes decide nothing but the hardware clock.** Whatever messages come, and whatever two
    hosts answer: they are read as the same commands, make the same calls, message by message and as
    a whole, if those to the hardware clock are left out, and leave the same trigger behind.
    That trigger is the request of the first message that asks to power off or to reboot, and there
    is none exactly when no message does; every such message, a later one too, has its own action
    tried once. -/
theorem outcomes_decide_nothing (messages : List String) :
    (∀ host host' : Host,
      let r := handleAll host .initial messages
      let r' := handleAll host' .initial messages
      r.2.map (·.command) = r'.2.map (·.command) ∧
        r.2.map (fun d => foremost d.attempts) = r'.2.map (fun d => foremost d.attempts) ∧
        foremost r.1.attempts = foremost r'.1.attempts ∧
        r.1.trigger? = r'.1.trigger?) ∧
    ∀ host : Host,
      let r := handleAll host .initial messages
      r.1.trigger? =
          ((messages.map Command.parse).find? fun c => c = .shutdown ∨ c = .reboot).map
            (fun c => .requested c.name) ∧
        (r.1.trigger? = none ↔
          ∀ m ∈ messages, Command.parse m ≠ .shutdown ∧ Command.parse m ≠ .reboot) ∧
        List.Forall₂ (fun m d =>
          (Command.parse m = .shutdown → d.attempts.map (·.action) = [.powerOff]) ∧
            (Command.parse m = .reboot → d.attempts.map (·.action) = [.reboot])) messages r.2 := by
  have hseen : ∀ host host', (handleAll host .initial messages).2.map seen =
      (handleAll host' .initial messages).2.map seen := by
    intro host host'
    rw [seen_handleAll, seen_handleAll]
  have hterminal : (fun c : Command => c.isTerminal) =
      fun c => decide (c = .shutdown ∨ c = .reboot) := by
    funext c
    cases c <;> rfl
  refine ⟨fun host host' => ⟨?_, ?_, ?_, ?_⟩, fun host => ⟨?_, ?_, ?_⟩⟩
  · have h := congrArg (List.map (·.1)) (hseen host host')
    rwa [List.map_map, List.map_map] at h
  · have h := congrArg (List.map (·.2)) (hseen host host')
    rwa [List.map_map, List.map_map] at h
  · rw [foremost_handleAll, foremost_handleAll]
  · rw [trigger?_handleAll, trigger?_handleAll]
  · rw [trigger?_handleAll, firstRequest, hterminal, Option.map_map]
    rfl
  · rw [trigger?_handleAll, Option.map_eq_none_iff, firstRequest_eq_none_iff]
    simp [congrFun hterminal]
  · refine forall_handleAll (fun desk m => ⟨fun h => ?_, fun h => ?_⟩) .initial messages
    · rw [calls_handle, h]
      exact (carryOut_of_terminal host desk.attempts).1
    · rw [calls_handle, h]
      exact (carryOut_of_terminal host desk.attempts).2

end Desk

end Steward
