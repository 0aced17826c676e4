import Mathlib.Data.List.ReduceOption
import Steward.Proofs.Dispatch.Clocks

/-!
# What the log tells of the actions

The daemon never answers its clients, so what became of an action is known from the log alone. This
file says that the log is complete, and that it says nothing else: of the events that are not for
debugging, each is accounted for.

* `Reports` -- an event that tells how an action went, with all that is known of a failure.
* `Told` -- the log of one message: that it came, what there is to say of its command, and a report
  for each of its calls, in order.
* `Matched` -- reports and what they are there for, one to one: a call, or a time sync that has no
  timestamp and makes no call.
* `outcomes_logged` -- every message is told of, and over many messages the reports match the calls,
  and those of failures match the calls that failed.
-/

namespace Steward

/-! ## 1. Reports -/

namespace Event

/-- **The events that are not for debugging**, which are those of information and above. -/
def prominent (events : List Event) : List Event := events.filter (·.level ≠ .debug)

/-- Whether an event tells that an action failed. -/
def isFailure (e : Event) : Bool := e.message = "host action failed"

/-- Whether an event tells how an action went. -/
def isReport (e : Event) : Bool := e.message = "host action succeeded" || e.isFailure

@[simp] theorem prominent_append (xs ys : List Event) :
    prominent (xs ++ ys) = prominent xs ++ prominent ys := by
  simp [prominent]

/-- A report is never for debugging. -/
theorem level_of_isReport {e : Event} (h : e.isReport = true) : e.level ≠ .debug := by
  cases e <;> simp [isReport, isFailure, message, level] at h ⊢

/-- Leaving out what is for debugging leaves all reports. -/
theorem filter_prominent (events : List Event) :
    (prominent events).filter isReport = events.filter isReport := by
  unfold prominent
  rw [List.filter_filter]
  refine List.filter_congr fun e _ => ?_
  cases h : e.isReport with
  | false => rfl
  | true => simpa using level_of_isReport h

end Event

/-- **An event tells how an action went.** -/
structure Reports (title : String) (outcome : Outcome) (e : Event) : Prop where
  /-- It names the action. -/
  action : ("action", .text title) ∈ e.fields
  /-- It speaks of success exactly when the action was done, -/
  succeeded_iff : (e.level = .info ∧ e.message = "host action succeeded") ↔ outcome = .ok ()
  /-- and otherwise of failure, with the text of the error. -/
  failed : ∀ error, outcome = .error error →
    e.level = .error ∧ e.message = "host action failed" ∧ ("error", .text error.message) ∈ e.fields
  /-- It shows the two streams of a program exactly when the program ran and failed, as they were
      captured. -/
  stdout_iff : ∀ v, ("stdout", v) ∈ e.fields ↔
    ∃ program status out err, outcome = .error (.failed program status out err) ∧ v = .text out
  stderr_iff : ∀ v, ("stderr", v) ∈ e.fields ↔
    ∃ program status out err, outcome = .error (.failed program status out err) ∧ v = .text err

theorem reports_succeeded (title : String) : Reports title (.ok ()) (.actionSucceeded title) := by
  refine ⟨?_, ?_, nofun, ?_, ?_⟩ <;> simp [Event.fields, Event.level, Event.message]

theorem reports_failed (title : String) (error : ActionError) :
    Reports title (.error error) (.actionFailed title error) := by
  refine ⟨?_, ?_, ?_, ?_, ?_⟩
  · simp [Event.fields]
  · exact iff_of_false (fun h => by cases h.1) nofun
  · intro error' heq
    rw [← Except.error.inj heq]
    exact ⟨rfl, rfl, by simp [Event.fields]⟩
  · intro v
    cases error <;> simp [Event.fields, ActionError.captured, eq_comm]
  · intro v
    cases error <;> simp [Event.fields, ActionError.captured, eq_comm]

/-- **Each call has its report.** -/
theorem reports_report (a : Attempt) : Reports a.action.title a.outcome a.report := by
  unfold Attempt.report
  cases a.outcome with
  | ok u => exact reports_succeeded _
  | error e => exact reports_failed _ e

/-- Which events tell of a failure. -/
theorem Reports.isFailure_iff {title : String} {outcome : Outcome} {e : Event}
    (h : Reports title outcome e) : e.isFailure = true ↔ outcome ≠ .ok () := by
  have hdiffer : "host action succeeded" ≠ "host action failed" := by decide
  unfold Event.isFailure
  rw [decide_eq_true_iff]
  cases outcome with
  | ok u => exact iff_of_false ((h.succeeded_iff.mpr rfl).2 ▸ hdiffer) fun hne => hne rfl
  | error error => exact iff_of_true (h.failed error rfl).2.1 nofun

/-! ## 2. One message -/

/-- **What there is to say of a command before any report of a call.** -/
inductive Remarked : Command → List Event → Prop
  /-- A warning, with the text that is no command. -/
  | unrecognized {raw : String} {e : Event} (hlevel : e.level = .warn)
      (hmessage : e.message = "unrecognized command")
      (hfields : e.fields = [("message", .text raw)]) : Remarked (.unrecognized raw) [e]
  /-- A report that there is no time to set the clock to. -/
  | untimed {e : Event} (h : Reports "set system time" (.error .emptyTimestamp) e) :
      Remarked (.timeSync "") [e]
  | timed {timestamp : String} {e : Event} (htimestamp : timestamp ≠ "") (hlevel : e.level = .info)
      (hmessage : e.message = "setting system time")
      (hfields : e.fields = [("timestamp", .text timestamp)]) : Remarked (.timeSync timestamp) [e]
  /-- Nothing, of the four commands that are words. -/
  | word {c : Command} (hc : c ∈ [.shutdown, .reboot, .serviceRestart, .servicePull]) :
      Remarked c []

theorem remarked_remarks (c : Command) : Remarked c c.remarks := by
  cases c with
  | timeSync timestamp =>
    by_cases h : timestamp = ""
    · subst h
      exact .untimed (reports_failed _ _)
    · rw [remarks_timeSync h]
      exact .timed h rfl rfl rfl
  | unrecognized raw => exact .unrecognized rfl rfl rfl
  | shutdown => exact .word (by simp)
  | reboot => exact .word (by simp)
  | serviceRestart => exact .word (by simp)
  | servicePull => exact .word (by simp)

/-- **The log of one message** tells that it came, says what there is to say of its command, reports
    each of its calls in order, and has no other event that is not for debugging. -/
structure Told (m : String) (d : Dispatched) : Prop where
  events : ∃ received remarks reports,
    Event.prominent d.events = received :: (remarks ++ reports) ∧
    (received.level = .info ∧ received.message = "command message received" ∧
      received.fields = [("command", .text (Command.parse m).name), ("message", .text m)]) ∧
    Remarked (Command.parse m) remarks ∧
    List.Forall₂ (fun a e => Reports a.action.title a.outcome e) d.attempts reports
  /-- A time sync without a timestamp makes no call. -/
  untimed : Command.parse m = .timeSync "" → d.attempts = []

/-- What is said before any action is not for debugging. -/
theorem prominent_opening (m : String) : Event.prominent (opening m) = opening m := by
  refine List.filter_eq_self.mpr fun e he => ?_
  rcases List.mem_cons.mp he with rfl | he
  · rfl
  · cases h : Command.parse m with
    | timeSync timestamp =>
      rw [h, Command.remarks] at he
      split at he <;> rw [List.mem_singleton.mp he] <;> rfl
    | unrecognized raw =>
      rw [h] at he
      rw [List.mem_singleton.mp he]
      rfl
    | shutdown => rw [h] at he; cases he
    | reboot => rw [h] at he; cases he
    | serviceRestart => rw [h] at he; cases he
    | servicePull => rw [h] at he; cases he

/-- A host says nothing but for debugging, so what a call leaves in the log is its report. -/
theorem prominent_account (host : Host) (a : Attempt) :
    Event.prominent (host.account a) = [a.report] := by
  have hnotices : Event.prominent (host.notices a.action) = [] := by
    unfold Host.notices
    cases host.announced? a.action <;> rfl
  have hreport : Event.prominent [a.report] = [a.report] := by
    unfold Attempt.report
    cases a.outcome <;> rfl
  rw [Host.account, Event.prominent_append, hnotices, hreport, List.nil_append]

theorem prominent_accounts (host : Host) (made : List Attempt) :
    Event.prominent (made.flatMap host.account) = made.map Attempt.report := by
  induction made with
  | nil => rfl
  | cons a rest ih =>
    rw [List.flatMap_cons, Event.prominent_append, prominent_account, ih, List.map_cons]
    rfl

/-- How a request is answered is for debugging. -/
theorem prominent_request (l : Lifecycle) (reason : String) :
    Event.prominent (l.request reason).2 = [] := by
  unfold Lifecycle.request
  split <;> rfl

namespace Desk

/-- **What the log says of one message**, but for debugging. -/
theorem prominent_handle (host : Host) (desk : Desk) (m : String) :
    Event.prominent (desk.handle host m).2.events =
      opening m ++ (desk.handle host m).2.attempts.map Attempt.report := by
  have hposted : ∃ posted, Event.prominent posted = [] ∧
      (desk.handle host m).2.events =
        opening m ++ (desk.handle host m).2.attempts.flatMap host.account ++ posted := by
    simp only [handle, dispatch]
    cases (Command.parse m).request? with
    | none => exact ⟨[], rfl, rfl⟩
    | some reason => exact ⟨_, prominent_request desk.lifecycle reason, rfl⟩
  obtain ⟨posted, hnothing, hevents⟩ := hposted
  rw [hevents, Event.prominent_append, Event.prominent_append, prominent_opening,
    prominent_accounts, hnothing, List.append_nil]

theorem told_handle (host : Host) (desk : Desk) (m : String) :
    Told m (desk.handle host m).2 where
  events := by
    refine ⟨_, _, _, prominent_handle host desk m, ⟨rfl, rfl, rfl⟩, remarked_remarks _, ?_⟩
    rw [List.forall₂_map_right_iff]
    exact List.forall₂_same.mpr fun a _ => reports_report a
  untimed h := by
    rw [calls_handle, h]
    rfl

end Desk

/-! ## 3. One report for each cause -/

/-- What a report is there for: a call, or a time sync that has no timestamp. -/
def Explains : Option Attempt → Event → Prop
  | some a, e => Reports a.action.title a.outcome e
  | none, e => Reports "set system time" (.error .emptyTimestamp) e

/-- **Reports and what they are there for, one to one**: each of the calls, in order, and between
    them as many time syncs without a timestamp as are counted. -/
def Matched (calls : List Attempt) (untimed : Nat) (reports : List Event) : Prop :=
  ∃ causes : List (Option Attempt), causes.reduceOption = calls ∧
    (causes.filter Option.isNone).length = untimed ∧ List.Forall₂ Explains causes reports

namespace Matched

variable {calls calls' : List Attempt} {untimed untimed' : Nat} {reports reports' : List Event}

/-- Calls and their reports match. -/
theorem of_calls (made : List Attempt) : Matched made 0 (made.map Attempt.report) := by
  refine ⟨made.map some, ?_, ?_, ?_⟩
  · induction made with
    | nil => rfl
    | cons a rest ih => rw [List.map_cons, List.reduceOption_cons_of_some, ih]
  · simp
  · rw [List.forall₂_map_left_iff, List.forall₂_map_right_iff]
    exact List.forall₂_same.mpr fun a _ => reports_report a

theorem append (h : Matched calls untimed reports) (h' : Matched calls' untimed' reports') :
    Matched (calls ++ calls') (untimed + untimed') (reports ++ reports') := by
  obtain ⟨causes, rfl, rfl, hexplains⟩ := h
  obtain ⟨causes', rfl, rfl, hexplains'⟩ := h'
  refine ⟨causes ++ causes', List.reduceOption_append _ _, ?_, List.rel_append hexplains hexplains'⟩
  rw [List.filter_append, List.length_append]

/-- There are as many reports as there are calls and time syncs without a timestamp. -/
theorem length_eq (h : Matched calls untimed reports) : reports.length = calls.length + untimed := by
  obtain ⟨causes, rfl, rfl, hexplains⟩ := h
  rw [← hexplains.length_eq]
  exact List.length_eq_reduceOption_length_add_filter_none

/-- Whether a cause is a failure. -/
def failed : Option Attempt → Bool
  | some a => !a.succeeded
  | none => true

theorem isFailure_of_explains {cause : Option Attempt} {e : Event} (h : Explains cause e) :
    failed cause = true ↔ e.isFailure = true := by
  cases cause with
  | none => exact iff_of_true rfl (h.isFailure_iff.mpr nofun)
  | some a =>
    rw [h.isFailure_iff, ne_eq, ← Attempt.succeeded_iff a]
    simp [failed]

theorem filter_failed (causes : List (Option Attempt)) :
    (causes.filter failed).reduceOption = causes.reduceOption.filter (!·.succeeded) ∧
      ((causes.filter failed).filter Option.isNone).length =
        (causes.filter Option.isNone).length := by
  induction causes with
  | nil => exact ⟨rfl, rfl⟩
  | cons cause rest ih =>
    obtain ⟨hcalls, huntimed⟩ := ih
    cases cause with
    | none =>
      rw [List.filter_cons_of_pos rfl, List.reduceOption_cons_of_none,
        List.reduceOption_cons_of_none, List.filter_cons_of_pos rfl, List.filter_cons_of_pos rfl]
      exact ⟨hcalls, congrArg (· + 1) huntimed⟩
    | some a =>
      have hsame : ∀ l : List (Option Attempt),
          (some a :: l).filter Option.isNone = l.filter Option.isNone := fun l => rfl
      cases h : a.succeeded with
      | true =>
        rw [List.filter_cons_of_neg (by simp [failed, h]), List.reduceOption_cons_of_some,
          List.filter_cons_of_neg (by simp [h]), hsame]
        exact ⟨hcalls, huntimed⟩
      | false =>
        rw [List.filter_cons_of_pos (by simp [failed, h]), List.reduceOption_cons_of_some,
          List.reduceOption_cons_of_some, List.filter_cons_of_pos (by simp [h]), hsame, hsame]
        exact ⟨congrArg (a :: ·) hcalls, huntimed⟩

/-- **The reports of failures match what failed.** -/
theorem failures (h : Matched calls untimed reports) :
    Matched (calls.filter (!·.succeeded)) untimed (reports.filter Event.isFailure) := by
  obtain ⟨causes, rfl, rfl, hexplains⟩ := h
  obtain ⟨hcalls, huntimed⟩ := filter_failed causes
  exact ⟨causes.filter failed, hcalls, huntimed,
    List.rel_filter (fun _ _ he => isFailure_of_explains he) hexplains⟩

end Matched

/-- How many of some messages ask to set the clock and have no time for it. -/
def untimedSyncs (messages : List String) : Nat :=
  messages.countP fun m => Command.parse m = .timeSync ""

/-- What is said of a command is a report exactly when it is a time sync without a timestamp. -/
theorem matched_opening (m : String) :
    Matched [] (untimedSyncs [m]) ((opening m).filter Event.isReport) := by
  have hnone : Matched [] 0 [] := ⟨[], rfl, rfl, .nil⟩
  have hplain : Command.parse m ≠ .timeSync "" → untimedSyncs [m] = 0 := by
    intro h
    simp [untimedSyncs, h]
  unfold opening
  cases hc : Command.parse m with
  | timeSync timestamp =>
    by_cases h : timestamp = ""
    · subst h
      have hone : untimedSyncs [m] = 1 := by simp [untimedSyncs, hc]
      rw [hone]
      exact ⟨[none], rfl, rfl, .cons (reports_failed _ _) .nil⟩
    · rw [hplain (by rw [hc]; simpa using h)]
      simp only [remarks_timeSync h]
      exact hnone
  | unrecognized raw => rw [hplain (by rw [hc]; exact nofun)]; exact hnone
  | shutdown => rw [hplain (by rw [hc]; exact nofun)]; exact hnone
  | reboot => rw [hplain (by rw [hc]; exact nofun)]; exact hnone
  | serviceRestart => rw [hplain (by rw [hc]; exact nofun)]; exact hnone
  | servicePull => rw [hplain (by rw [hc]; exact nofun)]; exact hnone

namespace Desk

/-- **The reports of one message match its calls.** -/
theorem matched_handle (host : Host) (desk : Desk) (m : String) :
    Matched (desk.handle host m).2.attempts (untimedSyncs [m])
      ((desk.handle host m).2.events.filter Event.isReport) := by
  have hall : ∀ made : List Attempt,
      (made.map Attempt.report).filter Event.isReport = made.map Attempt.report := by
    intro made
    refine List.filter_eq_self.mpr fun e he => ?_
    obtain ⟨a, -, rfl⟩ := List.mem_map.mp he
    unfold Attempt.report
    cases a.outcome <;> rfl
  rw [← Event.filter_prominent, prominent_handle, List.filter_append, hall]
  simpa using (matched_opening m).append (.of_calls _)

theorem matched_handleAll (host : Host) (desk : Desk) (messages : List String) :
    let r := handleAll host desk messages
    Matched (r.2.flatMap (·.attempts)) (untimedSyncs messages)
      ((r.2.flatMap (·.events)).filter Event.isReport) := by
  induction messages generalizing desk with
  | nil => exact ⟨[], rfl, rfl, .nil⟩
  | cons m rest ih =>
    have hcount : untimedSyncs (m :: rest) = untimedSyncs [m] + untimedSyncs rest := by
      rw [← List.singleton_append]
      exact List.countP_append
    rw [handleAll_cons, hcount]
    simp only [List.flatMap_cons, List.filter_append]
    exact (matched_handle host desk m).append (ih _)

/-! ## 4. Many messages -/

/-- **No outcome goes unlogged.** Whatever messages come, and however the host answers, the log tells
    of each message as it should, and over all of them: there are as many reports as there are calls
    and time syncs without a timestamp, and each report is there for one of these, in order; and the
    reports of failures are there for the calls that failed and for those time syncs, one for each. -/
theorem outcomes_logged (host : Host) :
    (∀ desk m, Told m (handle host desk m).2) ∧
    ∀ messages,
      let r := handleAll host .initial messages
      let reports := (r.2.flatMap (·.events)).filter Event.isReport
      r.1.attempts = r.2.flatMap (·.attempts) ∧ Answered host r.1.attempts ∧
        List.Forall₂ Told messages r.2 ∧
        reports.length = r.1.attempts.length + untimedSyncs messages ∧
        Matched r.1.attempts (untimedSyncs messages) reports ∧
        Matched (r.1.attempts.filter (!·.succeeded)) (untimedSyncs messages)
          (reports.filter Event.isFailure) := by
  refine ⟨told_handle host, fun messages => ?_⟩
  intro r reports
  have hcalls : r.1.attempts = r.2.flatMap (·.attempts) := by
    rw [attempts_handleAll host .initial messages]
    rfl
  have hmatched : Matched r.1.attempts (untimedSyncs messages) reports := by
    rw [hcalls]
    exact matched_handleAll host .initial messages
  exact ⟨hcalls, answered_handleAll messages .none,
    forall_handleAll (fun desk m => told_handle host desk m) .initial messages, hmatched.length_eq,
    hmatched, hmatched.failures⟩

end Desk

end Steward
