import Steward.Proofs.Lifecycle.Selection
import Steward.Proofs.Lifecycle.Teardown

/-!
# Handles are interchangeable, and dropping them is harmless

Anybody who holds a handle can ask for the teardown, and handles are made and dropped all the time.
Which of them a request comes through makes no difference, nor does it whether there are any left:
the supervisor then has one source less to wait for, and goes on waiting for the others.

* `plain` -- some steps without their handles: those that make or drop one are left out, and all
  requests come through the first one.
* `step_of_left_out`, `step_plain` -- the SIMULATION of one step: one that is left out changes
  nothing but the number of handles, any other does the same with one handle as with many.
* `run_plain`, `sights_plain` -- so do all steps of a run.
* `patient_run` -- a supervisor that nobody can reach any more waits on.
* `Race` -- a supervisor that looks at its sources one by one, and never again asks for requests
  once it was told that there is nobody left to make one; `Race.shown_eq` says that it cannot
  be told apart from the one that decides by `Lifecycle.verdict`.
* `handles_interchangeable` -- all of this together, after any steps.
-/

namespace Steward.Lifecycle

/-! ## 1. Steps without their handles -/

/-- A step with nothing of handles about it, when there are `n` of them. -/
def Step.plain? (n : Nat) : Step → Option Step
  | .cloneHandle | .dropHandle => none
  | .request reason handle => if handle < n then some (.request reason 0) else none
  | s => some s

/-- **Some steps without their handles**: nobody makes or drops one, or asks through one that there
    is not, and every other request comes through the first one. -/
def plain (steps : List Step) : List Step :=
  trace (fun l s => (s.plain? l.handles).toList) initial steps

/-- The same lifecycle with one handle. -/
def single (l : Lifecycle) : Lifecycle := { l with handles := 1 }

/-- What can be seen of a lifecycle: the phase, the token, the trigger that the supervisor returned,
    and the closings of the listener. -/
structure Sight where
  phase : Phase
  cancelled : Bool
  trigger? : Option Trigger
  closings : List Bool

/-- Looks at a lifecycle. -/
def sight (l : Lifecycle) : Sight where
  phase := l.phase
  cancelled := l.cancelled
  trigger? := l.trigger?
  closings := l.closings

/-- What a step shows: its answer, what is seen after it, and what it logs. -/
def shows (l : Lifecycle) (s : Step) : Reply × Sight × List Event :=
  ((l.step s).1, (l.step s).2.1.sight, (l.step s).2.2)

/-- What those of some steps show that are not left out. -/
def kept (steps : List Step) : List (Reply × Sight × List Event) :=
  trace (fun l s => if (s.plain? l.handles).isSome then [l.shows s] else []) initial steps

@[simp] theorem single_supervisor (l : Lifecycle) : l.single.supervisor = l.supervisor := rfl

@[simp] theorem single_verdict (l : Lifecycle) : l.single.verdict = l.verdict := rfl

@[simp] theorem sight_single (l : Lifecycle) : l.single.sight = l.sight := rfl

theorem plain_snoc (steps : List Step) (s : Step) :
    plain (steps ++ [s]) = plain steps ++ (s.plain? (initial.run steps).handles).toList :=
  trace_snoc _ initial steps s

/-! ## 2. The simulation -/

theorem request_single (l : Lifecycle) (reason : String) :
    l.single.request reason = ((l.request reason).1.single, (l.request reason).2) := by
  unfold request
  show (if l.slot.isNone && l.supervised then _ else _) = _
  split <;> rfl

theorem fire_single (l : Lifecycle) (name : String) : l.single.fire name = (l.fire name).single := by
  rw [fire_eq, fire_eq]
  rfl

theorem poll_single (l : Lifecycle) : l.single.poll = (l.poll.1.single, l.poll.2) := by
  unfold poll
  rw [single_supervisor, single_verdict]
  cases l.supervisor with
  | waiting => cases l.verdict <;> rfl
  | idle => rfl
  | stopped t => rfl
  | dropped deaf => rfl

/-- **A step that is left out changes nothing but the number of handles**, and logs nothing. -/
theorem step_of_left_out {l : Lifecycle} {s : Step} (h : s.plain? l.handles = none) :
    (l.step s).2.1.single = l.single ∧ (l.step s).2.2 = [] := by
  cases s with
  | request reason handle =>
    by_cases hn : handle < l.handles
    · simp [Step.plain?, hn] at h
    · simp only [step, if_neg hn, and_self]
  | cloneHandle =>
    simp only [step]
    split <;> exact ⟨rfl, rfl⟩
  | dropHandle => exact ⟨rfl, rfl⟩
  | _ => cases h

/-- **Any other step does the same with one handle as with many.** -/
theorem step_plain {l : Lifecycle} {s s' : Step} (h : s.plain? l.handles = some s') :
    l.single.step s' = ((l.step s).1, (l.step s).2.1.single, (l.step s).2.2) := by
  cases s with
  | request reason handle =>
    by_cases hn : handle < l.handles
    · obtain rfl : Step.request reason 0 = s' := by simpa [Step.plain?, hn] using h
      show (Reply.ok, l.single.request reason) = _
      simp only [step, if_pos hn, request_single]
    · simp [Step.plain?, hn] at h
  | cloneHandle => cases h
  | dropHandle => cases h
  | external name =>
    cases h
    show (if l.signal = .silent then (Reply.heard l.audible, l.single.fire name, []) else _) = _
    rw [fire_single]
    simp only [step]
    split <;> rfl
  | start =>
    cases h
    simp only [step, single_supervisor]
    cases l.supervisor <;> rfl
  | poll =>
    cases h
    show (if l.supervisor = .waiting then
      (if l.ready then Reply.ready else .pending, l.single.poll) else _) = _
    rw [poll_single]
    simp only [step]
    split <;> rfl
  | dropSupervisor =>
    cases h
    simp only [step, single_supervisor]
    cases l.supervisor <;> rfl
  | listenerClosed => cases h; rfl
  | finish => cases h; rfl

/-- **Without their handles, some steps lead to the same state**, but for the number of handles. -/
theorem run_plain (steps : List Step) : initial.run (plain steps) = (initial.run steps).single := by
  induction steps using List.reverseRecOn with
  | nil => rfl
  | append_singleton steps s ih =>
    rw [plain_snoc, run_append, ih, run_snoc]
    cases hs : s.plain? (initial.run steps).handles with
    | none => exact (step_of_left_out hs).1.symm
    | some s' => exact congrArg (·.2.1) (step_plain hs)

/-- **And those that are not left out show the same.** -/
theorem sights_plain (steps : List Step) :
    kept steps = trace (fun l s => [l.shows s]) initial (plain steps) := by
  induction steps using List.reverseRecOn with
  | nil => rfl
  | append_singleton steps s ih =>
    rw [kept, trace_snoc, ← kept, ih, plain_snoc]
    cases hs : s.plain? (initial.run steps).handles with
    | none => simp
    | some s' =>
      have hshows : (initial.run steps).single.shows s' = (initial.run steps).shows s := by
        unfold shows
        rw [step_plain hs, sight_single]
      simp only [Option.isSome_some, if_true, Option.toList_some]
      rw [trace_snoc, run_plain, hshows]

/-! ## 3. When nobody is left to ask -/

/-- Without handles there are no requests, and none can be made. -/
theorem requests_of_deserted {steps : List Step} (h : handlesAfter 1 steps = 0) (more : List Step) :
    handlesAfter 1 (steps ++ more) = 0 ∧ requests (steps ++ more) = requests steps := by
  induction more using List.reverseRecOn with
  | nil => simpa using h
  | append_singleton more s ih =>
    obtain ⟨hnone, hsame⟩ := ih
    rw [← List.append_assoc, handlesAfter_snoc, requests_snoc, hnone, hsame]
    cases s <;> simp [Step.handlesAfter, Step.request?]

/-- A waiting supervisor goes on waiting, unless it is thrown away or has something to stop with. -/
theorem waiting_step {l : Lifecycle} {s : Step} (hw : l.supervisor = .waiting)
    (hv : l.verdict = none) (hs : s ≠ .dropSupervisor) : (l.step s).2.1.supervisor = .waiting := by
  cases s with
  | request reason handle =>
    simp only [step]
    split
    · simpa using hw
    · exact hw
  | cloneHandle => simp only [step]; split <;> exact hw
  | external name =>
    simp only [step, fire_eq]
    split <;> exact hw
  | start => simp [step, hw]
  | poll =>
    rcases poll_cases l with ⟨-, t, ht, -⟩ | ⟨-, hrest⟩
    · rw [hv] at ht
      cases ht
    · rw [hrest]
      exact hw
  | dropSupervisor => exact absurd rfl hs
  | dropHandle => exact hw
  | listenerClosed => exact hw
  | finish => exact hw

/-- As long as the supervisor waits, the token is the accept loop's. -/
theorem cancelled_of_waiting {steps : List Step} (hw : (initial.run steps).supervisor = .waiting) :
    (initial.run steps).cancelled = decide (.listenerClosed ∈ steps) := by
  cases torn_run steps with
  | ahead _ _ hcancelled => exact hcancelled
  | done t _ htrigger => simp [trigger?, hw] at htrigger

/-- What a waiting supervisor would stop with, read off the steps alone. -/
theorem verdict_of_waiting {steps : List Step} (hw : (initial.run steps).supervisor = .waiting) :
    (initial.run steps).verdict = decided steps (decide (.listenerClosed ∈ steps)) := by
  have hlives : (initial.run steps).supervised = true := by simp [supervised, hw]
  rw [(reflects_run steps).verdict hlives, cancelled_of_waiting hw]

/-- It has nothing to stop with as long as nothing has happened. -/
theorem verdict_of_nothing {steps : List Step} (hw : (initial.run steps).supervisor = .waiting)
    (hsignal : firstSignal steps = none) (hasked : requests steps = [])
    (hopen : .listenerClosed ∉ steps) : (initial.run steps).verdict = none := by
  rw [verdict_of_waiting hw, decided, hsignal, hasked, decide_eq_false hopen]
  rfl

/-- **A supervisor that nobody can ask waits on**, whatever happens, until there is a signal, the
    accept loop ends, or it is thrown away. -/
theorem patient_run {steps more : List Step} (hw : (initial.run steps).supervisor = .waiting)
    (hdeserted : (initial.run steps).handles = 0) (hasked : requests steps = [])
    (hsignal : firstSignal (steps ++ more) = none) (hopen : .listenerClosed ∉ steps ++ more)
    (hkept : .dropSupervisor ∉ more) :
    (initial.run (steps ++ more)).supervisor = .waiting ∧
      (initial.run (steps ++ more)).verdict = none := by
  rw [(reflects_run steps).handles] at hdeserted
  induction more using List.reverseRecOn with
  | nil =>
    rw [List.append_nil] at hsignal hopen ⊢
    exact ⟨hw, verdict_of_nothing hw hsignal hasked hopen⟩
  | append_singleton more s ih =>
    rw [← List.append_assoc] at hsignal hopen ⊢
    have hbefore : firstSignal (steps ++ more) = none := by
      rw [firstSignal_snoc] at hsignal
      exact (Option.or_eq_none_iff.mp hsignal).1
    obtain ⟨hwaits, hnothing⟩ := ih hbefore (fun hm => hopen (List.mem_append_left _ hm))
      (fun hm => hkept (List.mem_append_left _ hm))
    have hs : s ≠ .dropSupervisor := by
      rintro rfl
      exact hkept (by simp)
    have hstill : (initial.run (steps ++ more ++ [s])).supervisor = .waiting := by
      rw [run_snoc]
      exact waiting_step hwaits hnothing hs
    have hnever : requests (steps ++ more ++ [s]) = [] := by
      rw [List.append_assoc, (requests_of_deserted hdeserted _).2, hasked]
    exact ⟨hstill, verdict_of_nothing hstill hsignal hnever hopen⟩

/-! ## 4. Looking at the sources one by one -/

/-- What comes of asking for a request. -/
inductive Receipt
  | request (reason : String)
  | pending
  /-- There is none, and nobody is left to make one. -/
  | closed

/-- Asks for a request. One that was made is still there when its maker has gone. -/
def receive (l : Lifecycle) : Receipt :=
  match l.slot with
  | some reason => .request reason
  | none => if l.handles = 0 then .closed else .pending

/-- The last source: the end of the accept loop. -/
def ended (l : Lifecycle) : Option Trigger := if l.cancelled then some .listenerClosed else none

/-- **Looks at the signal, the requests and the token, in this order**, and stops at the first that
    has something. Requests are looked for only as long as anybody was `listening` to them, and not
    after nobody was left to make one, which is the second thing that is told. -/
def race (l : Lifecycle) (listening : Bool) : Option Trigger × Bool :=
  match l.signal with
  | .fired name => (some (.external name), listening)
  | _ =>
    if listening then
      match l.receive with
      | .request reason => (some (.requested reason), true)
      | .pending => (l.ended, true)
      | .closed => (l.ended, false)
    else (l.ended, false)

/-- A lifecycle whose supervisor looks at its sources one by one, and whether it still looks for
    requests. -/
structure Race where
  lifecycle : Lifecycle
  listening : Bool

namespace Race

/-- Everything as at first. -/
def initial : Race := ⟨Lifecycle.initial, true⟩

/-- One move. Only polls differ from those of a lifecycle. -/
def step (r : Race) (s : Step) : Reply × Race × List Event :=
  match s with
  | .poll =>
    if r.lifecycle.supervisor = .waiting then
      match r.lifecycle.race r.listening with
      | (some t, listening) =>
        (.ready, ⟨(r.lifecycle.drain t).1, listening⟩, (r.lifecycle.drain t).2)
      | (none, listening) => (.pending, ⟨r.lifecycle, listening⟩, [])
    else (.notRunning, r, [])
  | s => ((r.lifecycle.step s).1, ⟨(r.lifecycle.step s).2.1, r.listening⟩, (r.lifecycle.step s).2.2)

/-- What some moves answer and log, and the lifecycle after each of them. -/
def shown : Race → List Step → List (Reply × Lifecycle × List Event)
  | _, [] => []
  | r, s :: rest =>
    ((r.step s).1, (r.step s).2.1.lifecycle, (r.step s).2.2) :: shown (r.step s).2.1 rest

/-- **Requests are given up only when there are none, and nobody is left to make one.** -/
def Sound (r : Race) : Prop :=
  r.listening = false → r.lifecycle.handles = 0 ∧ r.lifecycle.slot = none

end Race

/-- Where there is neither a request nor a handle, no step makes either. -/
theorem deserted_step {l : Lifecycle} (hhandles : l.handles = 0) (hslot : l.slot = none) (s : Step) :
    (l.step s).2.1.handles = 0 ∧ (l.step s).2.1.slot = none := by
  cases s with
  | request reason handle => simp [step, hhandles, hslot]
  | cloneHandle => simp [step, hhandles, hslot]
  | dropHandle => simp [step, hhandles, hslot]
  | external name =>
    simp only [step, fire_eq]
    split <;> exact ⟨hhandles, hslot⟩
  | start => simp only [step]; cases l.supervisor <;> exact ⟨hhandles, hslot⟩
  | poll =>
    rcases poll_cases l with ⟨-, t, -, hready⟩ | ⟨-, hrest⟩
    · rw [hready]
      exact ⟨hhandles, rfl⟩
    · rw [hrest]
      exact ⟨hhandles, hslot⟩
  | dropSupervisor => simp only [step]; cases l.supervisor <;> simp [hhandles, hslot]
  | listenerClosed => exact ⟨hhandles, hslot⟩
  | finish => exact ⟨hhandles, hslot⟩

/-- Looking at the sources one by one finds the verdict, and gives requests up soundly. -/
theorem race_of_sound {l : Lifecycle} {listening : Bool}
    (h : listening = false → l.handles = 0 ∧ l.slot = none) :
    (l.race listening).1 = l.verdict ∧
      ((l.race listening).2 = false → l.handles = 0 ∧ l.slot = none) := by
  -- a signal comes before everything else, and leaves the other sources unasked
  by_cases hsignal : ∃ name, l.signal = .fired name
  · obtain ⟨name, hname⟩ := hsignal
    simp only [race, verdict, hname, true_and]
    exact h
  · have hrace : l.race listening =
        if listening then
          match l.receive with
          | .request reason => (some (.requested reason), true)
          | .pending => (l.ended, true)
          | .closed => (l.ended, false)
        else (l.ended, false) := by
      unfold race
      cases hs : l.signal with
      | fired name => exact absurd ⟨name, hs⟩ hsignal
      | silent => rfl
      | unheard => rfl
    have hverdict : l.verdict =
        match l.slot with
        | some reason => some (.requested reason)
        | none => l.ended := by
      unfold verdict
      cases hs : l.signal with
      | fired name => exact absurd ⟨name, hs⟩ hsignal
      | silent => rfl
      | unheard => rfl
    rw [hrace, hverdict]
    cases listening with
    | false =>
      obtain ⟨hhandles, hslot⟩ := h rfl
      simp [hslot, hhandles]
    | true =>
      cases hslot : l.slot with
      | some reason => simp [receive, hslot]
      | none =>
        by_cases hhandles : l.handles = 0
        · simp [receive, hslot, hhandles]
        · simp [receive, hslot, hhandles]

/-- **One step of a supervisor that looks at its sources one by one** is a step of the other, and it
    gives requests up soundly. -/
theorem Race.step_eq {r : Race} (h : r.Sound) (s : Step) :
    ((r.step s).1, (r.step s).2.1.lifecycle, (r.step s).2.2) = r.lifecycle.step s ∧
      (r.step s).2.1.Sound := by
  by_cases hpoll : s = .poll
  · subst hpoll
    by_cases hw : r.lifecycle.supervisor = .waiting
    · obtain ⟨hverdict, hsound⟩ := race_of_sound h
      rcases hrace : r.lifecycle.race r.listening with ⟨found, listening⟩
      rw [hrace] at hverdict hsound
      cases found with
      | none =>
        have hv : r.lifecycle.verdict = none := hverdict.symm
        simp only [step, Lifecycle.step, if_pos hw, hrace]
        exact ⟨by simp [ready, poll, hw, hv], hsound⟩
      | some t =>
        have hv : r.lifecycle.verdict = some t := hverdict.symm
        simp only [step, Lifecycle.step, if_pos hw, hrace]
        exact ⟨by simp [ready, poll, hw, hv], fun hl => ⟨(hsound hl).1, rfl⟩⟩
    · simp only [step, Lifecycle.step, if_neg hw, true_and]
      exact h
  · have hstep : r.step s = ((r.lifecycle.step s).1, ⟨(r.lifecycle.step s).2.1, r.listening⟩,
        (r.lifecycle.step s).2.2) := by
      cases s with
      | poll => exact absurd rfl hpoll
      | _ => rfl
    rw [hstep]
    exact ⟨rfl, fun hl => deserted_step (h hl).1 (h hl).2 s⟩

/-- **Whether the supervisor looks at its sources one by one cannot be told.** -/
theorem Race.shown_eq {r : Race} (h : r.Sound) (steps : List Step) :
    r.shown steps = trace (fun l s => [l.step s]) r.lifecycle steps := by
  induction steps generalizing r with
  | nil => rfl
  | cons s rest ih =>
    obtain ⟨hstep, hsound⟩ := r.step_eq h s
    have hlifecycle : (r.step s).2.1.lifecycle = (r.lifecycle.step s).2.1 :=
      congrArg (·.2.1) hstep
    rw [shown, trace, ih hsound, hstep, hlifecycle]
    rfl

/-! ## 5. Handles are interchangeable -/

/-- **Which handles there are makes no difference** to some steps and to what comes after them. -/
structure Interchangeable (steps : List Step) (l : Lifecycle) : Prop where
  /-- Without their handles the steps answer, show and log the same, one by one, as those that are
      not left out did, -/
  same : kept steps = trace (fun l s => [l.shows s]) initial (plain steps)
  /-- and lead to the same state but for the number of handles. -/
  state : initial.run (plain steps) = l.single
  /-- The next step, if it is to be left out, shows nothing new and logs nothing. -/
  left_out : ∀ s, s.plain? l.handles = none → (l.step s).2.1.sight = l.sight ∧ (l.step s).2.2 = []
  /-- When all handles are gone and nobody has asked, a poll of a waiting supervisor is ready exactly
      when the signal has fired or the accept loop has ended, -/
  deserted : l.handles = 0 → requests steps = [] → l.supervisor = .waiting →
    ((l.step .poll).1 = .ready ↔
      (∃ name, firstSignal steps = some name) ∨ .listenerClosed ∈ steps) ∧
    ((l.step .poll).1 = .ready ∨ (l.step .poll).1 = .pending)
  /-- and until then, unless it is thrown away, it waits on, and each of its polls is pending. -/
  patient : l.handles = 0 → requests steps = [] → l.supervisor = .waiting →
    ∀ more, firstSignal (steps ++ more) = none → .listenerClosed ∉ steps ++ more →
      .dropSupervisor ∉ more →
      (l.run more).supervisor = .waiting ∧ (l.run more).step .poll = (.pending, l.run more, [])
  /-- A request that was made is delivered, be there handles left or not, unless the signal has
      fired. -/
  delivered : ∀ reason later, requests steps = reason :: later → firstSignal steps = none →
    l.supervisor = .waiting →
    (l.step .poll).1 = .ready ∧ (l.step .poll).2.1.trigger? = some (.requested reason)
  /-- A supervisor that gives up looking for requests when nobody is left to make one answers and
      logs the same, and leads to the same states. -/
  raced : Race.initial.shown steps = trace (fun l s => [l.step s]) initial steps

/-- **Handles are interchangeable, and dropping them is harmless**, whatever steps are taken. -/
theorem handles_interchangeable (steps : List Step) :
    Interchangeable steps (initial.run steps) where
  same := sights_plain steps
  state := run_plain steps
  left_out s hs := by
    obtain ⟨hsame, hsilent⟩ := step_of_left_out hs
    have hsight := congrArg sight hsame
    exact ⟨hsight, hsilent⟩
  deserted _ hasked hw := by
    obtain ⟨hready, hpending, -⟩ := poll_of_waiting hw
    have hverdict := verdict_of_waiting hw
    refine ⟨?_, ?_⟩
    · rw [hready, hverdict, decided_isSome, hasked]
      simp
    · rw [hready, hpending]
      cases (initial.run steps).verdict with
      | some t => exact Or.inl rfl
      | none => exact Or.inr rfl
  patient hdeserted hasked hw more hsignal hopen hkept := by
    obtain ⟨hwaits, hnothing⟩ := patient_run hw hdeserted hasked hsignal hopen hkept
    rw [run_append] at hwaits hnothing
    rcases poll_cases ((initial.run steps).run more) with ⟨-, t, ht, -⟩ | ⟨hpending, hrest⟩
    · rw [hnothing] at ht
      cases ht
    · exact ⟨hwaits, Prod.ext (hpending hwaits).2 hrest⟩
  delivered reason later hasked hsignal hw := by
    obtain ⟨hready, -, htrigger⟩ := poll_of_waiting hw
    have hverdict : (initial.run steps).verdict = some (.requested reason) := by
      rw [verdict_of_waiting hw]
      simp [decided, hsignal, hasked]
    rw [htrigger, hverdict]
    exact ⟨hready.mpr (by rw [hverdict]; rfl), rfl⟩
  raced := Race.initial.shown_eq (fun h => by cases h) steps

/-- The last handle is dropped with a request in the slot, which is delivered all the same. -/
example :
    let l := initial.run [.cloneHandle, .request "reboot" 1, .dropHandle, .dropHandle, .start]
    l.handles = 0 ∧ (l.step .poll).2.1.trigger? = some (.requested "reboot") := by decide

end Steward.Lifecycle
