import Steward.Proofs.Lifecycle.History

/-!
# The teardown happens once, and the listener is closed first

Signals, requests and the end of the accept loop may come at any time, again and again, and the
supervisor may be polled before and after. Only one poll tears the daemon down.

* `step_cases` -- a step is the poll at which the supervisor stops (`Lifecycle.drain`), or it is
  `Calm`: the trigger, the closings and the log of teardowns stay, and the token is cancelled by
  nothing but the end of the accept loop.
* `Completes` -- a first part of the steps after which the supervisor stops at the next poll.
* `Torn` -- the INVARIANT on every state that steps lead to: the teardown is still ahead, or it was
  done by the only poll that completes.
* `teardown_once` -- the listener is closed once at most, before the token is cancelled unless the
  accept loop had ended by itself, and after that nothing about the teardown changes any more.
-/

namespace Steward

/-- The trigger of the teardown that an event announces. -/
def Event.teardown? : Event → Option Trigger
  | .draining t => some t
  | _ => none

/-- The teardowns that some events announce, by their triggers. -/
def Event.teardowns (events : List Event) : List Trigger := events.filterMap Event.teardown?

@[simp] theorem Event.teardowns_append (xs ys : List Event) :
    Event.teardowns (xs ++ ys) = Event.teardowns xs ++ Event.teardowns ys := by
  simp [Event.teardowns]

namespace Lifecycle

/-! ## 1. One step -/

/-- **A step that tears nothing down.** -/
structure Calm (l : Lifecycle) (s : Step) : Prop where
  reply : (l.step s).1 ≠ .ready
  trigger : (l.step s).2.1.trigger? = l.trigger?
  closings : (l.step s).2.1.closings = l.closings
  cancelled : (l.step s).2.1.cancelled = (l.cancelled || decide (s = .listenerClosed))
  silent : Event.teardowns (l.step s).2.2 = []

/-- A step that leaves the teardown as it is, and says nothing of it. -/
theorem Calm.of_eq {l l' : Lifecycle} {s : Step} {reply : Reply} {events : List Event}
    (hstep : l.step s = (reply, l', events)) (hreply : reply ≠ .ready)
    (htrigger : l'.trigger? = l.trigger?) (hclosings : l'.closings = l.closings)
    (hcancelled : l'.cancelled = (l.cancelled || decide (s = .listenerClosed)))
    (hsilent : Event.teardowns events = []) : Calm l s := by
  constructor <;> rw [hstep] <;> assumption

theorem calm_request (l : Lifecycle) (reason : String) (handle : Nat) :
    Calm l (.request reason handle) := by
  by_cases hn : handle < l.handles
  · have hstep : l.step (.request reason handle) = (.ok, l.request reason) := if_pos hn
    unfold request at hstep
    split at hstep <;> exact .of_eq hstep nofun rfl rfl (Bool.or_false _).symm rfl
  · have hstep : l.step (.request reason handle) = (.noSuchHandle, l, []) := if_neg hn
    exact .of_eq hstep nofun rfl rfl (Bool.or_false _).symm rfl

theorem calm_external (l : Lifecycle) (name : String) : Calm l (.external name) := by
  by_cases hs : l.signal = .silent
  · have hstep : l.step (.external name) = (.heard l.audible, l.fire name, []) := if_pos hs
    rw [fire_eq] at hstep
    exact .of_eq hstep nofun rfl rfl (Bool.or_false _).symm rfl
  · have hstep : l.step (.external name) = (.alreadySent, l, []) := if_neg hs
    exact .of_eq hstep nofun rfl rfl (Bool.or_false _).symm rfl

theorem calm_start (l : Lifecycle) : Calm l .start := by
  cases hs : l.supervisor with
  | idle =>
    have hstep : l.step .start = (.ok, { l with supervisor := .waiting }, []) := by
      simp [step, hs]
    exact .of_eq hstep (by simp) (by simp [trigger?, hs]) rfl (Bool.or_false _).symm rfl
  | dropped deaf =>
    have hstep : l.step .start = (.alreadyStarted, { l with supervisor := .dropped true }, []) := by
      simp [step, hs]
    exact .of_eq hstep (by simp) (by simp [trigger?, hs]) rfl (Bool.or_false _).symm rfl
  | waiting =>
    have hstep : l.step .start = (.alreadyStarted, l, []) := by simp [step, hs]
    exact .of_eq hstep (by simp) rfl rfl (Bool.or_false _).symm rfl
  | stopped t =>
    have hstep : l.step .start = (.alreadyStarted, l, []) := by simp [step, hs]
    exact .of_eq hstep (by simp) rfl rfl (Bool.or_false _).symm rfl

theorem calm_dropSupervisor (l : Lifecycle) : Calm l .dropSupervisor := by
  have hstep : l.step .dropSupervisor = (.ok, (l.step .dropSupervisor).2.1, []) := rfl
  refine .of_eq hstep nofun ?_ ?_ ?_ rfl <;> simp only [step] <;>
    cases hs : l.supervisor <;> simp [trigger?, hs]

/-- A poll at which a waiting supervisor goes on waiting, or nobody waits. -/
theorem calm_poll {l : Lifecycle}
    (hpending : l.supervisor = .waiting → (l.step .poll).1 = .pending)
    (hrest : (l.step .poll).2 = (l, [])) : Calm l .poll := by
  have hstep : l.step .poll = ((l.step .poll).1, l, []) := by rw [← hrest]
  refine .of_eq hstep ?_ rfl rfl (Bool.or_false _).symm rfl
  by_cases hw : l.supervisor = .waiting
  · rw [hpending hw]
    exact nofun
  · simp [step, hw]

/-- **What a step does about the teardown**: it is the poll at which a waiting supervisor stops with
    its verdict, or it tears nothing down. -/
theorem step_cases (l : Lifecycle) (s : Step) :
    (s = .poll ∧ l.supervisor = .waiting ∧
      ∃ t, l.verdict = some t ∧ l.step .poll = (.ready, l.drain t)) ∨ Calm l s := by
  cases s with
  | poll =>
    rcases poll_cases l with hready | ⟨hpending, hrest⟩
    · exact Or.inl ⟨rfl, hready⟩
    · exact Or.inr (calm_poll (fun hw => (hpending hw).2) hrest)
  | request reason handle => exact Or.inr (calm_request l reason handle)
  | external name => exact Or.inr (calm_external l name)
  | start => exact Or.inr (calm_start l)
  | dropSupervisor => exact Or.inr (calm_dropSupervisor l)
  | cloneHandle =>
    refine Or.inr ?_
    by_cases hn : l.handles = 0
    · exact .of_eq (if_pos hn) nofun rfl rfl (Bool.or_false _).symm rfl
    · exact .of_eq (if_neg hn) nofun rfl rfl (Bool.or_false _).symm rfl
  | dropHandle => exact Or.inr (.of_eq rfl nofun rfl rfl (Bool.or_false _).symm rfl)
  | listenerClosed => exact Or.inr (.of_eq rfl nofun rfl rfl (Bool.or_true _).symm rfl)
  | finish => exact Or.inr (.of_eq rfl nofun rfl rfl (Bool.or_false _).symm rfl)

/-- Once the supervisor has returned, no step tears anything down. -/
theorem calm_of_stopped {l : Lifecycle} (h : l.trigger?.isSome = true) (s : Step) : Calm l s := by
  rcases step_cases l s with ⟨-, hw, -⟩ | hcalm
  · simp [trigger?, hw] at h
  · exact hcalm

/-- A token that is cancelled stays so. -/
theorem cancelled_step {l : Lifecycle} (h : l.cancelled = true) (s : Step) :
    (l.step s).2.1.cancelled = true := by
  rcases step_cases l s with ⟨rfl, -, t, -, hdrain⟩ | hcalm
  · rw [hdrain]
    rfl
  · rw [hcalm.cancelled, h, Bool.true_or]

theorem cancelled_run {l : Lifecycle} (h : l.cancelled = true) (steps : List Step) :
    (l.run steps).cancelled = true := by
  induction steps using List.reverseRecOn with
  | nil => exact h
  | append_singleton steps s ih =>
    rw [run_snoc]
    exact cancelled_step ih s

/-! ## 2. The poll that completes -/

/-- **After the steps `before` comes the poll at which the supervisor stops**, as one of `steps`. -/
structure Completes (before steps : List Step) : Prop where
  first : before ++ [.poll] <+: steps
  ready : ((initial.run before).step .poll).1 = .ready

/-- One step more brings one poll more, if it is a poll that is ready. -/
theorem completes_snoc {before steps : List Step} {s : Step} (h : Completes before (steps ++ [s])) :
    Completes before steps ∨ (before = steps ∧ ((initial.run steps).step s).1 = .ready) := by
  rcases List.prefix_concat_iff.mp h.first with heq | hfirst
  · obtain ⟨rfl, hs⟩ := List.append_inj' heq rfl
    refine Or.inr ⟨rfl, ?_⟩
    rw [← List.singleton_inj.mp hs]
    exact h.ready
  · exact Or.inl ⟨hfirst, h.ready⟩

theorem Completes.snoc {before steps : List Step} (h : Completes before steps) (s : Step) :
    Completes before (steps ++ [s]) :=
  ⟨h.first.trans (List.prefix_append _ _), h.ready⟩

/-! ## 3. The invariant -/

/-- **How far the teardown is after some steps.** -/
inductive Torn (steps : List Step) (l : Lifecycle) : Prop
  /-- No poll has completed: nothing is closed, and the token is the accept loop's. -/
  | ahead (htrigger : l.trigger? = none) (hclosings : l.closings = [])
      (hcancelled : l.cancelled = decide (.listenerClosed ∈ steps))
      (hannounced : Event.teardowns (journal initial steps) = [])
      (hnone : ∀ before, ¬Completes before steps)
  /-- One poll has completed, and it found the token as it was then. -/
  | done (t : Trigger) (before : List Step) (htrigger : l.trigger? = some t)
      (hclosings : l.closings = [decide (.listenerClosed ∈ before)])
      (hcancelled : l.cancelled = true)
      (hannounced : Event.teardowns (journal initial steps) = [t])
      (hcompletes : Completes before steps)
      (honly : ∀ before', Completes before' steps → before' = before)

theorem Torn.calm {steps : List Step} {s : Step} (h : Torn steps (initial.run steps))
    (hcalm : Calm (initial.run steps) s) :
    Torn (steps ++ [s]) ((initial.run steps).step s).2.1 := by
  have hannounced : Event.teardowns (journal initial (steps ++ [s])) =
      Event.teardowns (journal initial steps) := by
    rw [journal_snoc, Event.teardowns_append, hcalm.silent, List.append_nil]
  -- the new step is no poll that completes
  have hold : ∀ before, Completes before (steps ++ [s]) → Completes before steps := by
    intro before hc
    rcases completes_snoc hc with hc | ⟨-, hready⟩
    · exact hc
    · exact absurd hready hcalm.reply
  cases h with
  | ahead htrigger hclosings hcancelled hnothing hnone =>
    refine .ahead (hcalm.trigger.trans htrigger) (hcalm.closings.trans hclosings) ?_
      (hannounced.trans hnothing) fun before hc => hnone before (hold before hc)
    rw [hcalm.cancelled, hcancelled]
    simp [eq_comm]
  | done t before htrigger hclosings hcancelled hone hcompletes honly =>
    refine .done t before (hcalm.trigger.trans htrigger) (hcalm.closings.trans hclosings) ?_
      (hannounced.trans hone) (hcompletes.snoc s) fun before' hc => honly before' (hold before' hc)
    rw [hcalm.cancelled, hcancelled, Bool.true_or]

/-- The poll at which the supervisor stops finds the teardown ahead, and does it. -/
theorem Torn.drain {steps : List Step} {t : Trigger} (h : Torn steps (initial.run steps))
    (hw : (initial.run steps).supervisor = .waiting)
    (hdrain : (initial.run steps).step .poll = (.ready, (initial.run steps).drain t)) :
    Torn (steps ++ [.poll]) ((initial.run steps).step .poll).2.1 := by
  have hnothing : (initial.run steps).trigger? = none := by simp [trigger?, hw]
  cases h with
  | done t' _ htrigger => rw [hnothing] at htrigger; cases htrigger
  | ahead htrigger hclosings hcancelled hsilent hnone =>
    rw [hdrain]
    refine .done t steps rfl ?_ rfl ?_ ⟨List.prefix_rfl, by rw [hdrain]⟩ fun before hc => ?_
    · show (initial.run steps).closings ++ [(initial.run steps).cancelled] = _
      rw [hclosings, hcancelled, List.nil_append]
    · rw [journal_snoc, Event.teardowns_append, hsilent, hdrain]
      rfl
    · rcases completes_snoc hc with hc | ⟨heq, -⟩
      · exact absurd hc (hnone before)
      · exact heq

/-- **Every sequence of steps keeps the invariant.** -/
theorem torn_run (steps : List Step) : Torn steps (initial.run steps) := by
  induction steps using List.reverseRecOn with
  | nil =>
    refine .ahead rfl rfl rfl rfl fun before hc => ?_
    simpa using hc.first
  | append_singleton steps s ih =>
    rw [run_snoc]
    rcases step_cases (initial.run steps) s with ⟨rfl, hw, t, -, hdrain⟩ | hcalm
    · exact ih.drain hw hdrain
    · exact ih.calm hcalm

/-! ## 4. After the teardown -/

/-- **Once the supervisor has returned, nothing about the teardown changes**, whatever else is done,
    and none is announced any more. -/
theorem stopped_run {l : Lifecycle} (h : l.trigger?.isSome = true) (hcancelled : l.cancelled = true)
    (steps : List Step) :
    (l.run steps).trigger? = l.trigger? ∧ (l.run steps).closings = l.closings ∧
      (l.run steps).cancelled = true ∧ Event.teardowns (journal l steps) = [] := by
  induction steps using List.reverseRecOn with
  | nil => exact ⟨rfl, rfl, hcancelled, rfl⟩
  | append_singleton steps s ih =>
    obtain ⟨htrigger, hclosings, htoken, hsilent⟩ := ih
    have hcalm : Calm (l.run steps) s := calm_of_stopped (htrigger ▸ h) s
    rw [run_snoc, journal_snoc, Event.teardowns_append, hsilent, hcalm.silent]
    exact ⟨hcalm.trigger.trans htrigger, hcalm.closings.trans hclosings, cancelled_step htoken s,
      rfl⟩

/-- **How the teardown went**, read off the steps and the state they lead to. -/
structure TornOnce (steps : List Step) (l : Lifecycle) : Prop where
  /-- The listener is closed at most once, -/
  closed_once : l.closings.length ≤ 1
  /-- and it has been closed exactly when the supervisor has returned a trigger, -/
  closed_iff : l.closings ≠ [] ↔ l.trigger?.isSome = true
  /-- which it does at one poll, if at all. -/
  completed_iff : l.trigger?.isSome = true ↔ ∃ before, Completes before steps
  completed_once : ∀ before before', Completes before steps → Completes before' steps →
    before' = before
  /-- The token is cancelled exactly when the accept loop has ended or the supervisor has returned,
      -/
  cancelled_iff : l.cancelled = true ↔ .listenerClosed ∈ steps ∨ l.trigger?.isSome = true
  /-- and it stays cancelled. -/
  cancelled_stays : l.cancelled = true → ∀ more, (l.run more).cancelled = true
  /-- The closing saw the token cancelled exactly when the accept loop had ended before the poll
      that completed. -/
  closing_saw : ∀ before, Completes before steps →
    l.closings = [decide (.listenerClosed ∈ before)]
  /-- Otherwise the token was not cancelled before that poll and is cancelled after it, and the
      listener was closed in between. -/
  closed_first : ∀ before, Completes before steps → .listenerClosed ∉ before →
    (initial.run before).cancelled = false ∧
    (initial.run (before ++ [.poll])).closings = [false] ∧
    (initial.run (before ++ [.poll])).cancelled = true
  /-- Once the supervisor has returned, no step changes its trigger, the closings or the token, and
      none announces a teardown. -/
  final : l.trigger?.isSome = true → ∀ more,
    (l.run more).trigger? = l.trigger? ∧ (l.run more).closings = l.closings ∧
    (l.run more).cancelled = l.cancelled ∧ Event.teardowns (journal l more) = []
  /-- The log announces the one teardown there was. -/
  announced : Event.teardowns (journal initial steps) = l.trigger?.toList

/-- **The teardown happens once, and in the right order**, whatever steps are taken and in whichever
    order. -/
theorem teardown_once (steps : List Step) : TornOnce steps (initial.run steps) := by
  have hclosed_first : ∀ before, Completes before steps → .listenerClosed ∉ before →
      (initial.run before).cancelled = false ∧
      (initial.run (before ++ [.poll])).closings = [false] ∧
      (initial.run (before ++ [.poll])).cancelled = true := by
    intro before hc hopen
    rcases step_cases (initial.run before) .poll with ⟨-, hw, t, -, hdrain⟩ | hcalm
    · have hnothing : (initial.run before).trigger? = none := by simp [trigger?, hw]
      cases torn_run before with
      | done t' _ htrigger => rw [hnothing] at htrigger; cases htrigger
      | ahead htrigger hclosings hcancelled hsilent hnone =>
        have htoken : (initial.run before).cancelled = false := by
          rw [hcancelled, decide_eq_false hopen]
        rw [run_snoc, hdrain]
        refine ⟨htoken, ?_, rfl⟩
        show (initial.run before).closings ++ [(initial.run before).cancelled] = _
        rw [hclosings, htoken, List.nil_append]
    · exact absurd hc.ready hcalm.reply
  cases torn_run steps with
  | ahead htrigger hclosings hcancelled hsilent hnone =>
    have hnever : (initial.run steps).trigger?.isSome ≠ true := by simp [htrigger]
    exact
      { closed_once := by simp [hclosings]
        closed_iff := by simp [hclosings, htrigger]
        completed_iff := iff_of_false hnever fun ⟨before, hc⟩ => hnone before hc
        completed_once := fun before _ hc => absurd hc (hnone before)
        cancelled_iff := by simp [hcancelled, htrigger]
        cancelled_stays := cancelled_run
        closing_saw := fun before hc => absurd hc (hnone before)
        closed_first := hclosed_first
        final := fun h => absurd h hnever
        announced := by rw [hsilent, htrigger]; rfl }
  | done t before htrigger hclosings hcancelled hone hcompletes honly =>
    have hstopped : (initial.run steps).trigger?.isSome = true := by rw [htrigger]; rfl
    exact
      { closed_once := by simp [hclosings]
        closed_iff := by simp [hclosings, htrigger]
        completed_iff := iff_of_true hstopped ⟨before, hcompletes⟩
        completed_once := fun _ _ hc hc' => (honly _ hc').trans (honly _ hc).symm
        cancelled_iff := iff_of_true hcancelled (Or.inr hstopped)
        cancelled_stays := cancelled_run
        closing_saw := fun before' hc => by rw [hclosings, honly before' hc]
        closed_first := hclosed_first
        final := fun h more => by
          rw [hcancelled]
          exact stopped_run h hcancelled more
        announced := by rw [hone, htrigger]; rfl }

end Lifecycle

end Steward
