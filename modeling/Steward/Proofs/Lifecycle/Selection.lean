import Steward.Proofs.Lifecycle.History

/-!
# What the supervisor stops with

Three sources race for the supervisor, and which of them it stops with is decided by the past as a
whole: a signal that has fired comes before every request, however late it fired; of the requests
the very first one counts; the end of the accept loop counts only when there is nothing else.

* `decided` -- what the past decides, a function of the steps and the token.
* `Reflects.verdict` -- a living supervisor's verdict is what the past decides.
* `first_source_selected` -- a poll of a waiting supervisor is ready exactly when one of the three
  sources has something, and returns what the past decides; of all requests at most one is taken
  down; a supervisor that was thrown away never returns anything.
-/

namespace Steward.Lifecycle

/-- **What the past decides**: the signal that fired, else the first request, else the end of the
    accept loop if that was told to end. -/
def decided (steps : List Step) (cancelled : Bool) : Option Trigger :=
  match firstSignal steps, requests steps with
  | some name, _ => some (.external name)
  | none, reason :: _ => some (.requested reason)
  | none, [] => if cancelled then some .listenerClosed else none

/-- **The verdict of a living supervisor is what the past decides.** -/
theorem Reflects.verdict {steps : List Step} {l : Lifecycle} (h : Reflects steps l)
    (hl : l.supervised = true) : l.verdict = decided steps l.cancelled := by
  unfold Lifecycle.verdict decided
  rw [h.signal hl, h.slot hl]
  cases firstSignal steps with
  | some name => rfl
  | none =>
    cases requests steps with
    | nil => rfl
    | cons reason later => rfl

/-- Something is decided exactly when one of the three sources has something. -/
theorem decided_isSome (steps : List Step) (cancelled : Bool) :
    (decided steps cancelled).isSome = true ↔
      (∃ name, firstSignal steps = some name) ∨ requests steps ≠ [] ∨ cancelled = true := by
  unfold decided
  cases firstSignal steps with
  | some name => simp
  | none =>
    cases requests steps with
    | cons reason later => simp
    | nil => cases cancelled <;> simp

/-- A poll of a waiting supervisor is ready exactly when there is a verdict, and returns it. -/
theorem poll_of_waiting {l : Lifecycle} (hw : l.supervisor = .waiting) :
    ((l.step .poll).1 = .ready ↔ l.verdict.isSome = true) ∧
      ((l.step .poll).1 = .pending ↔ l.verdict = none) ∧
      (l.step .poll).2.1.trigger? = l.verdict := by
  rcases poll_cases l with ⟨-, t, hv, hready⟩ | ⟨hrest, hsame⟩
  · rw [hready, hv]
    simp [drain, trigger?]
  · obtain ⟨hv, hpending⟩ := hrest hw
    rw [hpending, hsame, hv]
    simp [trigger?, hw]

/-- A supervisor that was thrown away stays so. -/
theorem dropped_step {l : Lifecycle} {deaf : Bool} (h : l.supervisor = .dropped deaf) (s : Step) :
    ∃ deaf', (l.step s).2.1.supervisor = .dropped deaf' := by
  cases s with
  | request reason handle =>
    simp only [step]
    split
    · unfold request
      split <;> exact ⟨deaf, h⟩
    · exact ⟨deaf, h⟩
  | external name =>
    simp only [step, fire_eq]
    split <;> exact ⟨deaf, h⟩
  | cloneHandle => simp only [step]; split <;> exact ⟨deaf, h⟩
  | dropHandle => exact ⟨deaf, h⟩
  | start => exact ⟨true, by simp [step, h]⟩
  | poll => exact ⟨deaf, by simp [step, h]⟩
  | dropSupervisor => exact ⟨deaf, by simp [step, h]⟩
  | listenerClosed => exact ⟨deaf, h⟩
  | finish => exact ⟨deaf, h⟩

theorem dropped_run {l : Lifecycle} {deaf : Bool} (h : l.supervisor = .dropped deaf)
    (steps : List Step) : ∃ deaf', (l.run steps).supervisor = .dropped deaf' := by
  induction steps using List.reverseRecOn with
  | nil => exact ⟨deaf, h⟩
  | append_singleton steps s ih =>
    obtain ⟨_, hd⟩ := ih
    rw [run_snoc]
    exact dropped_step hd s

/-- Throwing away a supervisor that has not stopped leaves one that was thrown away. -/
theorem dropSupervisor_of_not_stopped {l : Lifecycle} (h : l.trigger? = none) :
    ∃ deaf, (l.step .dropSupervisor).2.1.supervisor = .dropped deaf := by
  simp only [step]
  cases hs : l.supervisor with
  | idle => exact ⟨false, rfl⟩
  | waiting => exact ⟨true, rfl⟩
  | stopped t => simp [trigger?, hs] at h
  | dropped deaf => exact ⟨deaf, by simp [hs]⟩

/-- **A supervisor that is thrown away before it stopped never returns a trigger.** -/
theorem trigger?_of_dropped (before after : List Step) (h : (initial.run before).trigger? = none) :
    (initial.run (before ++ .dropSupervisor :: after)).trigger? = none := by
  obtain ⟨deaf, hd⟩ := dropSupervisor_of_not_stopped h
  obtain ⟨_, hlater⟩ := dropped_run hd after
  rw [run_append_cons]
  unfold trigger?
  rw [hlater]

/-- **The selection of the trigger.** After any steps whatever:
    a poll of a supervisor that waits is ready exactly when the signal has fired, somebody has
    asked, or the token is cancelled, and is pending otherwise; what it returns is the signal if it has
    fired, else the first of all requests, else the end of the accept loop;
    of all requests at most one is taken down, the first, and the others are told that the teardown
    is in progress;
    and a supervisor that was thrown away before it stopped has returned no trigger. -/
theorem first_source_selected (steps : List Step) :
    let l := initial.run steps
    (l.supervisor = .waiting →
      ((l.step .poll).1 = .ready ↔
        (∃ name, firstSignal steps = some name) ∨ requests steps ≠ [] ∨ l.cancelled = true) ∧
      ((l.step .poll).1 = .ready ∨ (l.step .poll).1 = .pending) ∧
      (l.step .poll).2.1.trigger? = decided steps l.cancelled) ∧
    Answered (requests steps) (Event.answers (journal initial steps)) ∧
    (∀ before after, steps = before ++ .dropSupervisor :: after →
      (initial.run before).trigger? = none → l.trigger? = none) := by
  intro l
  have h : Reflects steps l := reflects_run steps
  refine ⟨fun hw => ?_, answers_run steps, ?_⟩
  · have hl : l.supervised = true := by
      unfold supervised
      rw [hw]
    have hv : l.verdict = decided steps l.cancelled := h.verdict hl
    obtain ⟨hready, hpending, htrigger⟩ := poll_of_waiting hw
    refine ⟨?_, ?_, htrigger.trans hv⟩
    · rw [hready, hv]
      exact decided_isSome steps l.cancelled
    · rw [hready, hpending]
      cases l.verdict with
      | some t => exact Or.inl rfl
      | none => exact Or.inr rfl
  · rintro before after rfl hnone
    exact trigger?_of_dropped before after hnone

/-- A signal that comes last is still heard first. -/
example :
    let l := initial.run [.start, .request "reboot" 0, .cloneHandle, .request "shutdown" 1,
      .listenerClosed, .external "SIGTERM"]
    (l.step .poll).2.1.trigger? = some (.external "SIGTERM") := by decide

end Steward.Lifecycle
