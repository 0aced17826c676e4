import Mathlib.Data.List.Induction
import Steward.Lifecycle

/-!
# What a lifecycle remembers of its past

The state of the teardown is a handful of cells, but what the supervisor stops with is a matter of
the whole past: which signal came, and who asked first. This file reads the past off the steps
alone, and shows that the state reflects it.

* `requests` lists the requests that were made through a handle that existed, `firstSignal` is the
  signal that fired; neither looks at the state.
* `Reflects` -- the INVARIANT on every state that steps lead to: as long as the supervisor lives,
  the slot holds the first request, and the signal is the first one that was fired.
* `reflects_run` -- every sequence of steps keeps it.
* `answers_run` -- of all requests at most the first is taken down; the others are told that the
  teardown is in progress already.
-/

namespace Steward

/-- The reason of the request that an event answers. -/
def Event.answered? : Event → Option String
  | .shutdownRequested reason | .shutdownInProgress reason => some reason
  | _ => none

/-- The answers to requests among some events. -/
def Event.answers (events : List Event) : List Event := events.filter fun e => e.answered?.isSome

@[simp] theorem Event.answers_append (xs ys : List Event) :
    Event.answers (xs ++ ys) = Event.answers xs ++ Event.answers ys := by
  simp [Event.answers]

namespace Lifecycle

/-! ## 1. The past, read off the steps -/

/-- How many handles there are after a step. -/
def Step.handlesAfter (n : Nat) : Step → Nat
  | .cloneHandle => if n = 0 then 0 else n + 1
  | .dropHandle => n - 1
  | _ => n

/-- The request that a step makes when there are `n` handles. -/
def Step.request? (n : Nat) : Step → Option String
  | .request reason handle => if handle < n then some reason else none
  | _ => none

/-- How many handles there are after some steps. -/
def handlesAfter (n : Nat) (steps : List Step) : Nat := steps.foldl (fun n s => s.handlesAfter n) n

/-- The requests that some steps make, the first of them first, when there are `n` handles. -/
def requestsFrom : (n : Nat) → List Step → List String
  | _, [] => []
  | n, s :: rest => (s.request? n).toList ++ requestsFrom (s.handlesAfter n) rest

/-- **The requests that were ever made**, through whichever handle. -/
def requests (steps : List Step) : List String := requestsFrom 1 steps

/-- **The signal that fired**, which is the first one that was tried. -/
def firstSignal (steps : List Step) : Option String :=
  steps.findSome? fun s => match s with
    | .external name => some name
    | _ => none

/-- **What steps leave behind**, one after another, when `mark` tells what a step leaves behind. -/
def trace {α : Type} (mark : Lifecycle → Step → List α) : Lifecycle → List Step → List α
  | _, [] => []
  | l, s :: rest => mark l s ++ trace mark (l.step s).2.1 rest

/-- All that some steps log. -/
def journal : Lifecycle → List Step → List Event
  | _, [] => []
  | l, s :: rest => (l.step s).2.2 ++ journal (l.step s).2.1 rest

theorem requestsFrom_append (n : Nat) (xs ys : List Step) :
    requestsFrom n (xs ++ ys) = requestsFrom n xs ++ requestsFrom (handlesAfter n xs) ys := by
  induction xs generalizing n with
  | nil => rfl
  | cons s rest ih =>
    simp only [List.cons_append, requestsFrom, ih, List.append_assoc]
    rfl

theorem handlesAfter_snoc (n : Nat) (steps : List Step) (s : Step) :
    handlesAfter n (steps ++ [s]) = s.handlesAfter (handlesAfter n steps) := by
  simp [handlesAfter]

theorem requests_snoc (steps : List Step) (s : Step) :
    requests (steps ++ [s]) = requests steps ++ (s.request? (handlesAfter 1 steps)).toList := by
  simp [requests, requestsFrom_append, requestsFrom]

theorem firstSignal_snoc (steps : List Step) (s : Step) :
    firstSignal (steps ++ [s]) = (firstSignal steps).or (firstSignal [s]) := by
  simp [firstSignal, List.findSome?_append]

theorem run_append (l : Lifecycle) (xs ys : List Step) : l.run (xs ++ ys) = (l.run xs).run ys := by
  simp [run]

theorem run_snoc (l : Lifecycle) (steps : List Step) (s : Step) :
    l.run (steps ++ [s]) = ((l.run steps).step s).2.1 := by
  simp [run]

theorem run_append_cons (l : Lifecycle) (before after : List Step) (s : Step) :
    l.run (before ++ s :: after) = ((l.run before).step s).2.1.run after := by
  simp [run]

theorem trace_snoc {α : Type} (mark : Lifecycle → Step → List α) (l : Lifecycle)
    (steps : List Step) (s : Step) :
    trace mark l (steps ++ [s]) = trace mark l steps ++ mark (l.run steps) s := by
  induction steps generalizing l with
  | nil => simp [trace, run]
  | cons s' rest ih =>
    simp only [List.cons_append, trace, ih, List.append_assoc]
    rfl

theorem journal_append (l : Lifecycle) (xs ys : List Step) :
    journal l (xs ++ ys) = journal l xs ++ journal (l.run xs) ys := by
  induction xs generalizing l with
  | nil => rfl
  | cons s rest ih =>
    simp only [List.cons_append, journal, ih, List.append_assoc]
    rfl

theorem journal_snoc (l : Lifecycle) (steps : List Step) (s : Step) :
    journal l (steps ++ [s]) = journal l steps ++ ((l.run steps).step s).2.2 := by
  simp [journal_append, journal]

/-! ## 2. Triggers, requests and signals -/

theorem trigger?_eq_some_iff {l : Lifecycle} {t : Trigger} :
    l.trigger? = some t ↔ l.supervisor = .stopped t := by
  unfold trigger?
  cases l.supervisor <;> simp

theorem trigger?_isSome_iff {l : Lifecycle} :
    l.trigger?.isSome = true ↔ ∃ t, l.supervisor = .stopped t := by
  rw [Option.isSome_iff_exists]
  exact exists_congr fun _ => trigger?_eq_some_iff

@[simp] theorem request_supervisor (reason : String) (l : Lifecycle) :
    (l.request reason).1.supervisor = l.supervisor := by
  unfold request
  split <;> rfl

@[simp] theorem request_phase (reason : String) (l : Lifecycle) :
    (l.request reason).1.phase = l.phase := by
  unfold request
  split <;> rfl

@[simp] theorem request_signal (reason : String) (l : Lifecycle) :
    (l.request reason).1.signal = l.signal := by
  unfold request
  split <;> rfl

/-- Only a request that finds the slot free and the supervisor alive gets into the slot. -/
theorem request_slot_of_free {l : Lifecycle} (reason : String) (hslot : l.slot = none)
    (hlives : l.supervised = true) : (l.request reason).1.slot = some reason := by
  unfold request
  rw [hslot, hlives]
  rfl

/-- A signal that fires changes nothing but what has become of the signal. -/
theorem fire_eq (name : String) (l : Lifecycle) :
    l.fire name = { l with signal := if l.audible then .fired name else .unheard } := by
  unfold fire
  split <;> rfl

/-! ## 3. Polls -/

/-- **What a poll does**: a waiting supervisor that can stop stops with its verdict, and tears the
    daemon down; any other poll changes nothing. -/
theorem poll_cases (l : Lifecycle) :
    (l.supervisor = .waiting ∧ ∃ t, l.verdict = some t ∧ l.step .poll = (.ready, l.drain t)) ∨
    ((l.supervisor = .waiting → l.verdict = none ∧ (l.step .poll).1 = .pending) ∧
      (l.step .poll).2 = (l, [])) := by
  by_cases hw : l.supervisor = .waiting
  · cases hv : l.verdict with
    | some t => exact Or.inl ⟨hw, t, rfl, by simp [step, poll, ready, hw, hv]⟩
    | none =>
      refine Or.inr ⟨fun _ => ⟨rfl, ?_⟩, ?_⟩
      · simp [step, ready, hw, hv]
      · simp [step, poll, hw, hv]
  · exact Or.inr ⟨fun h => absurd h hw, by simp [step, hw]⟩

/-! ## 4. The state reflects the past -/

/-- **The state after some steps**: the handles are counted, and while the supervisor lives the slot
    holds the first request and the signal is the first that was fired. -/
structure Reflects (steps : List Step) (l : Lifecycle) : Prop where
  handles : l.handles = handlesAfter 1 steps
  slot : l.supervised = true → l.slot = (requests steps).head?
  signal : l.supervised = true → l.signal = (firstSignal steps).elim .silent .fired

theorem reflects_initial : Reflects [] .initial where
  handles := rfl
  slot _ := rfl
  signal _ := rfl

/-- A supervisor that lives can hear the signal. -/
theorem audible_of_supervised {l : Lifecycle} (h : l.supervised = true) : l.audible = true := by
  unfold supervised at h
  unfold audible
  cases hs : l.supervisor with
  | idle => rfl
  | waiting => rfl
  | stopped t => rw [hs] at h; cases h
  | dropped deaf => rw [hs] at h; cases h

/-- A step that neither asks nor signals keeps what the state reflects, as long as it leaves slot
    and signal of a living supervisor alone. -/
theorem Reflects.quiet {steps : List Step} {l l' : Lifecycle} {s : Step} (h : Reflects steps l)
    (hask : s.request? l.handles = none) (hsignal : firstSignal [s] = none)
    (hhandles : l'.handles = s.handlesAfter l.handles)
    (hlives : l'.supervised = true →
      l.supervised = true ∧ l'.slot = l.slot ∧ l'.signal = l.signal) :
    Reflects (steps ++ [s]) l' where
  handles := by rw [hhandles, h.handles, handlesAfter_snoc]
  slot hl := by
    obtain ⟨hl, hslot, -⟩ := hlives hl
    rw [requests_snoc, ← h.handles, hask, hslot, h.slot hl]
    simp
  signal hl := by
    obtain ⟨hl, -, hs⟩ := hlives hl
    rw [firstSignal_snoc, hsignal, hs, h.signal hl]
    simp

theorem Reflects.request {steps : List Step} {l : Lifecycle} (h : Reflects steps l)
    (reason : String) (handle : Nat) :
    Reflects (steps ++ [.request reason handle]) (l.step (.request reason handle)).2.1 := by
  by_cases hn : handle < l.handles
  · have hask : (Step.request reason handle).request? (handlesAfter 1 steps) = some reason := by
      simp [Step.request?, ← h.handles, hn]
    have hquiet : firstSignal [Step.request reason handle] = none := rfl
    simp only [step, if_pos hn]
    unfold Lifecycle.request
    split
    · rename_i hfree
      obtain ⟨hnone, hlives⟩ := Bool.and_eq_true_iff.mp hfree
      -- the slot is free, so nobody has asked before
      have hfirst : (requests steps).head? = none := by
        rw [← h.slot hlives]
        exact Option.isNone_iff_eq_none.mp hnone
      exact
        { handles := by rw [handlesAfter_snoc, ← h.handles]; rfl
          slot := fun _ => by
            rw [requests_snoc, hask, List.head?_append, hfirst]
            rfl
          signal := fun hl => by
            rw [firstSignal_snoc, hquiet, Option.or_none]
            exact h.signal hl }
    · rename_i htaken
      refine ⟨by rw [handlesAfter_snoc, ← h.handles]; rfl, fun hl => ?_, fun hl => ?_⟩
      · have hsome : l.slot ≠ none := fun e => htaken (by rw [e, hl]; rfl)
        rw [requests_snoc, hask, List.head?_append, ← h.slot hl]
        cases hs : l.slot with
        | none => exact absurd hs hsome
        | some first => rfl
      · rw [firstSignal_snoc, hquiet, Option.or_none]
        exact h.signal hl
  · have hask : (Step.request reason handle).request? l.handles = none := by
      simp [Step.request?, hn]
    simp only [step, if_neg hn]
    exact h.quiet hask rfl rfl fun hl => ⟨hl, rfl, rfl⟩

theorem Reflects.external {steps : List Step} {l : Lifecycle} (h : Reflects steps l)
    (name : String) : Reflects (steps ++ [.external name]) (l.step (.external name)).2.1 := by
  have hnew : firstSignal [Step.external name] = some name := rfl
  simp only [step]
  split
  · rename_i hsilent
    have hfire : (l.fire name).handles = l.handles ∧ (l.fire name).supervised = l.supervised ∧
        (l.fire name).slot = l.slot := by
      rw [fire_eq]
      exact ⟨rfl, rfl, rfl⟩
    obtain ⟨hhandles, hlives, hslot⟩ := hfire
    refine ⟨by rw [hhandles, h.handles, handlesAfter_snoc]; rfl, fun hl => ?_, fun hl => ?_⟩
    · rw [hlives] at hl
      rw [hslot, requests_snoc, h.slot hl]
      simp [Step.request?]
    · rw [hlives] at hl
      -- nothing fired before, and a living supervisor hears what fires now
      have hfirst : firstSignal steps = none := by
        have he := h.signal hl
        rw [hsilent] at he
        cases hf : firstSignal steps with
        | none => rfl
        | some old => rw [hf] at he; cases he
      rw [firstSignal_snoc, hfirst, hnew]
      rw [fire_eq, if_pos (audible_of_supervised hl)]
      rfl
  · rename_i hfired
    refine ⟨by rw [h.handles, handlesAfter_snoc]; rfl, fun hl => ?_, fun hl => ?_⟩
    · rw [requests_snoc, h.slot hl]
      simp [Step.request?]
    · have he := h.signal hl
      rw [firstSignal_snoc]
      cases hf : firstSignal steps with
      | none => rw [hf] at he; exact absurd he hfired
      | some old => rw [he, hf]; rfl

/-- **Every step keeps what the state reflects.** -/
theorem reflects_step {steps : List Step} {l : Lifecycle} (h : Reflects steps l) (s : Step) :
    Reflects (steps ++ [s]) (l.step s).2.1 := by
  cases s with
  | request reason handle => exact h.request reason handle
  | external name => exact h.external name
  | cloneHandle =>
    refine h.quiet rfl rfl ?_ fun hl => ?_
    · simp only [step, Step.handlesAfter]
      split <;> simp_all
    · simp only [step] at hl ⊢
      split at hl <;> rename_i hn <;> simp only [hn] <;> exact ⟨hl, rfl, rfl⟩
  | dropHandle => exact h.quiet rfl rfl rfl fun hl => ⟨hl, rfl, rfl⟩
  | start =>
    refine h.quiet rfl rfl ?_ fun hl => ?_
    · simp only [step]
      cases l.supervisor <;> rfl
    · simp only [step] at hl ⊢
      cases hs : l.supervisor with
      | idle => exact ⟨by unfold supervised; rw [hs], rfl, rfl⟩
      | waiting => exact ⟨by unfold supervised; rw [hs], rfl, rfl⟩
      | stopped t => rw [hs] at hl; unfold supervised at hl; simp [hs] at hl
      | dropped deaf => rw [hs] at hl; cases hl
  | poll =>
    rcases poll_cases l with ⟨-, t, -, hready⟩ | ⟨-, hrest⟩
    · rw [hready]
      exact h.quiet rfl rfl rfl fun hl => by cases hl
    · rw [hrest]
      exact h.quiet rfl rfl rfl fun hl => ⟨hl, rfl, rfl⟩
  | dropSupervisor =>
    refine h.quiet rfl rfl ?_ fun hl => ?_
    · simp only [step]
      cases l.supervisor <;> rfl
    · simp only [step] at hl
      cases hs : l.supervisor with
      | idle => rw [hs] at hl; cases hl
      | waiting => rw [hs] at hl; cases hl
      | stopped t => rw [hs] at hl; simp [supervised, hs] at hl
      | dropped deaf => rw [hs] at hl; simp [supervised, hs] at hl
  | listenerClosed => exact h.quiet rfl rfl rfl fun hl => ⟨hl, rfl, rfl⟩
  | finish => exact h.quiet rfl rfl rfl fun hl => ⟨hl, rfl, rfl⟩

/-- **The state that some steps lead to reflects them.** -/
theorem reflects_run (steps : List Step) : Reflects steps (initial.run steps) := by
  induction steps using List.reverseRecOn with
  | nil => exact reflects_initial
  | append_singleton steps s ih =>
    rw [run_snoc]
    exact reflects_step ih s

/-! ## 5. How requests are answered -/

/-- **Some requests, and their answers**: either all were made too late, or the first one was taken
    down and the others were not. -/
def Answered (asked : List String) (answers : List Event) : Prop :=
  answers = asked.map .shutdownInProgress ∨
  ∃ first later, asked = first :: later ∧
    answers = .shutdownRequested first :: later.map .shutdownInProgress

/-- A request that comes too late is told so, whatever was answered before. -/
theorem Answered.late {asked : List String} {answers : List Event} (h : Answered asked answers)
    (reason : String) :
    Answered (asked ++ [reason]) (answers ++ [.shutdownInProgress reason]) := by
  rcases h with rfl | ⟨first, later, rfl, rfl⟩
  · exact Or.inl (by simp)
  · exact Or.inr ⟨first, later ++ [reason], rfl, by simp⟩

/-- What a step answers to requests: something only to the request it makes, which is taken down
    if the slot is free and the supervisor lives. -/
theorem answers_step (l : Lifecycle) (s : Step) :
    Event.answers (l.step s).2.2 =
      match s.request? l.handles with
      | none => []
      | some reason =>
        if l.slot.isNone && l.supervised then [.shutdownRequested reason]
        else [.shutdownInProgress reason] := by
  cases s with
  | request reason handle =>
    by_cases hn : handle < l.handles
    · simp only [step, if_pos hn, Step.request?, request]
      split <;> rfl
    · simp [step, if_neg hn, Step.request?, Event.answers]
  | poll =>
    rcases poll_cases l with ⟨-, t, -, hready⟩ | ⟨-, hrest⟩
    · rw [hready]; rfl
    · rw [hrest]; rfl
  | cloneHandle => simp only [step]; split <;> rfl
  | external name => simp only [step]; split <;> rfl
  | start => simp only [step]; cases l.supervisor <;> rfl
  | dropHandle => rfl
  | dropSupervisor => rfl
  | listenerClosed => rfl
  | finish => rfl

/-- **Of all requests at most the first is taken down**, and every one is answered. -/
theorem answers_run (steps : List Step) :
    Answered (requests steps) (Event.answers (journal initial steps)) := by
  induction steps using List.reverseRecOn with
  | nil => exact Or.inl rfl
  | append_singleton steps s ih =>
    have h := reflects_run steps
    rw [requests_snoc, journal_snoc, Event.answers_append, answers_step, ← h.handles]
    cases s.request? (initial.run steps).handles with
    | none => simpa using ih
    | some reason =>
      simp only [Option.toList_some]
      split
      · rename_i hfree
        obtain ⟨hnone, hlives⟩ := Bool.and_eq_true_iff.mp hfree
        have hfirst : requests steps = [] := by
          rw [← List.head?_eq_none_iff, ← h.slot hlives]
          exact Option.isNone_iff_eq_none.mp hnone
        rw [hfirst] at ih ⊢
        have hnothing : Event.answers (journal initial steps) = [] := by
          rcases ih with he | ⟨_, _, he, -⟩
          · exact he
          · cases he
        rw [hnothing]
        exact Or.inr ⟨reason, [], rfl, rfl⟩
      · exact ih.late reason

end Lifecycle

end Steward
