import Steward.Proofs.Daemon.Ending
import Steward.Proofs.Daemon.Serial
import Steward.Proofs.Filesystem.Removal

/-!
# The teardown is complete, and never stuck

The supervisor waits for a reason to stop, the accept loop for the token, and the daemon for both.
None of them waits in vain: the end of the loop is a reason to stop, and stopping cancels the token.

* `supervisor_follows`, `loop_follows` -- the two looks: what one of the tasks does at its next move
  when the other is done.
* `published_run` -- the phases that a run enters are told by the one it is in.
* `refused_run` -- a run that could not listen stays as it was when it failed.
* `teardown_complete` -- the two tasks, the end of a run, and a run that never began, in one.
-/

namespace Steward.Daemon

variable {settings : Settings} {files : Filesystem} {moves : List Move} {t : Trigger}
  {failure : Failure} {d d' : Daemon}

/-! ## 1. Nobody waits in vain -/

/-- **Once the loop has ended, the supervisor has stopped or does so when it looks next**, whatever
    came in between. -/
theorem supervisor_follows (h : Mode d) (hloop : d.loop = .ended) :
    d.lifecycle.trigger?.isSome = true ∨ d.pollSupervisor.lifecycle.trigger?.isSome = true := by
  cases h with
  | leaving _ hw _ hcancelled =>
    have hverdict : ∃ t, d.lifecycle.verdict = some t := by
      unfold Lifecycle.verdict
      rw [hcancelled]
      cases d.lifecycle.signal <;> cases d.lifecycle.slot <;> exact ⟨_, rfl⟩
    obtain ⟨t, -, hstopped⟩ := stopped_of_ready ((ready_iff _).mpr ⟨hw, hverdict⟩)
    exact Or.inr (Lifecycle.trigger?_isSome_iff.mpr ⟨t, hstopped⟩)
  | draining t _ hstopped => exact Or.inl (Lifecycle.trigger?_isSome_iff.mpr ⟨t, hstopped⟩)
  | serving hserving => rw [hloop] at hserving; cases hserving
  | returned t hended => rw [hloop] at hended; cases hended
  | refused failure hended => rw [hloop] at hended; cases hended

/-- Behind the end of the loop, a daemon whose supervisor has stopped returns at the next turn. -/
theorem returns_next (settings : Settings) (hloop : d.loop = .ended)
    (ht : d.lifecycle.trigger?.isSome = true) : ∃ t, (pollLoop settings d).loop = .returned t := by
  obtain ⟨t, ht⟩ := Option.isSome_iff_exists.mp ht
  refine ⟨t, ?_⟩
  unfold pollLoop
  rw [hloop, ht]
  rfl

/-- **Once the supervisor has stopped, a loop that looks for clients ends at its next turn**, with
    clients waiting or not. -/
theorem loop_follows (settings : Settings) (h : Mode d) (hloop : d.loop = .selecting)
    (ht : d.lifecycle.supervisor = .stopped t) : (pollLoop settings d).loop = .ended := by
  rw [pollLoop_of_cancelled settings hloop (h.of_stopped ht).2]
  rfl

/-! ## 2. The phases of a run -/

/-- The phase that a move enters, if it enters one. -/
def entered (settings : Settings) (d : Daemon) (m : Move) : List Phase :=
  if (step settings d m).lifecycle.phase = d.lifecycle.phase then []
  else [(step settings d m).lifecycle.phase]

/-- **The phases that some moves enter**, one after another. -/
def published (settings : Settings) : Daemon → List Move → List Phase :=
  trace settings (entered settings)

/-- The phases on the way to one. -/
def wayTo : Phase → List Phase
  | .running => []
  | .draining => [.draining]
  | .terminated => [.draining, .terminated]

/-- A turn of the accept loop enters no phase but the last, and that behind the end of the loop. -/
theorem phase_turn {new : List (Nat × Attempt)} (ht : Turn settings d new d') :
    d'.lifecycle.phase = d.lifecycle.phase ∨
      (d.loop = .ended ∧ d.lifecycle.trigger?.isSome = true ∧
        d'.lifecycle.phase = .terminated) := by
  cases ht with
  | terminate hloop hlast => exact Or.inl (Lifecycle.request_phase _ _)
  | wrapUp t hloop ht => exact Or.inr ⟨hloop, by rw [ht]; rfl, rfl⟩
  | _ => exact Or.inl rfl

/-- **A move stays in the phase or enters the one behind it.** -/
theorem phase_step (settings : Settings) (h : Mode d) (m : Move) :
    wayTo (step settings d m).lifecycle.phase =
      wayTo d.lifecycle.phase ++ entered settings d m := by
  have hstays : (step settings d m).lifecycle.phase = d.lifecycle.phase →
      wayTo (step settings d m).lifecycle.phase =
        wayTo d.lifecycle.phase ++ entered settings d m := by
    intro hsame
    unfold entered
    rw [if_pos hsame, hsame, List.append_nil]
  rcases step_kinds settings d m with rfl | rfl | ha
  · rcases phase_turn (pollLoop_turn settings d) with hsame | ⟨hloop, ht, hlast⟩
    · exact hstays hsame
    · have hnow : (step settings d .pollLoop).lifecycle.phase = .terminated := hlast
      have hbefore : d.lifecycle.phase = .draining := by
        cases h with
        | draining t' _ _ hphase => exact hphase
        | leaving _ hw =>
          obtain ⟨t, hstopped⟩ := Lifecycle.trigger?_isSome_iff.mp ht
          rw [hw] at hstopped
          cases hstopped
        | serving hserving => rw [hloop] at hserving; cases hserving
        | returned t' hended => rw [hloop] at hended; cases hended
        | refused failure hended => rw [hloop] at hended; cases hended
      unfold entered
      rw [hnow, hbefore]
      rfl
  · rcases pollSupervisor_cases d with ⟨t, hw, -, hstop⟩ | ⟨-, hsame⟩
    · have hnow : (step settings d .pollSupervisor).lifecycle.phase = .draining :=
        congrArg (·.lifecycle.phase) hstop
      unfold entered
      rw [hnow, (h.of_waiting hw).1]
      rfl
    · exact hstays (congrArg (·.lifecycle.phase) hsame)
  · obtain ⟨signal, hlifecycle⟩ := ha.lifecycle
    exact hstays (by rw [hlifecycle])

theorem start_phase (settings : Settings) (files : Filesystem) :
    (start settings files).lifecycle.phase = .running := by
  rcases start_cases settings files with ⟨l, -, -, hlifecycle, -⟩ |
    ⟨failure, -, -, hlifecycle, -⟩ <;> rw [hlifecycle] <;> rfl

/-- **The phases that a run has entered** are those on the way to the one it is in. -/
theorem published_run (settings : Settings) (files : Filesystem) (moves : List Move) :
    published settings (start settings files) moves =
      wayTo (run settings (start settings files) moves).lifecycle.phase := by
  induction moves using List.reverseRecOn with
  | nil =>
    rw [run, List.foldl_nil, start_phase]
    rfl
  | append_singleton moves m ih =>
    unfold published at ih ⊢
    rw [trace_snoc, ih, run_snoc, phase_step settings (mode_run settings files moves) m]

/-! ## 3. A run that never began -/

/-- **A daemon that could not listen**, of which nothing came but what binding did. -/
structure Failed (failure : Failure) (events : List Event) (d : Daemon) : Prop where
  loop : d.loop = .refused failure
  supervisor : d.lifecycle.supervisor = .dropped true
  shut : d.listener.isOpen = false
  connections : d.connections = []
  attempts : d.attempts = []
  journal : d.journal = events

theorem failed_step {events : List Event} (settings : Settings) (d : Daemon) (m : Move)
    (h : Failed failure events d) : Failed failure events (step settings d m) := by
  cases m with
  | pollLoop =>
    have hsame : step settings d .pollLoop = d := by
      show pollLoop settings d = d
      unfold pollLoop
      rw [h.loop]
    rwa [hsame]
  | pollSupervisor =>
    have hsame : step settings d .pollSupervisor = d :=
      pollSupervisor_of_ne (by rw [h.supervisor]; exact nofun)
    rwa [hsame]
  | connect path =>
    obtain ⟨e, hrefused, -⟩ := refuses h.shut path
    have hsame : step settings d (.connect path) = d := by
      show (d.connect path).toOption.getD d = d
      rw [hrefused]
      rfl
    rwa [hsame]
  | write client bytes =>
    have hsame : step settings d (.write client bytes) = d := by
      show (d.write client bytes).toOption.getD d = d
      unfold write
      rw [h.connections]
      rfl
    rwa [hsame]
  | close client how =>
    refine ⟨h.loop, h.supervisor, h.shut, ?_, h.attempts, h.journal⟩
    show d.connections.modify client _ = []
    rw [h.connections]
    cases client <;> rfl
  | signal name =>
    obtain ⟨signal, hlifecycle⟩ := (aside_signal settings d name).lifecycle
    have hdropped : (step settings d (.signal name)).lifecycle.supervisor = .dropped true := by
      rw [hlifecycle]
      exact h.supervisor
    exact ⟨h.loop, hdropped, h.shut, h.connections, h.attempts, h.journal⟩
  | descriptors available =>
    exact ⟨h.loop, h.supervisor, h.shut, h.connections, h.attempts, h.journal⟩
  | replace path node => exact ⟨h.loop, h.supervisor, h.shut, h.connections, h.attempts, h.journal⟩

/-- **A run that could not listen stays as it was when it failed**, whatever is tried. -/
theorem refused_run
    (h : (Listener.bind files socketNumber settings.path).result = .error failure)
    (moves : List Move) :
    Failed failure (Listener.bind files socketNumber settings.path).events
      (run settings (start settings files) moves) := by
  refine keeps_run (failed_step settings) ?_ moves
  obtain ⟨hconnections, hattempts, -, hjournal⟩ := start_fields settings files
  rcases start_cases settings files with ⟨l, hbound, -⟩ |
    ⟨failure', hbound, hloop, hlifecycle, hlistener⟩
  · rw [h] at hbound
    cases hbound
  · obtain rfl : failure = failure' := Except.error.inj (h.symm.trans hbound)
    exact ⟨hloop, by rw [hlifecycle]; rfl, by rw [hlistener], hconnections, hattempts, hjournal⟩

/-- Binding says nothing of the lifecycle. -/
theorem target_bind (fs : Filesystem) (number : Nat) (path : Path) :
    ∀ e ∈ (Listener.bind fs number path).events, e.target ≠ "lifecycle" := by
  have hserver : "server" ≠ "lifecycle" := by decide
  intro e he
  rcases of_mem_bind he with rfl | rfl <;> exact hserver

/-! ## 4. The end of a run -/

/-- The last that a daemon says when it returns is that it has stopped, and it says so once. -/
theorem stopped_last (h : (run settings (start settings files) moves).loop = .returned t) :
    ∃ earlier, (run settings (start settings files) moves).journal = earlier ++ [.stopped] ∧
      .stopped ∉ earlier := by
  obtain ⟨before, after, -, -, -, -, hjournal⟩ := returned_run h
  obtain ⟨earlier, hend⟩ : ∃ earlier,
      (run settings (start settings files) moves).journal = earlier ++ [.stopped] := by
    rw [hjournal]
    exact ⟨_, (List.append_assoc _ _ _).symm.trans rfl⟩
  refine ⟨earlier, hend, fun hmem => ?_⟩
  have hsaid := farewells_run settings files moves
  rw [h, hend, farewells_append] at hsaid
  have hbefore : farewells earlier = if t = .listenerClosed then [.endedWithoutTrigger] else [] :=
    List.append_cancel_right hsaid
  have hfound : Event.stopped ∈ farewells earlier := List.mem_filter.mpr ⟨hmem, rfl⟩
  rw [hbefore] at hfound
  split at hfound <;> simp at hfound

/-- A run that has returned could listen. -/
theorem bound_of_returned (h : (run settings (start settings files) moves).loop = .returned t) :
    ∃ l, (Listener.bind files socketNumber settings.path).result = .ok l := by
  cases hbound : (Listener.bind files socketNumber settings.path).result with
  | ok l => exact ⟨l, rfl⟩
  | error failure =>
    have hloop := (refused_run hbound moves).loop
    rw [h] at hloop
    cases hloop

/-- **When a daemon returns, its path is free.** -/
theorem free_of_returned (h : (run settings (start settings files) moves).loop = .returned t) :
    ∃ before after, moves = before ++ .pollLoop :: after ∧
      (run settings (start settings files) before).loop = .ended ∧
      (run settings (start settings files) (before ++ [.pollLoop])).loop = .returned t ∧
      (run settings (start settings files) (before ++ [.pollLoop])).files.Free settings.path := by
  obtain ⟨before, after, hmoves, hended, -, hwrap, -⟩ := returned_run h
  obtain ⟨l, hbound⟩ := bound_of_returned h
  refine ⟨before, after, hmoves, hended, by rw [hwrap]; rfl, ?_⟩
  have hfree := Filesystem.free_of_bound hbound (run settings (start settings files) before).files
  rw [hwrap]
  unfold wrapUp Listener.close
  rw [(listener_run settings files before).1]
  exact hfree

/-! ## 5. The teardown -/

/-- **The teardown of a run**, after any moves whatever. -/
structure TornDown (settings : Settings) (files : Filesystem) (moves : List Move) (d : Daemon) :
    Prop where
  /-- When the accept loop has ended, the supervisor has stopped or stops at its next look, -/
  joined : d.loop = .ended ∨ (∃ t, d.loop = .returned t) →
    d.lifecycle.trigger?.isSome = true ∨ d.pollSupervisor.lifecycle.trigger?.isSome = true
  /-- and a turn later the daemon returns. -/
  returns : d.loop = .ended → ∃ t, (run settings d [.pollSupervisor, .pollLoop]).loop = .returned t
  /-- When the supervisor has stopped, a loop that looks for clients ends at its next turn, whoever
      waits, and the daemon returns at the one after that. -/
  follows : d.lifecycle.trigger?.isSome = true → d.loop = .selecting →
    (run settings d [.pollLoop]).loop = .ended ∧
      ∃ t, (run settings d [.pollLoop, .pollLoop]).loop = .returned t
  /-- A run that has returned has entered each phase once, and in order; -/
  phases : ∀ t, d.loop = .returned t →
    (start settings files).lifecycle.phase = .running ∧
      published settings (start settings files) moves = [.draining, .terminated]
  /-- the token is cancelled; -/
  cancelled : ∀ t, d.loop = .returned t → d.lifecycle.cancelled = true
  /-- by the turn at which it returned, the path was free, unless a directory stood there, which is
      not removed; -/
  freed : ∀ t, d.loop = .returned t → ∃ before after, moves = before ++ .pollLoop :: after ∧
    (run settings (start settings files) before).loop = .ended ∧
    (run settings (start settings files) (before ++ [.pollLoop])).loop = .returned t ∧
    (run settings (start settings files) (before ++ [.pollLoop])).files.Free settings.path
  /-- and the last that it said, once, is that it has stopped. -/
  stopped : ∀ t, d.loop = .returned t →
    ∃ earlier, d.journal = earlier ++ [.stopped] ∧ .stopped ∉ earlier
  /-- A run that cannot listen returns that failure; no connection was made, no call was made, and
      nothing was said of the lifecycle. -/
  refused : ∀ failure, (Listener.bind files socketNumber settings.path).result = .error failure →
    d.outcome? = some (.refused failure) ∧ d.connections = [] ∧ d.attempts = [] ∧
      calls settings (start settings files) moves = [] ∧
      ∀ e ∈ d.journal, e.target ≠ "lifecycle"

/-- **The teardown is complete and never stuck**, whatever the clients, the surroundings and the two
    tasks of the daemon do and in whichever order. -/
theorem teardown_complete (settings : Settings) (files : Filesystem) (moves : List Move) :
    TornDown settings files moves (run settings (start settings files) moves) := by
  have hmode := mode_run settings files moves
  generalize hd : run settings (start settings files) moves = d at hmode
  constructor
  case joined =>
    rintro (hloop | ⟨t, hloop⟩)
    · exact supervisor_follows hmode hloop
    · exact Or.inl (Lifecycle.trigger?_isSome_iff.mpr ⟨t, (hmode.of_returned hloop).1⟩)
  case returns =>
    intro hloop
    have hstill : d.pollSupervisor.loop = .ended := (pollSupervisor_grows d).loop.trans hloop
    refine returns_next settings hstill ?_
    rcases supervisor_follows hmode hloop with ht | ht
    · obtain ⟨t, hstopped⟩ := Lifecycle.trigger?_isSome_iff.mp ht
      exact Lifecycle.trigger?_isSome_iff.mpr ⟨t, stopped_step settings d .pollSupervisor hstopped⟩
    · exact ht
  case follows =>
    intro ht hloop
    obtain ⟨t, hstopped⟩ := Lifecycle.trigger?_isSome_iff.mp ht
    have hended := loop_follows settings hmode hloop hstopped
    refine ⟨hended, returns_next settings hended ?_⟩
    exact Lifecycle.trigger?_isSome_iff.mpr ⟨t, stopped_step settings d .pollLoop hstopped⟩
  case phases =>
    intro t hloop
    refine ⟨start_phase settings files, ?_⟩
    rw [published_run, hd, (hmode.of_returned hloop).2.1]
    rfl
  case cancelled => exact fun t hloop => (hmode.of_returned hloop).2.2
  case freed =>
    intro t hloop
    rw [← hd] at hloop
    exact free_of_returned hloop
  case stopped =>
    intro t hloop
    rw [← hd] at hloop ⊢
    exact stopped_last hloop
  case refused =>
    intro failure hbound
    have hfailed := refused_run hbound moves
    rw [hd] at hfailed
    obtain ⟨served, rest, haccount⟩ := account_run settings files moves
    have hmade : (calls settings (start settings files) moves).map (·.2) = [] := by
      rw [← haccount.attempts, hd, hfailed.attempts]
    refine ⟨?_, hfailed.connections, hfailed.attempts, List.map_eq_nil_iff.mp hmade, ?_⟩
    · unfold outcome?
      rw [hfailed.loop]
    · rw [hfailed.journal]
      exact target_bind files socketNumber settings.path

end Steward.Daemon
