import Steward.Proofs.Daemon.Mode

/-!
# How a run ends

A run ends by two moves: a look at which the supervisor stops, and a turn at which the accept loop,
which has ended by then, lets the daemon return.

* `Completes` -- after these moves comes the look at which the supervisor stops. There is one at
  most (`Completes.unique`), and one for every supervisor that has stopped (`stopped_completes`).
* `returned_run` -- a daemon that has returned did so at one turn, and has logged nothing since.
* `farewells_run` -- two events are logged at that turn and at no other.
-/

namespace Steward

/-- Whether an event says that the daemon as a whole has come to its end. -/
def Event.isFarewell : Event → Bool
  | .endedWithoutTrigger | .stopped => true
  | _ => false

namespace Daemon

variable {settings : Settings} {files : Filesystem} {before moves : List Move} {t : Trigger}
  {d d' : Daemon}

/-! ## 1. The look that completes -/

/-- **After the moves `before` comes the look at which the supervisor stops**, as one of `moves`. -/
structure Completes (settings : Settings) (files : Filesystem) (before moves : List Move) :
    Prop where
  first : before ++ [.pollSupervisor] <+: moves
  ready : (run settings (start settings files) before).lifecycle.ready = true

theorem ready_iff (l : Lifecycle) :
    l.ready = true ↔ l.supervisor = .waiting ∧ ∃ t, l.verdict = some t := by
  unfold Lifecycle.ready
  rw [Bool.and_eq_true_iff, decide_eq_true_iff, Option.isSome_iff_exists]

/-- A look that finds the supervisor ready stops it with its verdict. -/
theorem stopped_of_ready (h : d.lifecycle.ready = true) :
    ∃ t, d.lifecycle.verdict = some t ∧ d.pollSupervisor.lifecycle.supervisor = .stopped t := by
  rcases pollSupervisor_cases d with ⟨t, -, hv, hstop⟩ | ⟨hpending, -⟩
  · exact ⟨t, hv, by rw [hstop]; rfl⟩
  · rw [h] at hpending
    cases hpending

/-- A supervisor that stops has its trigger ever after. -/
theorem Completes.stopped (h : Completes settings files before moves) :
    ∃ t, (run settings (start settings files) before).lifecycle.verdict = some t ∧
      (run settings (start settings files) moves).lifecycle.supervisor = .stopped t := by
  obtain ⟨after, rfl⟩ := h.first
  obtain ⟨t, hv, hstopped⟩ := stopped_of_ready h.ready
  refine ⟨t, hv, ?_⟩
  rw [run_append, run_snoc]
  exact keeps_run (stopped_step settings) hstopped after

/-- **The supervisor stops at one look.** -/
theorem Completes.unique {before' : List Move} (h : Completes settings files before moves)
    (h' : Completes settings files before' moves) : before' = before := by
  -- a look behind the one that completes finds a supervisor that has stopped
  have hlast : ∀ {xs ys : List Move}, xs ++ [.pollSupervisor] <+: ys ++ [.pollSupervisor] →
      (run settings (start settings files) xs).lifecycle.ready = true →
      (run settings (start settings files) ys).lifecycle.ready = true → xs = ys := by
    intro xs ys hprefix hx hy
    rcases List.prefix_concat_iff.mp hprefix with heq | hearlier
    · exact List.append_cancel_right heq
    · have hc : Completes settings files xs ys := ⟨hearlier, hx⟩
      obtain ⟨t, -, hstopped⟩ := hc.stopped
      have hwaits := ((ready_iff _).mp hy).1
      rw [hstopped] at hwaits
      cases hwaits
  rcases List.prefix_or_prefix_of_prefix h.first h'.first with hp | hp
  · exact (hlast hp h.ready h'.ready).symm
  · exact hlast hp h'.ready h.ready

/-- Only a look that finds the supervisor ready changes where it stands. -/
theorem supervisor_step (settings : Settings) (d : Daemon) (m : Move) :
    (step settings d m).lifecycle.supervisor = d.lifecycle.supervisor ∨
      (m = .pollSupervisor ∧ d.lifecycle.ready = true) := by
  rcases step_kinds settings d m with rfl | rfl | ha
  · exact Or.inl (supervisor_turn (pollLoop_turn settings d))
  · rcases pollSupervisor_cases d with ⟨t, hw, hv, -⟩ | ⟨-, hsame⟩
    · exact Or.inr ⟨rfl, (ready_iff _).mpr ⟨hw, t, hv⟩⟩
    · exact Or.inl (congrArg (·.lifecycle.supervisor) hsame)
  · obtain ⟨signal, hlifecycle⟩ := ha.lifecycle
    exact Or.inl (by rw [hlifecycle])

theorem start_supervisor (settings : Settings) (files : Filesystem) :
    (start settings files).lifecycle.supervisor = .waiting ∨
      (start settings files).lifecycle.supervisor = .dropped true := by
  rcases start_cases settings files with ⟨l, -, -, hlifecycle, -⟩ | ⟨failure, -, -, hlifecycle, -⟩
  · exact Or.inl (by rw [hlifecycle]; rfl)
  · exact Or.inr (by rw [hlifecycle]; rfl)

/-- **A supervisor that has stopped did so at a look.** -/
theorem stopped_completes
    (h : (run settings (start settings files) moves).lifecycle.supervisor = .stopped t) :
    ∃ before, Completes settings files before moves := by
  induction moves using List.reverseRecOn with
  | nil =>
    rw [run, List.foldl_nil] at h
    rcases start_supervisor settings files with hw | hw <;> rw [h] at hw <;> cases hw
  | append_singleton moves m ih =>
    rw [run_snoc] at h
    rcases supervisor_step settings (run settings (start settings files) moves) m with
      hsame | ⟨rfl, hready⟩
    · obtain ⟨before, hc⟩ := ih (hsame.symm.trans h)
      exact ⟨before, hc.first.trans (List.prefix_append _ _), hc.ready⟩
    · exact ⟨moves, List.prefix_rfl, hready⟩

/-! ## 2. The last turn -/

/-- The turn at which the daemon returns is the one behind the end of the accept loop. -/
theorem returned_turn {new : List (Nat × Attempt)} (ht : Turn settings d new d')
    (h : d'.loop = .returned t) :
    d.loop = .returned t ∨
      (d.loop = .ended ∧ d.lifecycle.trigger? = some t ∧ d' = d.wrapUp t) := by
  cases ht with
  | wait notified hidle => exact Or.inl h
  | wrapUp t' hloop ht =>
    obtain rfl : t' = t := Loop.returned.inj h
    exact Or.inr ⟨hloop, ht, rfl⟩
  | stop e hloop he => cases h
  | accept client hloop hnext => cases h
  | chunk hloop hc hchunk hsome => cases h
  | reject hend hover => cases h
  | dispatch hend hfits => cases h
  | call hloop ha => cases h
  | leave hloop hordinary => cases h
  | terminate hloop hlast => cases h

/-- A daemon that is over logs nothing. -/
theorem over_journal (settings : Settings) (m : Move) (h : Mode d)
    (hover : d.outcome?.isSome = true) : (step settings d m).journal = d.journal := by
  rcases step_kinds settings d m with rfl | rfl | ha
  · obtain ⟨notified, hsame⟩ := turn_of_over (pollLoop_turn settings d) hover
    exact congrArg (·.journal) hsame
  · exact congrArg (·.journal) (pollSupervisor_of_ne (h.not_waiting hover))
  · exact ha.unlogged

/-- **A daemon that has returned did so at one turn**, which found the loop ended and the supervisor
    stopped, and it has logged nothing since. -/
theorem returned_run (h : (run settings (start settings files) moves).loop = .returned t) :
    ∃ before after, moves = before ++ .pollLoop :: after ∧
      (run settings (start settings files) before).loop = .ended ∧
      (run settings (start settings files) before).lifecycle.trigger? = some t ∧
      run settings (start settings files) (before ++ [.pollLoop]) =
        (run settings (start settings files) before).wrapUp t ∧
      (run settings (start settings files) moves).journal =
        ((run settings (start settings files) before).wrapUp t).journal := by
  induction moves using List.reverseRecOn with
  | nil =>
    rw [run, List.foldl_nil] at h
    rcases start_cases settings files with ⟨l, -, hloop, -⟩ | ⟨failure, -, hloop, -⟩ <;>
      rw [h] at hloop <;> cases hloop
  | append_singleton moves m ih =>
    rw [run_snoc] at h ⊢
    by_cases hbefore : (run settings (start settings files) moves).loop = .returned t
    · obtain ⟨before, after, rfl, hended, ht, hwrap, hjournal⟩ := ih hbefore
      refine ⟨before, after ++ [m], by simp, hended, ht, hwrap, ?_⟩
      have hover : (run settings (start settings files)
          (before ++ .pollLoop :: after)).outcome?.isSome = true := by
        unfold outcome?
        rw [hbefore]
        rfl
      exact (over_journal settings m (mode_run settings files _) hover).trans hjournal
    · rcases step_kinds settings (run settings (start settings files) moves) m with rfl | rfl | ha
      · rcases returned_turn (pollLoop_turn settings _) h with hold | ⟨hended, ht, hwrap⟩
        · exact absurd hold hbefore
        · refine ⟨moves, [], rfl, hended, ht, ?_, congrArg (·.journal) hwrap⟩
          rw [run_snoc]
          exact hwrap
      · exact absurd ((pollSupervisor_grows _).loop.symm.trans h) hbefore
      · exact absurd (ha.loop.symm.trans h) hbefore

/-! ## 3. What is logged at the end -/

/-- The events of a log that say that the daemon has come to its end. -/
def farewells (events : List Event) : List Event := events.filter Event.isFarewell

@[simp] theorem farewells_append (xs ys : List Event) :
    farewells (xs ++ ys) = farewells xs ++ farewells ys := by
  simp [farewells]

@[simp] theorem farewells_account (host : Host) (a : Attempt) :
    farewells (host.account a) = [] := by
  unfold Host.account Host.notices Attempt.report
  rw [farewells_append]
  cases host.announced? a.action <;> cases a.outcome <;> rfl

@[simp] theorem farewells_opening (message : String) : farewells (opening message) = [] := by
  unfold opening
  cases Command.parse message with
  | timeSync timestamp =>
    simp only [Command.remarks]
    split <;> rfl
  | _ => rfl

@[simp] theorem farewells_request (l : Lifecycle) (reason : String) :
    farewells (l.request reason).2 = [] := by
  unfold Lifecycle.request
  split <;> rfl

@[simp] theorem farewells_poll (l : Lifecycle) : farewells l.poll.2 = [] := by
  unfold Lifecycle.poll
  split <;> rfl

@[simp] theorem farewells_removeEntry (path : Path) (fs : Filesystem) :
    farewells (Listener.removeEntry path fs).2 = [] := by
  unfold Listener.removeEntry
  split
  · rfl
  · dsimp only
    split <;> rfl

@[simp] theorem farewells_bind (fs : Filesystem) (number : Nat) (path : Path) :
    farewells (Listener.bind fs number path).events = [] := by
  refine List.filter_eq_nil_iff.mpr fun e he => ?_
  rcases of_mem_bind he with rfl | rfl <;> exact Bool.false_ne_true

/-- What a daemon says at its end. -/
def farewell : Loop → List Event
  | .returned t => (if t = .listenerClosed then [.endedWithoutTrigger] else []) ++ [.stopped]
  | _ => []

/-- Events that are no farewells leave those there were. -/
theorem farewells_eq {later : List Event} (hjournal : d'.journal = d.journal ++ later)
    (hnone : farewells later = []) : farewells d'.journal = farewells d.journal := by
  rw [hjournal, farewells_append, hnone, List.append_nil]

theorem ReadToEnd.farewells {client : Nat} {m : Message} {c : Connection} {noted : List Event}
    (h : ReadToEnd d client m c noted) : farewells noted = [] := by
  rcases h.noted with rfl | ⟨error, rfl⟩ <;> rfl

/-- The turn at which the daemon returns says so, and no other does. -/
theorem farewells_turn {new : List (Nat × Attempt)} (ht : Turn settings d new d')
    (h : farewells d.journal = farewell d.loop) : farewells d'.journal = farewell d'.loop := by
  cases ht with
  | wait notified hidle => exact h
  | stop e hloop he =>
    rw [hloop] at h
    refine (farewells_eq rfl ?_).trans h
    rcases he with rfl | rfl <;> rfl
  | accept client hloop hnext =>
    rw [hloop] at h
    exact (farewells_eq rfl rfl).trans h
  | chunk hloop hc hchunk hsome =>
    rw [hloop] at h
    exact (farewells_eq rfl rfl).trans h
  | reject hend hover =>
    rw [hend.loop] at h
    refine (farewells_eq (List.append_assoc _ _ _) ?_).trans h
    rw [farewells_append, hend.farewells]
    rfl
  | dispatch hend hfits =>
    rw [hend.loop] at h
    refine (farewells_eq (List.append_assoc _ _ _) ?_).trans h
    rw [farewells_append, hend.farewells, farewells_opening]
    rfl
  | call hloop ha =>
    rw [hloop] at h
    exact (farewells_eq rfl (farewells_account _ _)).trans h
  | leave hloop hordinary =>
    rw [hloop] at h
    exact h
  | terminate hloop hlast =>
    rw [hloop] at h
    refine (farewells_eq rfl ?_).trans h
    rw [farewells_append, farewells_request]
    rfl
  | wrapUp t hloop ht =>
    rw [hloop] at h
    simp only [wrapUp, Listener.close, Lifecycle.finish, farewells_append, h, farewells_removeEntry,
      farewell]
    split <;> rfl

/-- **A run says that it has come to its end when it returns**, once, and with a warning if the
    accept loop ended by itself. -/
theorem farewells_run (settings : Settings) (files : Filesystem) (moves : List Move) :
    farewells (run settings (start settings files) moves).journal =
      farewell (run settings (start settings files) moves).loop := by
  induction moves using List.reverseRecOn with
  | nil =>
    rw [run, List.foldl_nil, (start_fields settings files).2.2.2, farewells_bind]
    rcases start_cases settings files with ⟨l, -, hloop, -⟩ | ⟨failure, -, hloop, -⟩ <;>
      rw [hloop] <;> rfl
  | append_singleton moves m ih =>
    rw [run_snoc]
    rcases step_kinds settings (run settings (start settings files) moves) m with rfl | rfl | ha
    · exact farewells_turn (pollLoop_turn settings _) ih
    · exact (farewells_eq rfl (farewells_poll _)).trans ih
    · rw [ha.unlogged, ha.loop]
      exact ih

end Daemon

end Steward
