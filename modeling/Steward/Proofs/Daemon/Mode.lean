import Steward.Proofs.Daemon.Turn
import Steward.Proofs.Except

/-!
# Where a run stands between its two tasks

The accept loop can end by itself, and the supervisor can stop while the loop is at a client; each
waits for the other before the daemon returns. What the phase, the token, the listener and the
supervisor can be together is a matter of five modes.

* `step_kinds` -- a move is a turn of the accept loop, a look of the supervisor, or `Aside`: that
  changes nothing of the lifecycle but the signal, leaves the listener alone, and logs nothing.
* `Mode` -- the INVARIANT on every state of a run: it serves, it is about to leave because the loop
  has ended, it drains because the supervisor has stopped, it is over, or it never began.
* `mode_run` -- every sequence of moves keeps it.
* `trace` lists what moves leave behind, one after another; `dispatches` are the commands that are
  dispatched, each with the number of its connection.
-/

namespace Steward

namespace Loop

/-- Whether the accept loop has not ended. -/
def serving : Loop → Bool
  | .selecting | .reading .. | .acting .. => true
  | .ended | .returned _ | .refused _ => false

/-- The command that the loop takes up when it goes from one place to another, with the number of
    the connection whose message it read. -/
def dispatched : Loop → Loop → List (Nat × Command)
  | .reading .., .acting client command _ => [(client, command)]
  | _, _ => []

/-- Nothing is dispatched unless the loop goes on. -/
@[simp] theorem dispatched_self (loop : Loop) : dispatched loop loop = [] := by
  cases loop <;> rfl

end Loop

namespace Daemon

/-! ## 1. Traces -/

/-- **What moves leave behind**, one after another, when `mark` tells what a move leaves behind. -/
def trace {α : Type} (settings : Settings) (mark : Daemon → Move → List α) :
    Daemon → List Move → List α
  | _, [] => []
  | d, m :: rest => mark d m ++ trace settings mark (step settings d m) rest

theorem trace_append {α : Type} (settings : Settings) (mark : Daemon → Move → List α) (d : Daemon)
    (xs ys : List Move) :
    trace settings mark d (xs ++ ys) =
      trace settings mark d xs ++ trace settings mark (run settings d xs) ys := by
  induction xs generalizing d with
  | nil => rfl
  | cons m rest ih =>
    simp only [List.cons_append, trace, ih, List.append_assoc]
    rfl

theorem trace_snoc {α : Type} (settings : Settings) (mark : Daemon → Move → List α) (d : Daemon)
    (moves : List Move) (m : Move) :
    trace settings mark d (moves ++ [m]) =
      trace settings mark d moves ++ mark (run settings d moves) m := by
  simp [trace_append, trace]

/-- The command that a move dispatches, with the number of the connection it came from. -/
def dispatchOf (settings : Settings) (d : Daemon) (m : Move) : List (Nat × Command) :=
  Loop.dispatched d.loop (step settings d m).loop

/-- **The commands that some moves dispatch**, each with the number of the connection it came
    from. -/
def dispatches (settings : Settings) : Daemon → List Move → List (Nat × Command) :=
  trace settings (dispatchOf settings)

/-! ## 2. Three kinds of moves -/

/-- **A move beside the two tasks of the daemon**: of the lifecycle it can only change the signal.
    -/
structure Aside (d d' : Daemon) : Prop extends Grows d d' where
  lifecycle : ∃ signal, d'.lifecycle = { d.lifecycle with signal }
  listener : d'.listener = d.listener
  unlogged : d'.journal = d.journal

/-- A move that leaves the lifecycle alone, too. -/
theorem Aside.of_eq {d d' : Daemon} (hgrows : Grows d d') (hlifecycle : d'.lifecycle = d.lifecycle)
    (hlistener : d'.listener = d.listener) (hjournal : d'.journal = d.journal) : Aside d d' where
  toGrows := hgrows
  lifecycle := ⟨d.lifecycle.signal, hlifecycle⟩
  listener := hlistener
  unlogged := hjournal

/-- A client that connects, or is refused, leaves the rest of the daemon alone. -/
theorem connect_keeps (settings : Settings) (d : Daemon) (path : Path) :
    (step settings d (.connect path)).lifecycle = d.lifecycle ∧
      (step settings d (.connect path)).listener = d.listener ∧
      (step settings d (.connect path)).journal = d.journal ∧
      (step settings d (.connect path)).files = d.files := by
  simp only [step, connect]
  split
  · exact ⟨rfl, rfl, rfl, rfl⟩
  · split <;> exact ⟨rfl, rfl, rfl, rfl⟩

/-- A client that reaches the listener has made a connection. -/
theorem step_connect (settings : Settings) {d : Daemon} {path : Path}
    (hdescriptors : d.descriptors = true) (h : d.listener.connect d.files path = .ok ()) :
    step settings d (.connect path) =
      { d with connections := d.connections ++ [.fresh], notified := true } := by
  have hconnect : d.connect path =
      .ok { d with connections := d.connections ++ [.fresh], notified := true } := by
    unfold connect
    rw [hdescriptors, h]
    rfl
  rw [step, hconnect]
  rfl

/-- A client that writes leaves the rest of the daemon alone. -/
theorem write_keeps (settings : Settings) (d : Daemon) (client : Nat) (bytes : List UInt8) :
    (step settings d (.write client bytes)).lifecycle = d.lifecycle ∧
      (step settings d (.write client bytes)).listener = d.listener ∧
      (step settings d (.write client bytes)).journal = d.journal ∧
      (step settings d (.write client bytes)).files = d.files := by
  simp only [step, write]
  split
  · exact ⟨rfl, rfl, rfl, rfl⟩
  split
  · exact ⟨rfl, rfl, rfl, rfl⟩
  · split <;> exact ⟨rfl, rfl, rfl, rfl⟩

theorem aside_connect (settings : Settings) (d : Daemon) (path : Path) :
    Aside d (step settings d (.connect path)) := by
  obtain ⟨hlifecycle, hlistener, hjournal, -⟩ := connect_keeps settings d path
  exact .of_eq (grows_getD fun _ h => connect_grows h) hlifecycle hlistener hjournal

theorem aside_write (settings : Settings) (d : Daemon) (client : Nat) (bytes : List UInt8) :
    Aside d (step settings d (.write client bytes)) := by
  obtain ⟨hlifecycle, hlistener, hjournal, -⟩ := write_keeps settings d client bytes
  exact .of_eq (grows_getD fun _ h => write_grows h) hlifecycle hlistener hjournal

theorem aside_signal (settings : Settings) (d : Daemon) (name : String) :
    Aside d (step settings d (.signal name)) where
  toGrows := .of_eq rfl rfl rfl rfl
  lifecycle := by
    simp only [step, Lifecycle.step]
    split
    · unfold Lifecycle.fire
      split <;> exact ⟨_, rfl⟩
    · exact ⟨d.lifecycle.signal, rfl⟩
  listener := rfl
  unlogged := rfl

/-- **A move is a turn of the accept loop, a look of the supervisor, or beside both.** -/
theorem step_kinds (settings : Settings) (d : Daemon) (m : Move) :
    m = .pollLoop ∨ m = .pollSupervisor ∨ Aside d (step settings d m) := by
  cases m with
  | pollLoop => exact Or.inl rfl
  | pollSupervisor => exact Or.inr (Or.inl rfl)
  | connect path => exact Or.inr (Or.inr (aside_connect settings d path))
  | write client bytes => exact Or.inr (Or.inr (aside_write settings d client bytes))
  | close client how => exact Or.inr (Or.inr (.of_eq (close_grows d client how) rfl rfl rfl))
  | signal name => exact Or.inr (Or.inr (aside_signal settings d name))
  | descriptors available => exact Or.inr (Or.inr (.of_eq (.of_eq rfl rfl rfl rfl) rfl rfl rfl))
  | replace path node => exact Or.inr (Or.inr (.of_eq (.of_eq rfl rfl rfl rfl) rfl rfl rfl))

/-- **What a look of the supervisor does**: one that waits and can stop closes the listener and
    tears down; any other changes nothing. -/
theorem pollSupervisor_cases (d : Daemon) :
    (∃ t, d.lifecycle.supervisor = .waiting ∧ d.lifecycle.verdict = some t ∧
      d.pollSupervisor =
        { d with lifecycle := (d.lifecycle.drain t).1, listener := d.listener.shut }.log
          [.draining t]) ∨
    (d.lifecycle.ready = false ∧ d.pollSupervisor = d) := by
  unfold pollSupervisor Lifecycle.poll Lifecycle.ready
  by_cases hw : d.lifecycle.supervisor = .waiting
  · cases hv : d.lifecycle.verdict with
    | some t =>
      refine Or.inl ⟨t, hw, rfl, ?_⟩
      simp [hw]
      rfl
    | none => exact Or.inr ⟨by simp, by simp [log]⟩
  · refine Or.inr ⟨by simp [hw], ?_⟩
    simp [hw, log]

/-! ## 3. The five modes -/

/-- **Where a run stands between its two tasks.** -/
inductive Mode (d : Daemon) : Prop
  /-- Clients are served, and nothing has stopped that. -/
  | serving (hloop : d.loop.serving = true) (hsupervisor : d.lifecycle.supervisor = .waiting)
      (hphase : d.lifecycle.phase = .running) (hcancelled : d.lifecycle.cancelled = false)
      (hslot : d.lifecycle.slot = none) (hopen : d.listener.isOpen = true)
  /-- The accept loop has ended, and the supervisor has not looked since. -/
  | leaving (hloop : d.loop = .ended) (hsupervisor : d.lifecycle.supervisor = .waiting)
      (hphase : d.lifecycle.phase = .running) (hcancelled : d.lifecycle.cancelled = true)
      (hopen : d.listener.isOpen = true)
  /-- The supervisor has stopped, be the accept loop at its last client or at its end. -/
  | draining (t : Trigger) (hloop : d.loop.serving = true ∨ d.loop = .ended)
      (hsupervisor : d.lifecycle.supervisor = .stopped t)
      (hphase : d.lifecycle.phase = .draining) (hcancelled : d.lifecycle.cancelled = true)
      (hshut : d.listener.isOpen = false)
  /-- The daemon has returned. -/
  | returned (t : Trigger) (hloop : d.loop = .returned t)
      (hsupervisor : d.lifecycle.supervisor = .stopped t)
      (hphase : d.lifecycle.phase = .terminated) (hcancelled : d.lifecycle.cancelled = true)
      (hshut : d.listener.isOpen = false)
  /-- The daemon could not listen. -/
  | refused (failure : Failure) (hloop : d.loop = .refused failure)
      (hsupervisor : d.lifecycle.supervisor = .dropped true)
      (hphase : d.lifecycle.phase = .running) (hshut : d.listener.isOpen = false)

/-- What the modes speak of stays as it is, but for the place at which the loop serves. -/
theorem Mode.go {d d' : Daemon} (h : Mode d)
    (hloop : d'.loop = d.loop ∨ (d.loop.serving = true ∧ d'.loop.serving = true))
    (hlifecycle : ∃ signal, d'.lifecycle = { d.lifecycle with signal })
    (hlistener : d'.listener = d.listener) : Mode d' := by
  obtain ⟨signal, hlifecycle⟩ := hlifecycle
  have hsupervisor' : d'.lifecycle.supervisor = d.lifecycle.supervisor := by rw [hlifecycle]
  have hphase' : d'.lifecycle.phase = d.lifecycle.phase := by rw [hlifecycle]
  have hcancelled' : d'.lifecycle.cancelled = d.lifecycle.cancelled := by rw [hlifecycle]
  have hslot' : d'.lifecycle.slot = d.lifecycle.slot := by rw [hlifecycle]
  have hopen' : d'.listener.isOpen = d.listener.isOpen := by rw [hlistener]
  have hserving : d.loop.serving = true → d'.loop.serving = true := by
    rcases hloop with heq | ⟨-, hserving⟩
    · rw [heq]
      exact id
    · exact fun _ => hserving
  -- a loop that has ended goes nowhere
  have hstays : d.loop.serving = false → d'.loop = d.loop := by
    rcases hloop with heq | ⟨hserving, -⟩
    · exact fun _ => heq
    · intro hended
      rw [hended] at hserving
      cases hserving
  cases h with
  | serving hplace hsupervisor hphase hcancelled hslot hopen =>
    exact .serving (hserving hplace) (hsupervisor'.trans hsupervisor) (hphase'.trans hphase)
      (hcancelled'.trans hcancelled) (hslot'.trans hslot) (hopen'.trans hopen)
  | leaving hplace hsupervisor hphase hcancelled hopen =>
    exact .leaving ((hstays (by rw [hplace]; rfl)).trans hplace) (hsupervisor'.trans hsupervisor)
      (hphase'.trans hphase) (hcancelled'.trans hcancelled) (hopen'.trans hopen)
  | draining t hplace hsupervisor hphase hcancelled hshut =>
    refine .draining t (hplace.imp hserving fun hended => ?_) (hsupervisor'.trans hsupervisor)
      (hphase'.trans hphase) (hcancelled'.trans hcancelled) (hopen'.trans hshut)
    exact (hstays (by rw [hended]; rfl)).trans hended
  | returned t hplace hsupervisor hphase hcancelled hshut =>
    exact .returned t ((hstays (by rw [hplace]; rfl)).trans hplace) (hsupervisor'.trans hsupervisor)
      (hphase'.trans hphase) (hcancelled'.trans hcancelled) (hopen'.trans hshut)
  | refused failure hplace hsupervisor hphase hshut =>
    exact .refused failure ((hstays (by rw [hplace]; rfl)).trans hplace)
      (hsupervisor'.trans hsupervisor) (hphase'.trans hphase) (hopen'.trans hshut)

/-- The loop ends, and tells the supervisor. -/
theorem Mode.endLoop {d d' : Daemon} (h : Mode d)
    (hsupervisor' : d'.lifecycle.supervisor = d.lifecycle.supervisor)
    (hphase' : d'.lifecycle.phase = d.lifecycle.phase) (hlistener : d'.listener = d.listener)
    (hloop : d.loop.serving = true) : Mode d'.endLoop := by
  cases h with
  | serving _ hsupervisor hphase _ _ hopen =>
    exact .leaving rfl (hsupervisor'.trans hsupervisor) (hphase'.trans hphase) rfl
      ((congrArg Listener.isOpen hlistener).trans hopen)
  | draining t _ hsupervisor hphase _ hshut =>
    exact .draining t (Or.inr rfl) (hsupervisor'.trans hsupervisor) (hphase'.trans hphase) rfl
      ((congrArg Listener.isOpen hlistener).trans hshut)
  | leaving hended => rw [hended] at hloop; cases hloop
  | returned t hended => rw [hended] at hloop; cases hloop
  | refused failure hended => rw [hended] at hloop; cases hloop

/-- The daemon returns only when the supervisor has stopped. -/
theorem Mode.wrapUp {d : Daemon} {t : Trigger} (h : Mode d) (hloop : d.loop = .ended)
    (ht : d.lifecycle.trigger? = some t) : Mode (d.wrapUp t) := by
  cases h with
  | draining t' _ hsupervisor _ hcancelled hshut =>
    rw [Lifecycle.trigger?_eq_some_iff, hsupervisor] at ht
    cases ht
    exact .returned _ rfl hsupervisor rfl hcancelled rfl
  | leaving _ hsupervisor =>
    rw [Lifecycle.trigger?_eq_some_iff, hsupervisor] at ht
    cases ht
  | serving hserving => rw [hloop] at hserving; cases hserving
  | returned t' hended => rw [hloop] at hended; cases hended
  | refused failure hended => rw [hloop] at hended; cases hended

/-- **Every turn of the accept loop leads from mode to mode.** -/
theorem mode_turn {settings : Settings} {d d' : Daemon} {new : List (Nat × Attempt)} (h : Mode d)
    (ht : Turn settings d new d') : Mode d' := by
  have hlifecycle : ∃ signal, d.lifecycle = { d.lifecycle with signal } :=
    ⟨d.lifecycle.signal, rfl⟩
  cases ht with
  | wait notified hidle => exact h.go (Or.inl rfl) hlifecycle rfl
  | stop e hloop he => exact h.endLoop rfl rfl rfl (by rw [hloop]; rfl)
  | accept client hloop hnext => exact h.go (Or.inr ⟨by rw [hloop]; rfl, rfl⟩) hlifecycle rfl
  | chunk hloop hc hchunk hsome => exact h.go (Or.inr ⟨by rw [hloop]; rfl, rfl⟩) hlifecycle rfl
  | reject hend hover => exact h.go (Or.inr ⟨by rw [hend.loop]; rfl, rfl⟩) hlifecycle rfl
  | dispatch hend hfits => exact h.go (Or.inr ⟨by rw [hend.loop]; rfl, rfl⟩) hlifecycle rfl
  | call hloop ha => exact h.go (Or.inr ⟨by rw [hloop]; rfl, rfl⟩) hlifecycle rfl
  | leave hloop hordinary => exact h.go (Or.inr ⟨by rw [hloop]; rfl, rfl⟩) hlifecycle rfl
  | terminate hloop hlast =>
    exact h.endLoop (Lifecycle.request_supervisor _ _) (Lifecycle.request_phase _ _) rfl
      (by rw [hloop]; rfl)
  | wrapUp t hloop ht => exact h.wrapUp hloop ht

theorem mode_aside {d d' : Daemon} (h : Mode d) (ha : Aside d d') : Mode d' :=
  h.go (Or.inl ha.loop) ha.lifecycle ha.listener

/-- A supervisor that stops closes the listener, whether or not the loop has ended. -/
theorem mode_pollSupervisor {d : Daemon} (h : Mode d) : Mode d.pollSupervisor := by
  rcases pollSupervisor_cases d with ⟨t, hw, -, hstop⟩ | ⟨-, hsame⟩
  · rw [hstop]
    cases h with
    | serving hloop => exact .draining t (Or.inl hloop) rfl rfl rfl rfl
    | leaving hloop => exact .draining t (Or.inr hloop) rfl rfl rfl rfl
    | draining t' _ hsupervisor => rw [hw] at hsupervisor; cases hsupervisor
    | returned t' _ hsupervisor => rw [hw] at hsupervisor; cases hsupervisor
    | refused failure _ hsupervisor => rw [hw] at hsupervisor; cases hsupervisor
  · rw [hsame]
    exact h

theorem mode_step (settings : Settings) {d : Daemon} (h : Mode d) (m : Move) :
    Mode (step settings d m) := by
  rcases step_kinds settings d m with rfl | rfl | ha
  · exact mode_turn h (pollLoop_turn settings d)
  · exact mode_pollSupervisor h
  · exact mode_aside h ha

/-- A listener that could be bound is open. -/
theorem eq_of_bind_ok {files : Filesystem} {number : Nat} {path : Path} {l : Listener}
    (h : (Listener.bind files number path).result = .ok l) : l = ⟨path, number, true⟩ := by
  have hfree : ∀ (fs : Filesystem) (events : List Event),
      (Listener.bindFree fs number path events).result = .ok l → l = ⟨path, number, true⟩ := by
    intro fs events hb
    unfold Listener.bindFree at hb
    split at hb
    · cases hb
    · exact (Except.ok.inj hb).symm
  unfold Listener.bind at h
  split at h
  · exact hfree _ _ h
  split at h
  · exact hfree _ _ h
  · cases h

/-- **A daemon that could listen starts to serve; any other is refused.** -/
theorem start_cases (settings : Settings) (files : Filesystem) :
    (∃ listener, (Listener.bind files socketNumber settings.path).result = .ok listener ∧
      (start settings files).loop = .selecting ∧
      (start settings files).lifecycle = startedLifecycle ∧
      (start settings files).listener = ⟨settings.path, socketNumber, true⟩) ∨
    (∃ failure, (Listener.bind files socketNumber settings.path).result = .error failure ∧
      (start settings files).loop = .refused failure ∧
      (start settings files).lifecycle = refusedLifecycle ∧
      (start settings files).listener = ⟨settings.path, socketNumber, false⟩) := by
  unfold start
  dsimp only
  split
  · rename_i listener hbound
    exact Or.inl ⟨listener, hbound, rfl, rfl, eq_of_bind_ok hbound⟩
  · rename_i failure hbound
    exact Or.inr ⟨failure, hbound, rfl, rfl, rfl⟩

/-- Before the first move there is no connection and no call, and what is done is what binding did.
    -/
theorem start_fields (settings : Settings) (files : Filesystem) :
    (start settings files).connections = [] ∧ (start settings files).attempts = [] ∧
      (start settings files).files = (Listener.bind files socketNumber settings.path).files ∧
      (start settings files).journal = (Listener.bind files socketNumber settings.path).events := by
  unfold start
  dsimp only
  split <;> exact ⟨rfl, rfl, rfl, rfl⟩

/-- What a daemon that could listen starts from. -/
theorem start_of_bound {settings : Settings} {files made : Filesystem} {listener : Listener}
    {events : List Event}
    (h : Listener.bind files socketNumber settings.path = ⟨.ok listener, made, events⟩) :
    start settings files =
      { files := made, listener, notified := false, descriptors := true, connections := []
        lifecycle := startedLifecycle, loop := .selecting, attempts := [], journal := events } := by
  unfold start
  rw [h]

theorem mode_start (settings : Settings) (files : Filesystem) : Mode (start settings files) := by
  rcases start_cases settings files with ⟨l, -, hloop, hlifecycle, hlistener⟩ |
    ⟨failure, -, hloop, hlifecycle, hlistener⟩
  · exact .serving (by rw [hloop]; rfl) (by rw [hlifecycle]; rfl) (by rw [hlifecycle]; rfl)
      (by rw [hlifecycle]; rfl) (by rw [hlifecycle]; rfl) (by rw [hlistener])
  · exact .refused failure hloop (by rw [hlifecycle]; rfl) (by rw [hlifecycle]; rfl)
      (by rw [hlistener])

/-- **Every state that moves lead to is in one of the modes.** -/
theorem mode_run (settings : Settings) (files : Filesystem) (moves : List Move) :
    Mode (run settings (start settings files) moves) := by
  induction moves using List.reverseRecOn with
  | nil => exact mode_start settings files
  | append_singleton moves m ih =>
    rw [run_snoc]
    exact mode_step settings ih m

/-! ## 4. What the token and the listener decide -/

/-- The accept loop looks at the token first. -/
theorem pollLoop_of_cancelled (settings : Settings) {d : Daemon} (hloop : d.loop = .selecting)
    (hcancelled : d.lifecycle.cancelled = true) :
    pollLoop settings d = (d.log [.listenerClosed]).endLoop := by
  unfold pollLoop
  rw [hloop]
  show d.select = _
  unfold select
  rw [if_pos hcancelled]

/-- A loop that has ended returns what the supervisor stopped with. -/
theorem loop_of_ended (settings : Settings) {d : Daemon} {t : Trigger} (hloop : d.loop = .ended)
    (ht : d.lifecycle.trigger? = some t) : (pollLoop settings d).loop = .returned t := by
  unfold pollLoop
  rw [hloop]
  simp only [ht]
  rfl

/-- **Nobody connects to a listener that was shut.** Whoever has a descriptor for it and finds a
    socket is refused there. -/
theorem refuses {d : Daemon} (hshut : d.listener.isOpen = false) (path : Path) :
    ∃ e, d.connect path = .error e ∧
      (d.descriptors = true → ∀ number, d.files.connect path = .ok number →
        e = .connectionRefused) := by
  unfold connect
  by_cases hdescriptors : d.descriptors = true
  · rw [hdescriptors]
    unfold Listener.connect
    cases hfound : d.files.connect path with
    | error e => exact ⟨e, rfl, nofun⟩
    | ok number =>
      refine ⟨.connectionRefused, ?_, fun _ _ _ => rfl⟩
      simp [hshut]
  · have hnone : d.descriptors = false := Bool.eq_false_iff.mpr hdescriptors
    rw [hnone]
    exact ⟨.tooManyFiles, rfl, nofun⟩

/-! ## 5. What stays -/

@[simp] theorem run_cons (settings : Settings) (d : Daemon) (m : Move) (moves : List Move) :
    run settings d (m :: moves) = run settings (step settings d m) moves := rfl

/-- What every move keeps, every run keeps. -/
theorem keeps_run {settings : Settings} {P : Daemon → Prop}
    (hstep : ∀ d m, P d → P (step settings d m)) {d : Daemon} (h : P d) (moves : List Move) :
    P (run settings d moves) := by
  induction moves generalizing d with
  | nil => exact h
  | cons m rest ih => exact ih (hstep d m h)

/-- A look of a supervisor that does not wait changes nothing. -/
theorem pollSupervisor_of_ne {d : Daemon} (h : d.lifecycle.supervisor ≠ .waiting) :
    d.pollSupervisor = d := by
  rcases pollSupervisor_cases d with ⟨t, hw, -⟩ | ⟨-, hsame⟩
  · exact absurd hw h
  · exact hsame

/-- A look after which the supervisor still waits changes nothing. -/
theorem pollSupervisor_of_waiting {d : Daemon}
    (h : d.pollSupervisor.lifecycle.supervisor = .waiting) : d.pollSupervisor = d := by
  rcases pollSupervisor_cases d with ⟨t, -, -, hstop⟩ | ⟨-, hsame⟩
  · rw [hstop] at h
    cases h
  · exact hsame

theorem supervisor_turn {settings : Settings} {d d' : Daemon} {new : List (Nat × Attempt)}
    (ht : Turn settings d new d') : d'.lifecycle.supervisor = d.lifecycle.supervisor := by
  cases ht with
  | terminate hloop hlast => exact Lifecycle.request_supervisor _ _
  | _ => rfl

/-- A supervisor that has stopped stays so, with its trigger. -/
theorem stopped_step (settings : Settings) {t : Trigger} (d : Daemon) (m : Move)
    (h : d.lifecycle.supervisor = .stopped t) :
    (step settings d m).lifecycle.supervisor = .stopped t := by
  rcases step_kinds settings d m with rfl | rfl | ha
  · exact (supervisor_turn (pollLoop_turn settings d)).trans h
  · have hsame : step settings d .pollSupervisor = d :=
      pollSupervisor_of_ne (by rw [h]; exact nofun)
    rw [hsame]
    exact h
  · obtain ⟨signal, hlifecycle⟩ := ha.lifecycle
    rw [hlifecycle]
    exact h

theorem cancelled_turn {settings : Settings} {d d' : Daemon} {new : List (Nat × Attempt)}
    (ht : Turn settings d new d') (h : d.lifecycle.cancelled = true) :
    d'.lifecycle.cancelled = true := by
  cases ht with
  | stop e hloop he => rfl
  | terminate hloop hlast => rfl
  | _ => exact h

/-- A token that is cancelled stays so. -/
theorem cancelled_step (settings : Settings) (d : Daemon) (m : Move)
    (h : d.lifecycle.cancelled = true) : (step settings d m).lifecycle.cancelled = true := by
  rcases step_kinds settings d m with rfl | rfl | ha
  · exact cancelled_turn (pollLoop_turn settings d) h
  · have hstep : step settings d .pollSupervisor = d.pollSupervisor := rfl
    rw [hstep]
    rcases pollSupervisor_cases d with ⟨t, -, -, hstop⟩ | ⟨-, hsame⟩
    · rw [hstop]
      rfl
    · rw [hsame]
      exact h
  · obtain ⟨signal, hlifecycle⟩ := ha.lifecycle
    rw [hlifecycle]
    exact h

/-- A daemon that is over takes no turn any more. -/
theorem turn_of_over {settings : Settings} {d d' : Daemon} {new : List (Nat × Attempt)}
    (ht : Turn settings d new d') (h : d.outcome?.isSome = true) :
    ∃ notified, d' = { d with notified } := by
  have hplace : ∀ {loop : Loop}, d.loop = loop → outcome? { d with loop } = d.outcome? := by
    rintro loop rfl
    rfl
  cases ht with
  | wait notified hidle => exact ⟨notified, rfl⟩
  | stop e hloop he => rw [← hplace hloop] at h; cases h
  | accept client hloop hnext => rw [← hplace hloop] at h; cases h
  | chunk hloop hc hchunk hsome => rw [← hplace hloop] at h; cases h
  | reject hend hover => rw [← hplace hend.loop] at h; cases h
  | dispatch hend hfits => rw [← hplace hend.loop] at h; cases h
  | call hloop ha => rw [← hplace hloop] at h; cases h
  | leave hloop hordinary => rw [← hplace hloop] at h; cases h
  | terminate hloop hlast => rw [← hplace hloop] at h; cases h
  | wrapUp t hloop ht => rw [← hplace hloop] at h; cases h

/-- A daemon that is over stays so. -/
theorem over_step (settings : Settings) (d : Daemon) (m : Move) (h : d.outcome?.isSome = true) :
    (step settings d m).loop = d.loop := by
  rcases step_cases settings d m with ht | ⟨-, hg⟩
  · obtain ⟨notified, hsame⟩ := turn_of_over ht h
    rw [hsame]
  · exact hg.loop

/-- A daemon that has returned stays so. -/
theorem returned_step (settings : Settings) {t : Trigger} (d : Daemon) (m : Move)
    (h : d.loop = .returned t) : (step settings d m).loop = .returned t := by
  have hover : d.outcome?.isSome = true := by
    unfold outcome?
    rw [h]
    rfl
  exact (over_step settings d m hover).trans h

theorem listener_turn {settings : Settings} {d d' : Daemon} {new : List (Nat × Attempt)}
    (ht : Turn settings d new d') :
    d'.listener.path = d.listener.path ∧ d'.listener.number = d.listener.number := by
  cases ht <;> exact ⟨rfl, rfl⟩

/-- The listener keeps its path and its number. -/
theorem listener_step (settings : Settings) {path : Path} {number : Nat} (d : Daemon) (m : Move)
    (h : d.listener.path = path ∧ d.listener.number = number) :
    (step settings d m).listener.path = path ∧ (step settings d m).listener.number = number := by
  rcases step_kinds settings d m with rfl | rfl | ha
  · obtain ⟨hpath, hnumber⟩ := listener_turn (pollLoop_turn settings d)
    exact ⟨hpath.trans h.1, hnumber.trans h.2⟩
  · have hstep : step settings d .pollSupervisor = d.pollSupervisor := rfl
    rw [hstep]
    rcases pollSupervisor_cases d with ⟨t, -, -, hstop⟩ | ⟨-, hsame⟩
    · rw [hstop]
      exact h
    · rw [hsame]
      exact h
  · rw [ha.listener]
    exact h

theorem listener_run (settings : Settings) (files : Filesystem) (moves : List Move) :
    (run settings (start settings files) moves).listener.path = settings.path ∧
      (run settings (start settings files) moves).listener.number = socketNumber := by
  refine keeps_run (listener_step settings) ?_ moves
  rcases start_cases settings files with ⟨l, -, -, -, hlistener⟩ | ⟨failure, -, -, -, hlistener⟩
  · rw [hlistener]
    exact ⟨rfl, rfl⟩
  · rw [hlistener]
    exact ⟨rfl, rfl⟩

/-- The phase has left the first one exactly when the supervisor has stopped. -/
theorem Mode.phase_ne_running_iff {d : Daemon} (h : Mode d) :
    d.lifecycle.phase ≠ .running ↔ ∃ t, d.lifecycle.supervisor = .stopped t := by
  cases h with
  | serving _ hsupervisor hphase => simp [hsupervisor, hphase]
  | leaving _ hsupervisor hphase => simp [hsupervisor, hphase]
  | draining t _ hsupervisor hphase => simp [hsupervisor, hphase]
  | returned t _ hsupervisor hphase => simp [hsupervisor, hphase]
  | refused failure _ hsupervisor hphase => simp [hsupervisor, hphase]

/-- Once the supervisor has stopped, the listener refuses connections and the token is cancelled. -/
theorem Mode.of_stopped {d : Daemon} {t : Trigger} (h : Mode d)
    (hstopped : d.lifecycle.supervisor = .stopped t) :
    d.listener.isOpen = false ∧ d.lifecycle.cancelled = true := by
  cases h with
  | serving _ hsupervisor => rw [hstopped] at hsupervisor; cases hsupervisor
  | leaving _ hsupervisor => rw [hstopped] at hsupervisor; cases hsupervisor
  | draining t' _ _ _ hcancelled hshut => exact ⟨hshut, hcancelled⟩
  | returned t' _ _ _ hcancelled hshut => exact ⟨hshut, hcancelled⟩
  | refused failure _ hsupervisor => rw [hstopped] at hsupervisor; cases hsupervisor

/-- **While the supervisor waits**, either clients are served and nothing has stopped that, or the
    loop has ended. -/
theorem Mode.of_waiting {d : Daemon} (h : Mode d) (hw : d.lifecycle.supervisor = .waiting) :
    d.lifecycle.phase = .running ∧
      ((d.loop.serving = true ∧ d.lifecycle.cancelled = false ∧ d.lifecycle.slot = none) ∨
        (d.loop = .ended ∧ d.lifecycle.cancelled = true)) := by
  cases h with
  | serving hloop _ hphase hcancelled hslot => exact ⟨hphase, Or.inl ⟨hloop, hcancelled, hslot⟩⟩
  | leaving hloop _ hphase hcancelled => exact ⟨hphase, Or.inr ⟨hloop, hcancelled⟩⟩
  | draining t _ hsupervisor => rw [hw] at hsupervisor; cases hsupervisor
  | returned t _ hsupervisor => rw [hw] at hsupervisor; cases hsupervisor
  | refused failure _ hsupervisor => rw [hw] at hsupervisor; cases hsupervisor

/-- A daemon that has returned did so with the trigger of its supervisor. -/
theorem Mode.of_returned {d : Daemon} {t : Trigger} (h : Mode d) (hloop : d.loop = .returned t) :
    d.lifecycle.supervisor = .stopped t ∧ d.lifecycle.phase = .terminated ∧
      d.lifecycle.cancelled = true := by
  cases h with
  | returned t' hplace hsupervisor hphase hcancelled =>
    rw [hloop] at hplace
    cases hplace
    exact ⟨hsupervisor, hphase, hcancelled⟩
  | serving hplace => rw [hloop] at hplace; cases hplace
  | leaving hplace => rw [hloop] at hplace; cases hplace
  | draining t' hplace =>
    rcases hplace with hplace | hplace <;> rw [hloop] at hplace <;> cases hplace
  | refused failure hplace => rw [hloop] at hplace; cases hplace

/-- The supervisor of a daemon that is over waits for nothing any more. -/
theorem Mode.not_waiting {d : Daemon} (h : Mode d) (hover : d.outcome?.isSome = true) :
    d.lifecycle.supervisor ≠ .waiting := by
  intro hw
  have hgoing : d.outcome? = none := by
    unfold outcome?
    rcases (h.of_waiting hw).2 with ⟨hserving, -⟩ | ⟨hended, -⟩
    · cases hloop : d.loop <;> rw [hloop] at hserving <;> first | rfl | cases hserving
    · rw [hended]
  rw [hgoing] at hover
  cases hover

end Daemon

end Steward
