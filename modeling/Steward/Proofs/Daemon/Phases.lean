import Steward.Proofs.Daemon.Mode
import Steward.Proofs.Lifecycle.Phases

/-!
# The phases of a run

A lifecycle goes back to the teardown only where the end was published before the supervisor had
returned. The daemon joins its supervisor before it publishes the end, so in a run the phases come in
order.

* `Led` -- a lifecycle to which steps lead that keep to that order; `led_run` says that the lifecycle
  of every run is one.
* `phases_in_order` -- what the phase is and what moves it, after any steps, and that a run takes no
  others than those that keep to the order.
-/

namespace Steward

namespace Lifecycle

/-- **A lifecycle to which steps lead** that publish the end only after the supervisor has returned,
    and that leave the one handle as it is. -/
def Led (l : Lifecycle) : Prop :=
  ∃ steps, l = initial.run steps ∧ FinishedLast steps ∧ handlesAfter 1 steps = 1

/-- One step more leads on, if it publishes no end too early. -/
theorem Led.step {l : Lifecycle} (h : Led l) {s : Step} (hhandles : s.handlesAfter 1 = 1)
    (hfinish : s = .finish → l.trigger?.isSome = true) : Led (l.step s).2.1 := by
  obtain ⟨steps, rfl, hlast, hone⟩ := h
  refine ⟨steps ++ [s], (run_snoc initial steps s).symm, ?_, ?_⟩
  · exact hlast.snoc fun hs => exists_completes (hfinish hs)
  · rw [handlesAfter_snoc, hone, hhandles]

/-- The handle can be used. -/
theorem Led.handles {l : Lifecycle} (h : Led l) : l.handles = 1 := by
  obtain ⟨steps, rfl, -, hone⟩ := h
  rw [(reflects_run steps).handles, hone]

theorem Led.request {l : Lifecycle} (h : Led l) (reason : String) : Led (l.request reason).1 := by
  have hstep : (l.step (.request reason 0)).2.1 = (l.request reason).1 := by
    simp [Lifecycle.step, h.handles]
  rw [← hstep]
  exact h.step rfl fun hs => by cases hs

end Lifecycle

namespace Daemon

open Lifecycle (Led)

/-- A turn of the accept loop publishes the end only behind the supervisor. -/
theorem led_turn {settings : Settings} {d d' : Daemon} {new : List (Nat × Attempt)}
    (h : Led d.lifecycle) (ht : Turn settings d new d') : Led d'.lifecycle := by
  cases ht with
  | stop e hloop he => exact h.step (s := .listenerClosed) rfl nofun
  | terminate hloop hlast => exact (h.request _).step (s := .listenerClosed) rfl nofun
  | wrapUp t hloop ht => exact h.step (s := .finish) rfl fun _ => by rw [ht]; rfl
  | _ => exact h

theorem led_step (settings : Settings) (d : Daemon) (m : Move) (h : Led d.lifecycle) :
    Led (step settings d m).lifecycle := by
  cases m with
  | pollLoop => exact led_turn h (pollLoop_turn settings d)
  | pollSupervisor =>
    show Led d.pollSupervisor.lifecycle
    rcases pollSupervisor_cases d with ⟨t, hw, hv, hstop⟩ | ⟨-, hsame⟩
    · have hpoll : (d.lifecycle.step .poll).2.1 = (d.lifecycle.drain t).1 := by
        simp [Lifecycle.step, Lifecycle.poll, hw, hv]
      rw [hstop]
      show Led (d.lifecycle.drain t).1
      rw [← hpoll]
      exact h.step rfl fun hs => by cases hs
    · rwa [hsame]
  | signal name => exact h.step (s := .external name) rfl fun hs => by cases hs
  | connect path => rwa [(connect_keeps settings d path).1]
  | write client bytes => rwa [(write_keeps settings d client bytes).1]
  | close client how => exact h
  | descriptors available => exact h
  | replace path node => exact h

/-- **The lifecycle of a run is one to which steps lead** that publish the end only after the
    supervisor has returned. -/
theorem led_run (settings : Settings) (files : Filesystem) (moves : List Move) :
    Led (run settings (start settings files) moves).lifecycle := by
  have hbegin : Led Lifecycle.initial := by
    refine ⟨[], rfl, fun before after h => ?_, rfl⟩
    simp at h
  have hstarted : Led startedLifecycle := hbegin.step (s := .start) rfl nofun
  refine keeps_run (led_step settings) ?_ moves
  rcases start_cases settings files with ⟨l, -, -, hlifecycle, -⟩ |
    ⟨failure, -, -, hlifecycle, -⟩
  · rwa [hlifecycle]
  · rw [hlifecycle]
    exact hstarted.step (s := .dropSupervisor) rfl nofun

/-- **Phases never go back in the order the daemon keeps to.** After any steps of a lifecycle, the
    phase tells what happened last, nothing but the supervisor's return and the end moves it, and it
    goes back only where the end was published before the supervisor had returned; and a run of the
    daemon, whatever is done in it, publishes the end only after that. -/
theorem phases_in_order :
    (∀ steps, Lifecycle.Phased steps (Lifecycle.initial.run steps)) ∧
    ∀ settings files moves, ∃ steps,
      (run settings (start settings files) moves).lifecycle = Lifecycle.initial.run steps ∧
        Lifecycle.FinishedLast steps := by
  refine ⟨Lifecycle.phased_run, fun settings files moves => ?_⟩
  obtain ⟨steps, hsteps, hlast, -⟩ := led_run settings files moves
  exact ⟨steps, hsteps, hlast⟩

/-- An end that is published too early does not last. -/
example :
    (Lifecycle.initial.run [.finish]).phase = .terminated ∧
      (Lifecycle.initial.run [.finish, .listenerClosed, .start, .poll]).phase = .draining := by
  decide

end Daemon

end Steward
