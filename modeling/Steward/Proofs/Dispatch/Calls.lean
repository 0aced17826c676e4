import Steward.Dispatch

/-!
# Which calls a command makes

A command's actions are done one after another until one fails, so the calls it makes are the first
few of its agenda.

* `carryOut_prefix` -- the calls are a first part of the agenda.
* `attempted_iff` -- a call that is not the second half of a time sync is made exactly when it is on
  the agenda.
* `persisted_iff` -- the second half of a time sync is made exactly when the first one was done.
* `Paired`, `paired_carryOut` -- the hardware clock is set directly behind a system clock that was
  set, and never otherwise.
-/

namespace Steward

theorem Attempt.succeeded_iff (a : Attempt) : a.succeeded = true ↔ a.outcome = .ok () := by
  unfold succeeded
  cases a.outcome with
  | ok u => exact iff_of_true rfl rfl
  | error e => exact iff_of_false nofun nofun

namespace Host

@[simp] theorem carryOut_nil (host : Host) (earlier : List Attempt) :
    host.carryOut earlier [] = [] := rfl

@[simp] theorem carryOut_singleton (host : Host) (earlier : List Attempt) (action : Action) :
    host.carryOut earlier [action] = [host.attempt earlier action] := by
  simp [carryOut]

@[simp] theorem attempt_action (host : Host) (earlier : List Attempt) (action : Action) :
    (host.attempt earlier action).action = action := rfl

/-- The first call, and the agenda that is left behind it. -/
theorem carryOut_cons (host : Host) (earlier : List Attempt) (action : Action)
    (rest : List Action) :
    let a := host.attempt earlier action
    host.carryOut earlier (action :: rest) =
      a :: host.carryOut (earlier ++ [a]) (if a.succeeded then rest else []) := by
  intro a
  rw [carryOut]
  by_cases h : a.succeeded = true
  · simp only [a, if_pos h]
  · simp only [a, if_neg h, carryOut_nil]

/-- **The calls are a first part of the agenda.** -/
theorem carryOut_prefix (host : Host) (earlier : List Attempt) (agenda : List Action) :
    (host.carryOut earlier agenda).map (·.action) <+: agenda := by
  induction agenda generalizing earlier with
  | nil => exact List.prefix_rfl
  | cons action rest ih =>
    rw [carryOut_cons, List.map_cons, attempt_action]
    refine List.cons_prefix_cons.mpr ⟨rfl, ?_⟩
    split
    · exact ih _
    · exact List.nil_prefix

/-- Each of them is an attempt at an action of the agenda. -/
theorem exists_attempt (host : Host) {earlier : List Attempt} {agenda : List Action} {a : Attempt}
    (h : a ∈ host.carryOut earlier agenda) :
    ∃ before, ∃ action ∈ agenda, a = host.attempt before action := by
  induction agenda generalizing earlier with
  | nil => exact absurd h List.not_mem_nil
  | cons action agenda ih =>
    rw [carryOut_cons] at h
    rcases List.mem_cons.mp h with rfl | hrest
    · exact ⟨earlier, action, List.mem_cons_self, rfl⟩
    · split at hrest
      · obtain ⟨before, later, hlater, ha⟩ := ih hrest
        exact ⟨before, later, List.mem_cons_of_mem action hlater, ha⟩
      · exact absurd hrest List.not_mem_nil

end Host

/-- **The calls of one message**: none at all, one, or the two of a time sync. The hardware clock is
    set directly behind a system clock that was set, and never otherwise. -/
inductive Paired : List Attempt → Prop
  | none : Paired []
  | one {a : Attempt} (halone : a.action ≠ .persistHardwareClock)
      (hfailed : ∀ timestamp, a.action = .setSystemClock timestamp → a.succeeded = false) :
      Paired [a]
  | two {a b : Attempt} {timestamp : String} (hset : a.action = .setSystemClock timestamp)
      (hdone : a.succeeded = true) (hpersist : b.action = .persistHardwareClock) : Paired [a, b]

/-- The agenda of a command is nothing, one action, or the two of a time sync. -/
theorem agenda_cases (c : Command) :
    c.agenda = [] ∨
    (∃ action, c.agenda = [action] ∧ action ≠ .persistHardwareClock ∧
      ∀ timestamp, action ≠ .setSystemClock timestamp) ∨
    ∃ timestamp, c.agenda = [.setSystemClock timestamp, .persistHardwareClock] := by
  cases c with
  | shutdown => exact Or.inr (Or.inl ⟨_, rfl, nofun, nofun⟩)
  | reboot => exact Or.inr (Or.inl ⟨_, rfl, nofun, nofun⟩)
  | serviceRestart => exact Or.inr (Or.inl ⟨_, rfl, nofun, nofun⟩)
  | servicePull => exact Or.inr (Or.inl ⟨_, rfl, nofun, nofun⟩)
  | timeSync timestamp =>
    simp only [Command.agenda]
    split
    · exact Or.inl rfl
    · exact Or.inr (Or.inr ⟨timestamp, rfl⟩)
  | unrecognized raw => exact Or.inl rfl

theorem paired_carryOut (host : Host) (earlier : List Attempt) (c : Command) :
    Paired (host.carryOut earlier c.agenda) := by
  rcases agenda_cases c with h | ⟨action, h, halone, hclock⟩ | ⟨timestamp, h⟩
  · rw [h]
    exact .none
  · rw [h, Host.carryOut_singleton]
    exact .one halone fun timestamp ha => absurd ha (hclock timestamp)
  · rw [h, Host.carryOut_cons]
    split
    · rename_i hdone
      rw [Host.carryOut_singleton]
      exact .two rfl hdone rfl
    · rename_i hfailed
      exact .one (fun ha => by cases ha) fun _ _ => Bool.eq_false_iff.mpr hfailed

/-- **A call that is not the second half of a time sync is made exactly when it is on the agenda**,
    for it is the first on it. -/
theorem attempted_iff (host : Host) (earlier : List Attempt) (c : Command) {action : Action}
    (h : action ≠ .persistHardwareClock) :
    (∃ a ∈ host.carryOut earlier c.agenda, a.action = action) ↔ action ∈ c.agenda := by
  constructor
  · rintro ⟨a, ha, rfl⟩
    exact (Host.carryOut_prefix host earlier c.agenda).subset (List.mem_map_of_mem ha)
  · intro hmem
    rcases agenda_cases c with hc | ⟨only, hc, -, -⟩ | ⟨timestamp, hc⟩
    · rw [hc] at hmem
      cases hmem
    · rw [hc, List.mem_singleton] at hmem
      rw [hc, Host.carryOut_singleton, hmem]
      exact ⟨_, List.mem_cons_self, rfl⟩
    · rw [hc, List.mem_cons, List.mem_singleton] at hmem
      rw [hc, Host.carryOut_cons, hmem.resolve_right h]
      exact ⟨_, List.mem_cons_self, rfl⟩

/-- **The hardware clock is set exactly when the system clock was asked for and was set.** -/
theorem persisted_iff (host : Host) (earlier : List Attempt) (c : Command) :
    (∃ a ∈ host.carryOut earlier c.agenda, a.action = .persistHardwareClock) ↔
      ∃ timestamp, .setSystemClock timestamp ∈ c.agenda ∧
        (host.attempt earlier (.setSystemClock timestamp)).succeeded = true := by
  rcases agenda_cases c with hc | ⟨only, hc, hother, hclock⟩ | ⟨timestamp, hc⟩
  · rw [hc]
    simp
  · rw [hc, Host.carryOut_singleton]
    constructor
    · rintro ⟨a, ha, hact⟩
      rw [List.mem_singleton.mp ha] at hact
      exact absurd hact hother
    · rintro ⟨timestamp, hmem, -⟩
      exact absurd (List.mem_singleton.mp hmem).symm (hclock timestamp)
  · rw [hc, Host.carryOut_cons]
    by_cases hdone : (host.attempt earlier (.setSystemClock timestamp)).succeeded = true
    · rw [if_pos hdone, Host.carryOut_singleton]
      refine iff_of_true ⟨_, List.mem_cons_of_mem _ List.mem_cons_self, rfl⟩ ?_
      exact ⟨timestamp, List.mem_cons_self, hdone⟩
    · rw [if_neg hdone, Host.carryOut_nil]
      refine iff_of_false ?_ ?_
      · rintro ⟨a, ha, hact⟩
        rw [List.mem_singleton.mp ha] at hact
        cases hact
      · rintro ⟨other, hmem, hother⟩
        rcases List.mem_cons.mp hmem with heq | hmem
        · rw [heq] at hother
          exact hdone hother
        · cases List.mem_singleton.mp hmem

/-- A time sync with a timestamp calls for both clocks, -/
theorem agenda_timeSync {timestamp : String} (h : timestamp ≠ "") :
    (Command.timeSync timestamp).agenda =
      [.setSystemClock timestamp, .persistHardwareClock] := by
  have hfull : timestamp.isEmpty = false := by simpa [String.isEmpty_iff] using h
  simp only [Command.agenda, hfull, Bool.false_eq_true, if_false]

/-- and that the clock is to be set is all that is said before. -/
theorem remarks_timeSync {timestamp : String} (h : timestamp ≠ "") :
    (Command.timeSync timestamp).remarks = [.settingSystemTime timestamp] := by
  have hfull : timestamp.isEmpty = false := by simpa [String.isEmpty_iff] using h
  simp only [Command.remarks, hfull, Bool.false_eq_true, if_false]

theorem mem_agenda_timeSync {timestamp : String} {action : Action}
    (h : action ∈ (Command.timeSync timestamp).agenda) :
    action = .setSystemClock timestamp ∨ action = .persistHardwareClock := by
  simp only [Command.agenda] at h
  split at h
  · cases h
  · simpa using h

/-- The clock is on the agenda of a time sync with a timestamp, and of nothing else. -/
theorem setSystemClock_mem_agenda_iff (c : Command) (timestamp : String) :
    .setSystemClock timestamp ∈ c.agenda ↔ c = .timeSync timestamp ∧ timestamp ≠ "" := by
  cases c with
  | timeSync given =>
    by_cases hgiven : given = ""
    · subst hgiven
      have hagenda : (Command.timeSync "").agenda = [] := rfl
      rw [hagenda]
      refine ⟨fun h => absurd h List.not_mem_nil, ?_⟩
      rintro ⟨h, hne⟩
      exact absurd (Command.timeSync.inj h).symm hne
    · simp only [agenda_timeSync hgiven, List.mem_cons, List.not_mem_nil, or_false,
        Action.setSystemClock.injEq, reduceCtorEq, Command.timeSync.injEq]
      exact ⟨fun h => ⟨h.symm, h ▸ hgiven⟩, fun h => h.1.symm⟩
  | shutdown => simp [Command.agenda]
  | reboot => simp [Command.agenda]
  | serviceRestart => simp [Command.agenda]
  | servicePull => simp [Command.agenda]
  | unrecognized raw => simp [Command.agenda]

end Steward
