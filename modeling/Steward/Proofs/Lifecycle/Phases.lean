import Steward.Proofs.Lifecycle.Teardown

/-!
# The phases, and what can move them

The phase is written by two owners that do not know of each other: the supervisor, when it stops, and
the daemon, when it ends. It is meant to go from one phase to the next, and it does as long as the
daemon waits for its supervisor before it ends.

* `phase_cases` -- a step publishes the end, or it is the poll that completes and publishes the
  teardown, or it leaves the phase as it is.
* `Enters` -- the step after some others leads from another phase to this one.
* `Phased` -- the phase that steps lead to, read off the steps alone, and what moves it;
  `phased_run` proves it of every sequence of steps.
* `FinishedLast` -- the end is published only after the supervisor has returned; then the phases
  come in order, and each of them is entered once.
-/

namespace Steward

/-- How far a phase is. -/
def Phase.rank : Phase → Nat
  | .running => 0
  | .draining => 1
  | .terminated => 2

namespace Lifecycle

/-! ## 1. One step -/

/-- The phase that a step publishes, told from what it is answered. -/
def publishes (l : Lifecycle) (s : Step) : List Phase :=
  match s, (l.step s).1 with
  | .finish, _ => [.terminated]
  | .poll, .ready => [.draining]
  | _, _ => []

/-- **The phases that some steps publish**, one after another. -/
def publications : Lifecycle → List Step → List Phase := trace publishes

theorem publications_snoc (l : Lifecycle) (steps : List Step) (s : Step) :
    publications l (steps ++ [s]) = publications l steps ++ (l.run steps).publishes s :=
  trace_snoc publishes l steps s

/-- Neither the end nor a poll: the phase stays. -/
theorem phase_step_of_ne (l : Lifecycle) {s : Step} (hfinish : s ≠ .finish) (hpoll : s ≠ .poll) :
    (l.step s).2.1.phase = l.phase := by
  cases s with
  | request reason handle =>
    simp only [step]
    split
    · exact request_phase reason l
    · rfl
  | external name =>
    simp only [step, fire_eq]
    split <;> rfl
  | cloneHandle => simp only [step]; split <;> rfl
  | dropHandle => rfl
  | start => simp only [step]; cases l.supervisor <;> rfl
  | poll => exact absurd rfl hpoll
  | dropSupervisor => simp only [step]; cases l.supervisor <;> rfl
  | listenerClosed => rfl
  | finish => exact absurd rfl hfinish

/-- **What a step does to the phase**: it publishes the end, it is the poll at which the supervisor
    stops, or it leaves the phase as it is and publishes nothing. -/
theorem phase_cases (l : Lifecycle) (s : Step) :
    (s = .finish ∧ l.publishes s = [.terminated] ∧ (l.step s).2.1.phase = .terminated) ∨
    (s = .poll ∧ (l.step s).1 = .ready ∧ l.publishes s = [.draining] ∧
      (l.step s).2.1.phase = .draining) ∨
    (s ≠ .finish ∧ (l.step s).1 ≠ .ready ∧ l.publishes s = [] ∧
      (l.step s).2.1.phase = l.phase) := by
  by_cases hfinish : s = .finish
  · subst hfinish
    exact Or.inl ⟨rfl, rfl, rfl⟩
  refine Or.inr ?_
  rcases step_cases l s with ⟨rfl, -, t, -, hdrain⟩ | hcalm
  · refine Or.inl ⟨rfl, ?_, ?_, ?_⟩
    · rw [hdrain]
    · unfold publishes
      rw [hdrain]
    · rw [hdrain]
      rfl
  · refine Or.inr ⟨hfinish, hcalm.reply, ?_, ?_⟩
    · unfold publishes
      split
      · exact absurd rfl hfinish
      · rename_i hready
        exact absurd hready hcalm.reply
      · rfl
    · by_cases hpoll : s = .poll
      · subst hpoll
        rcases poll_cases l with ⟨-, t, -, hdrain⟩ | ⟨-, hsame⟩
        · exact absurd (by rw [hdrain]) hcalm.reply
        · rw [hsame]
      · exact phase_step_of_ne l hfinish hpoll

/-! ## 2. What stays -/

/-- The first phase is left for good. -/
theorem left_running {l : Lifecycle} (h : l.phase ≠ .running) (steps : List Step) :
    (l.run steps).phase ≠ .running := by
  induction steps using List.reverseRecOn with
  | nil => exact h
  | append_singleton steps s ih =>
    rw [run_snoc]
    rcases phase_cases (l.run steps) s with ⟨-, -, hnow⟩ | ⟨-, -, -, hnow⟩ | ⟨-, -, -, hsame⟩
    · rw [hnow]
      exact nofun
    · rw [hnow]
      exact nofun
    · rwa [hsame]

/-- The teardown goes on until the end is published. -/
theorem still_draining {l : Lifecycle} (h : l.phase = .draining) {steps : List Step}
    (hnone : .finish ∉ steps) : (l.run steps).phase = .draining := by
  induction steps using List.reverseRecOn with
  | nil => exact h
  | append_singleton steps s ih =>
    rw [List.mem_append, not_or] at hnone
    rw [run_snoc]
    rcases phase_cases (l.run steps) s with ⟨rfl, -⟩ | ⟨-, -, -, hnow⟩ | ⟨-, -, -, hsame⟩
    · exact absurd (List.mem_singleton.mpr rfl) hnone.2
    · exact hnow
    · exact hsame.trans (ih hnone.1)

/-- The end stays published until a poll completes. -/
theorem still_terminated {l : Lifecycle} (h : l.phase = .terminated) {steps : List Step}
    (hnone : ∀ mid, mid ++ [.poll] <+: steps → ((l.run mid).step .poll).1 ≠ .ready) :
    (l.run steps).phase = .terminated := by
  induction steps using List.reverseRecOn with
  | nil => exact h
  | append_singleton steps s ih =>
    have hbefore := ih fun mid hmid => hnone mid (hmid.trans (List.prefix_append steps [s]))
    rw [run_snoc]
    rcases phase_cases (l.run steps) s with ⟨-, -, hnow⟩ | ⟨rfl, hready, -, -⟩ | ⟨-, -, -, hsame⟩
    · exact hnow
    · exact absurd hready (hnone steps List.prefix_rfl)
    · exact hsame.trans hbefore

/-- Only one poll completes. -/
theorem Completes.unique {before before' steps : List Step} (h : Completes before steps)
    (h' : Completes before' steps) : before = before' := by
  cases torn_run steps with
  | ahead _ _ _ _ hnone => exact absurd h (hnone before)
  | done t done _ _ _ _ _ honly => exact (honly _ h).trans (honly _ h').symm

theorem Completes.of_ready {before : List Step} {after : List Step}
    (h : ((initial.run before).step .poll).1 = .ready) :
    Completes before (before ++ .poll :: after) :=
  ⟨⟨after, by rw [List.append_assoc]; rfl⟩, h⟩

/-- A poll that completes has no other one before it. -/
theorem not_completes_of_ready {steps : List Step}
    (h : ((initial.run steps).step .poll).1 = .ready) (before : List Step) :
    ¬Completes before steps := by
  intro hc
  have hsame : before = steps := (hc.snoc .poll).unique (.of_ready h)
  have hlength := hc.first.length_le
  rw [hsame, List.length_append] at hlength
  exact Nat.not_succ_le_self _ hlength

theorem Completes.exists_after {before steps : List Step} (h : Completes before steps) :
    ∃ after, steps = before ++ .poll :: after := by
  obtain ⟨after, heq⟩ := h.first
  exact ⟨after, by rw [← heq, List.append_assoc]; rfl⟩

/-! ## 3. The phase, read off the steps -/

/-- Where the teardown was published last. -/
theorem exists_of_draining {steps : List Step} (h : (initial.run steps).phase = .draining) :
    ∃ before after, steps = before ++ .poll :: after ∧
      ((initial.run before).step .poll).1 = .ready ∧ .finish ∉ after := by
  induction steps using List.reverseRecOn with
  | nil => cases h
  | append_singleton steps s ih =>
    rw [run_snoc] at h
    rcases phase_cases (initial.run steps) s with ⟨-, -, hnow⟩ | ⟨rfl, hready, -, -⟩ |
      ⟨hother, -, -, hsame⟩
    · rw [hnow] at h
      cases h
    · exact ⟨steps, [], rfl, hready, List.not_mem_nil⟩
    · obtain ⟨before, after, rfl, hready, hnone⟩ := ih (hsame.symm.trans h)
      refine ⟨before, after ++ [s], by rw [List.append_assoc]; rfl, hready, ?_⟩
      rw [List.mem_append, not_or]
      exact ⟨hnone, fun hmem => hother (List.mem_singleton.mp hmem).symm⟩

/-- Where the end was published last. -/
theorem exists_of_terminated {steps : List Step} (h : (initial.run steps).phase = .terminated) :
    ∃ before after, steps = before ++ .finish :: after ∧
      ∀ mid, ¬Completes (before ++ .finish :: mid) steps := by
  induction steps using List.reverseRecOn with
  | nil => cases h
  | append_singleton steps s ih =>
    rw [run_snoc] at h
    rcases phase_cases (initial.run steps) s with ⟨rfl, -, -⟩ | ⟨-, -, -, hnow⟩ |
      ⟨-, hpending, -, hsame⟩
    · refine ⟨steps, [], rfl, fun mid hc => ?_⟩
      have hlength := hc.first.length_le
      simp at hlength
    · rw [hnow] at h
      cases h
    · obtain ⟨before, after, hsteps, hnone⟩ := ih (hsame.symm.trans h)
      refine ⟨before, after ++ [s], by rw [hsteps, List.append_assoc]; rfl, fun mid hc => ?_⟩
      rcases completes_snoc hc with hc | ⟨-, hready⟩
      · exact hnone mid hc
      · exact hpending hready

theorem phase_of_ready {l : Lifecycle} (h : (l.step .poll).1 = .ready) :
    (l.step .poll).2.1.phase = .draining := by
  rcases phase_cases l .poll with ⟨hend, -⟩ | ⟨-, -, -, hnow⟩ | ⟨-, hpending, -⟩
  · cases hend
  · exact hnow
  · exact absurd h hpending

/-- The first phase lasts as long as no poll completes and no end is published. -/
theorem running_iff_run (steps : List Step) :
    (initial.run steps).phase = .running ↔
      (∀ before, ¬Completes before steps) ∧ .finish ∉ steps := by
  constructor
  · intro hphase
    refine ⟨fun before hc => ?_, fun hmem => ?_⟩
    · obtain ⟨after, rfl⟩ := hc.exists_after
      rw [run_append_cons] at hphase
      exact left_running (by rw [phase_of_ready hc.ready]; exact nofun) after hphase
    · obtain ⟨before, after, rfl⟩ := List.append_of_mem hmem
      rw [run_append_cons] at hphase
      exact left_running (l := ((initial.run before).step .finish).2.1) nofun after hphase
  · rintro ⟨hnone, hend⟩
    cases hphase : (initial.run steps).phase with
    | running => rfl
    | draining =>
      obtain ⟨before, after, rfl, hready, -⟩ := exists_of_draining hphase
      exact absurd (.of_ready hready) (hnone before)
    | terminated =>
      obtain ⟨before, after, rfl, -⟩ := exists_of_terminated hphase
      exact absurd (by simp) hend

/-- **The step after some others enters a phase**, from another one. -/
structure Enters (before : List Step) (s : Step) (p : Phase) : Prop where
  other : (initial.run before).phase ≠ p
  now : (initial.run (before ++ [s])).phase = p

/-- The teardown is entered at the poll that completes. -/
theorem Enters.completes {before steps : List Step} {s : Step} (h : Enters before s .draining)
    (hfirst : before ++ [s] <+: steps) : Completes before steps := by
  have hnow := h.now
  rw [run_snoc] at hnow
  rcases phase_cases (initial.run before) s with ⟨-, -, hend⟩ | ⟨rfl, hready, -, -⟩ |
    ⟨-, -, -, hsame⟩
  · rw [hnow] at hend
    cases hend
  · exact ⟨hfirst, hready⟩
  · exact absurd (hsame.symm.trans hnow) h.other

/-! ## 4. The end behind the teardown -/

/-- **The end is published only after the supervisor has returned.** -/
def FinishedLast (steps : List Step) : Prop :=
  ∀ before after, steps = before ++ .finish :: after → ∃ done, Completes done before

theorem FinishedLast.of_prefix {before steps : List Step} (h : FinishedLast steps)
    (hfirst : before <+: steps) : FinishedLast before := by
  obtain ⟨after, rfl⟩ := hfirst
  rintro earlier later rfl
  exact h earlier (later ++ after) (by rw [List.append_assoc]; rfl)

/-- A supervisor that has returned did so at a poll. -/
theorem exists_completes {steps : List Step} (h : (initial.run steps).trigger?.isSome = true) :
    ∃ done, Completes done steps := by
  cases torn_run steps with
  | ahead htrigger => rw [htrigger] at h; cases h
  | done t before _ _ _ _ hcompletes => exact ⟨before, hcompletes⟩

/-- One step more keeps to that, if it is not an end before the supervisor has returned. -/
theorem FinishedLast.snoc {steps : List Step} {s : Step} (h : FinishedLast steps)
    (hs : s = .finish → ∃ done, Completes done steps) : FinishedLast (steps ++ [s]) := by
  intro before after heq
  rcases List.eq_nil_or_concat after with rfl | ⟨after, last, rfl⟩
  · obtain ⟨rfl, hlast⟩ := List.append_inj' heq rfl
    exact hs (List.singleton_inj.mp hlast)
  · rw [List.concat_eq_append, ← List.cons_append, ← List.append_assoc] at heq
    exact h before after (List.append_inj' heq rfl).1

/-- **How phases come in order**: none was published, or the teardown was, and after it the end any
    number of times. -/
inductive InOrder (steps : List Step) (l : Lifecycle) : Prop
  | ahead (hphase : l.phase = .running) (hpublished : publications initial steps = [])
      (hnone : ∀ before, ¬Completes before steps)
  | behind (ends : Nat) (hphase : l.phase = if ends = 0 then .draining else .terminated)
      (hpublished : publications initial steps = .draining :: List.replicate ends .terminated)
      (hcompleted : ∃ before, Completes before steps)

theorem inOrder_run {steps : List Step} (h : FinishedLast steps) :
    InOrder steps (initial.run steps) := by
  induction steps using List.reverseRecOn with
  | nil => exact .ahead rfl rfl fun before hc => by simpa using hc.first
  | append_singleton steps s ih =>
    have hbefore := ih (h.of_prefix (List.prefix_append steps [s]))
    rw [run_snoc]
    rcases phase_cases (initial.run steps) s with ⟨rfl, hpublishes, hnow⟩ |
      ⟨rfl, hready, hpublishes, hnow⟩ | ⟨-, hpending, hpublishes, hsame⟩
    · obtain ⟨done, hdone⟩ := h steps [] rfl
      cases hbefore with
      | ahead _ _ hnone => exact absurd hdone (hnone done)
      | behind ends _ hpublished _ =>
        refine .behind (ends + 1) hnow ?_ ⟨done, hdone.snoc _⟩
        rw [publications_snoc, hpublished, hpublishes, List.cons_append, List.replicate_succ']
    · cases hbefore with
      | ahead _ hpublished _ =>
        refine .behind 0 hnow ?_ ⟨steps, .of_ready hready⟩
        rw [publications_snoc, hpublished, hpublishes]
        rfl
      | behind ends _ _ hcompleted =>
        obtain ⟨before, hc⟩ := hcompleted
        exact absurd hc (not_completes_of_ready hready before)
    · have hstays : publications initial (steps ++ [s]) = publications initial steps := by
        rw [publications_snoc, hpublishes, List.append_nil]
      cases hbefore with
      | ahead hphase hpublished hnone =>
        refine .ahead (hsame.trans hphase) (hstays.trans hpublished) fun before hc => ?_
        rcases completes_snoc hc with hc | ⟨-, hready⟩
        · exact hnone before hc
        · exact hpending hready
      | behind ends hphase hpublished hcompleted =>
        obtain ⟨before, hc⟩ := hcompleted
        exact .behind ends (hsame.trans hphase) (hstays.trans hpublished) ⟨before, hc.snoc s⟩

/-- One step never goes back, if the end is published only after the supervisor has returned. -/
theorem rank_le_snoc {steps : List Step} {s : Step} (h : FinishedLast (steps ++ [s])) :
    (initial.run steps).phase.rank ≤ (initial.run (steps ++ [s])).phase.rank := by
  have hbefore := inOrder_run (h.of_prefix (List.prefix_append steps [s]))
  rw [run_snoc]
  rcases phase_cases (initial.run steps) s with ⟨-, -, hnow⟩ | ⟨rfl, hready, -, hnow⟩ |
    ⟨-, -, -, hsame⟩
  · rw [hnow]
    cases (initial.run steps).phase <;> decide
  · cases hbefore with
    | ahead hphase => rw [hphase]; exact Nat.zero_le _
    | behind ends _ _ hcompleted =>
      obtain ⟨before, hc⟩ := hcompleted
      exact absurd hc (not_completes_of_ready hready before)
  · exact Nat.le_of_eq (congrArg Phase.rank hsame.symm)

theorem rank_le_of_prefix {before steps : List Step} (h : FinishedLast steps)
    (hfirst : before <+: steps) :
    (initial.run before).phase.rank ≤ (initial.run steps).phase.rank := by
  obtain ⟨after, rfl⟩ := hfirst
  induction after using List.reverseRecOn with
  | nil => exact Nat.le_of_eq (by rw [List.append_nil])
  | append_singleton after s ih =>
    rw [← List.append_assoc] at h ⊢
    exact Nat.le_trans (ih (h.of_prefix (List.prefix_append _ [s]))) (rank_le_snoc h)

/-! ## 5. All about the phase -/

/-- **The phase after some steps**, and what moves it. -/
structure Phased (steps : List Step) (l : Lifecycle) : Prop where
  /-- It is the first one exactly when no poll has completed and no end was published. -/
  running_iff : l.phase = .running ↔ (∀ before, ¬Completes before steps) ∧ .finish ∉ steps
  /-- Otherwise it tells which of the two came last: the poll, -/
  draining_iff : l.phase = .draining ↔
    ∃ before after, steps = before ++ .poll :: after ∧ Completes before steps ∧ .finish ∉ after
  /-- or the end. -/
  terminated_iff : l.phase = .terminated ↔
    ∃ before after, steps = before ++ .finish :: after ∧
      ∀ mid, ¬Completes (before ++ .finish :: mid) steps
  /-- No step leads back to the first phase, -/
  never_back : ∀ before s, before ++ [s] <+: steps → ¬Enters before s .running
  /-- and one step at most leads to the teardown. -/
  draining_once : ∀ before s before' s', before ++ [s] <+: steps → before' ++ [s'] <+: steps →
    Enters before s .draining → Enters before' s' .draining → before = before'
  /-- A step that neither publishes the end nor is a poll that completes leaves the phase as it is. -/
  kept : ∀ s, s ≠ .finish → (s = .poll → (l.step s).1 ≠ .ready) →
    (l.step s).2.1.phase = l.phase
  /-- The last phase is left by nothing but a poll that completes after the end was published. -/
  revived : ∀ s, l.phase = .terminated → (l.step s).2.1.phase ≠ .terminated →
    s = .poll ∧ (l.step s).1 = .ready ∧ .finish ∈ steps ∧ (l.step s).2.1.phase = .draining
  /-- If the end is published only after the supervisor has returned, no step goes back, -/
  forward : FinishedLast steps → ∀ before mid, before <+: mid → mid <+: steps →
    (initial.run before).phase.rank ≤ (initial.run mid).phase.rank
  /-- and nothing is published but the teardown and then the end, however often. -/
  published : FinishedLast steps → publications initial steps = [] ∨
    ∃ ends, publications initial steps = .draining :: List.replicate ends .terminated

/-- **The phase tells what happened last, and goes back only where the end was published too early**,
    whatever steps are taken and in whichever order. -/
theorem phased_run (steps : List Step) : Phased steps (initial.run steps) where
  running_iff := running_iff_run steps
  draining_iff := by
    constructor
    · intro h
      obtain ⟨before, after, rfl, hready, hnone⟩ := exists_of_draining h
      exact ⟨before, after, rfl, .of_ready hready, hnone⟩
    · rintro ⟨before, after, rfl, hc, hnone⟩
      rw [run_append_cons]
      exact still_draining (phase_of_ready hc.ready) hnone
  terminated_iff := by
    constructor
    · exact exists_of_terminated
    · rintro ⟨before, after, rfl, hnone⟩
      rw [run_append_cons]
      refine still_terminated rfl fun mid hmid hready => hnone mid ⟨?_, ?_⟩
      · obtain ⟨rest, rfl⟩ := hmid
        exact ⟨rest, by simp⟩
      · rwa [run_append_cons]
  never_back before s hfirst h := by
    have hleft := left_running h.other [s]
    rw [← run_append] at hleft
    exact hleft h.now
  draining_once before s before' s' hfirst hfirst' h h' :=
    (h.completes hfirst).unique (h'.completes hfirst')
  kept s hfinish hpoll := by
    rcases phase_cases (initial.run steps) s with ⟨hend, -⟩ | ⟨hp, hready, -⟩ | ⟨-, -, -, hsame⟩
    · exact absurd hend hfinish
    · exact absurd hready (hpoll hp)
    · exact hsame
  revived s hlast hmoved := by
    rcases phase_cases (initial.run steps) s with ⟨-, -, hnow⟩ | ⟨hp, hready, -, hnow⟩ |
      ⟨-, -, -, hsame⟩
    · exact absurd hnow hmoved
    · obtain ⟨before, after, hsteps, -⟩ := exists_of_terminated hlast
      exact ⟨hp, hready, by rw [hsteps]; simp, hnow⟩
    · exact absurd (hsame.trans hlast) hmoved
  forward h before mid hbefore hmid := rank_le_of_prefix (h.of_prefix hmid) hbefore
  published h := by
    cases inOrder_run h with
    | ahead _ hpublished _ => exact Or.inl hpublished
    | behind ends _ hpublished _ => exact Or.inr ⟨ends, hpublished⟩

end Lifecycle

end Steward
