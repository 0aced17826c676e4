import Steward.Proofs.Daemon.Ending
import Steward.Proofs.Daemon.Terminal
import Steward.Proofs.Filesystem.Binding

/-!
# What a run returns

Three things can be pending when the supervisor looks: a signal, a request, and the end of the
accept loop. The request of a terminal command and the end of the loop even come in one turn. What
the daemon returns is decided at the look that completes, by what had come by then.

* `signalled` -- the signal that has come among some moves; `signal_run` -- a waiting supervisor
  sees it.
* `Course` -- the INVARIANT on what was dispatched so far: no terminal command as long as the loop
  serves; once it has ended, either the last command was terminal and its request waits in the slot,
  or accepting has failed and the slot is empty.
* `trigger_cases` -- a supervisor stops with the signal, with the last command's request, or because
  accepting has failed.
* `trigger_of_return` -- what a run that has returned says about its past.
-/

namespace Steward.Daemon

variable {settings : Settings} {files : Filesystem} {before moves : List Move} {t : Trigger}
  {issued : List (Nat × Command)} {d d' : Daemon}

/-! ## 1. The signal -/

/-- The signal that a move fires, if it fires one. -/
def Move.signal? : Move → Option String
  | .signal name => some name
  | _ => none

/-- **The signal that has come** among some moves: the first, for it comes once at most. -/
def signalled (moves : List Move) : Option String := moves.findSome? Move.signal?

theorem signalled_snoc (moves : List Move) (m : Move) :
    signalled (moves ++ [m]) = (signalled moves).or m.signal? := by
  unfold signalled
  rw [List.findSome?_append]
  cases m <;> rfl

/-- What a supervisor that waits sees of the signal. -/
def sighted : Option String → Signal
  | some name => .fired name
  | none => .silent

theorem sighted_eq_fired_iff (past : Option String) (name : String) :
    sighted past = .fired name ↔ past = some name := by
  cases past <;> simp [sighted]

theorem signal_turn {new : List (Nat × Attempt)} (ht : Turn settings d new d') :
    d'.lifecycle.signal = d.lifecycle.signal := by
  cases ht with
  | terminate hloop hlast => exact Lifecycle.request_signal _ _
  | _ => rfl

/-- A move that fires no signal leaves it as it is. -/
theorem signal_keeps (settings : Settings) (d : Daemon) {m : Move} (h : m.signal? = none) :
    (step settings d m).lifecycle.signal = d.lifecycle.signal := by
  cases m with
  | pollLoop => exact signal_turn (pollLoop_turn settings d)
  | pollSupervisor =>
    show d.pollSupervisor.lifecycle.signal = _
    rcases pollSupervisor_cases d with ⟨t, -, -, hstop⟩ | ⟨-, hsame⟩
    · rw [hstop]
      rfl
    · rw [hsame]
  | connect path => rw [(connect_keeps settings d path).1]
  | write client bytes => rw [(write_keeps settings d client bytes).1]
  | signal name => cases h
  | close client how => rfl
  | descriptors available => rfl
  | replace path node => rfl

/-- A signal fires for a supervisor that waits, unless one has fired before. -/
theorem signal_fires (settings : Settings) (name : String)
    (hw : d.lifecycle.supervisor = .waiting) :
    (step settings d (.signal name)).lifecycle.signal =
      if d.lifecycle.signal = .silent then .fired name else d.lifecycle.signal := by
  have haudible : d.lifecycle.audible = true := by
    unfold Lifecycle.audible
    rw [hw]
  simp only [step, Lifecycle.step]
  split
  · unfold Lifecycle.fire
    rw [if_pos haudible]
  · rfl

/-- A supervisor that waits has always waited. -/
theorem waiting_of_step {m : Move}
    (h : (step settings d m).lifecycle.supervisor = .waiting) :
    d.lifecycle.supervisor = .waiting := by
  rcases supervisor_step settings d m with hsame | ⟨-, hready⟩
  · exact hsame.symm.trans h
  · exact ((ready_iff _).mp hready).1

/-- **A supervisor that waits sees the signal that has come.** -/
theorem signal_run
    (hw : (run settings (start settings files) moves).lifecycle.supervisor = .waiting) :
    (run settings (start settings files) moves).lifecycle.signal = sighted (signalled moves) := by
  induction moves using List.reverseRecOn with
  | nil =>
    rw [run, List.foldl_nil]
    rcases start_cases settings files with ⟨l, -, -, hlifecycle, -⟩ |
      ⟨failure, -, -, hlifecycle, -⟩ <;> rw [hlifecycle] <;> rfl
  | append_singleton moves m ih =>
    rw [run_snoc] at hw ⊢
    have hwaited := waiting_of_step hw
    rw [signalled_snoc]
    cases hsignal : m.signal? with
    | none => rw [signal_keeps settings _ hsignal, Option.or_none, ih hwaited]
    | some name =>
      cases m with
      | signal name' =>
        obtain rfl : name' = name := Option.some.inj hsignal
        rw [signal_fires settings name' hwaited, ih hwaited]
        cases signalled moves <;> rfl
      | _ => cases hsignal

/-! ## 2. What was dispatched -/

/-- Commands after none of which the daemon stops. -/
def Ordinary (issued : List (Nat × Command)) : Prop := ∀ entry ∈ issued, entry.2.isTerminal = false

/-- **The last of some commands stops the daemon**, and asks for the teardown under its name. -/
def EndsWith (issued : List (Nat × Command)) (reason : String) : Prop :=
  ∃ earlier client command, issued = earlier ++ [(client, command)] ∧ Ordinary earlier ∧
    command.isTerminal = true ∧ command.name = reason

theorem request?_eq_some_iff (c : Command) (reason : String) :
    c.request? = some reason ↔ c.isTerminal = true ∧ c.name = reason := by
  unfold Command.request?
  split
  · rename_i hlast
    simp [hlast]
  · rename_i hlast
    simp [hlast]

theorem isTerminal_of_request?_none {c : Command} (h : c.request? = none) :
    c.isTerminal = false := by
  unfold Command.request? at h
  split at h
  · cases h
  · rename_i hlast
    exact Bool.eq_false_iff.mpr hlast

theorem Ordinary.snoc (h : Ordinary issued) {client : Nat} {command : Command}
    (hordinary : command.isTerminal = false) : Ordinary (issued ++ [(client, command)]) := by
  intro entry hentry
  rcases List.mem_append.mp hentry with hentry | hentry
  · exact h entry hentry
  · rw [List.mem_singleton.mp hentry]
    exact hordinary

/-- No terminal command is among ordinary ones. -/
theorem Ordinary.ne {entry : Nat × Command} (h : Ordinary issued) (hmem : entry ∈ issued) :
    entry.2.isTerminal ≠ true := by
  rw [h entry hmem]
  exact Bool.false_ne_true

/-- A terminal command among such is the last one. -/
theorem EndsWith.eq_of_mem {reason : String} (h : EndsWith issued reason) {client : Nat}
    {command : Command} (hmem : (client, command) ∈ issued) (hlast : command.isTerminal = true) :
    command.name = reason ∧
      ∃ earlier, issued = earlier ++ [(client, command)] ∧ Ordinary earlier := by
  obtain ⟨earlier, client', command', rfl, hordinary, -, hname⟩ := h
  rcases List.mem_append.mp hmem with hmem | hmem
  · exact absurd hlast (hordinary.ne hmem)
  · cases List.mem_singleton.mp hmem
    exact ⟨hname, earlier, rfl, hordinary⟩

/-- **What was dispatched at each place of the accept loop**, and what of it waits for the
    supervisor. -/
inductive Course (issued : List (Nat × Command)) (d : Daemon) : Prop
  | serving (hloop : d.loop = .selecting ∨ ∃ client m, d.loop = .reading client m)
      (hordinary : Ordinary issued)
  | acting {client : Nat} {command : Command} {agenda : List Action}
      (earlier : List (Nat × Command)) (hloop : d.loop = .acting client command agenda)
      (hissued : issued = earlier ++ [(client, command)]) (hordinary : Ordinary earlier)
  /-- The loop has ended behind a terminal command. -/
  | commanded (reason : String) (hloop : d.loop.serving = false) (hissued : EndsWith issued reason)
      (hslot : d.lifecycle.supervisor = .waiting → d.lifecycle.slot = some reason)
  /-- The loop has ended otherwise: by itself only because accepting has failed. -/
  | broken (hloop : d.loop.serving = false) (hordinary : Ordinary issued)
      (hfailed : d.lifecycle.supervisor = .waiting →
        d.lifecycle.slot = none ∧ ∃ e, .acceptFailed e ∈ d.journal)

/-- A move that the loop does not take part in. -/
theorem Course.keep (h : Course issued d) (hloop : d'.loop = d.loop)
    (hslot : d'.lifecycle.supervisor = .waiting →
      d.lifecycle.supervisor = .waiting ∧ d'.lifecycle.slot = d.lifecycle.slot)
    (hjournal : d.journal <+: d'.journal) : Course issued d' := by
  cases h with
  | serving hplace hordinary => exact .serving (by rw [hloop]; exact hplace) hordinary
  | acting earlier hplace hissued hordinary =>
    exact .acting earlier (hloop.trans hplace) hissued hordinary
  | commanded reason hplace hissued hwaits =>
    refine .commanded reason (by rw [hloop]; exact hplace) hissued fun hw => ?_
    obtain ⟨hold, hsame⟩ := hslot hw
    exact hsame.trans (hwaits hold)
  | broken hplace hordinary hwaits =>
    refine .broken (by rw [hloop]; exact hplace) hordinary fun hw => ?_
    obtain ⟨hold, hsame⟩ := hslot hw
    obtain ⟨hempty, e, he⟩ := hwaits hold
    exact ⟨hsame.trans hempty, e, hjournal.subset he⟩

/-- Where the loop looks for clients, only ordinary commands were dispatched. -/
theorem Course.ordinary (h : Course issued d)
    (hloop : d.loop = .selecting ∨ ∃ client m, d.loop = .reading client m) : Ordinary issued := by
  have hserving : d.loop.serving = true := by
    rcases hloop with hloop | ⟨client, m, hloop⟩ <;> rw [hloop] <;> rfl
  cases h with
  | serving _ hordinary => exact hordinary
  | acting earlier hplace =>
    rcases hloop with hloop | ⟨client, m, hloop⟩ <;> rw [hplace] at hloop <;> cases hloop
  | commanded reason hplace => rw [hserving] at hplace; cases hplace
  | broken hplace => rw [hserving] at hplace; cases hplace

/-- A command in hand is the last that was dispatched. -/
theorem Course.inHand (h : Course issued d) {client : Nat} {command : Command}
    {agenda : List Action} (hloop : d.loop = .acting client command agenda) :
    ∃ earlier, issued = earlier ++ [(client, command)] ∧ Ordinary earlier := by
  cases h with
  | acting earlier hplace hissued hordinary =>
    rw [hloop] at hplace
    cases hplace
    exact ⟨earlier, hissued, hordinary⟩
  | serving hplace =>
    rcases hplace with hplace | ⟨client, m, hplace⟩ <;> rw [hloop] at hplace <;> cases hplace
  | commanded reason hplace => rw [hloop] at hplace; cases hplace
  | broken hplace => rw [hloop] at hplace; cases hplace

/-- The accept loop ends by itself only if accepting fails, as long as nobody has told it to end. -/
theorem acceptFailed_of_ended (settings : Settings) (hloop : d.loop = .selecting)
    (hgoing : d.lifecycle.cancelled = false) (hended : (pollLoop settings d).loop = .ended) :
    ∃ e, .acceptFailed e ∈ (pollLoop settings d).journal := by
  have hpoll : pollLoop settings d = d.select := by
    unfold pollLoop
    rw [hloop]
  rw [hpoll] at hended ⊢
  unfold select at hended ⊢
  rw [if_neg (by rw [hgoing]; exact nofun)] at hended ⊢
  split at hended
  · rw [hloop] at hended
    cases hended
  split at hended
  · rename_i hsome hnone
    rw [if_neg hsome, if_pos hnone]
    exact ⟨.tooManyFiles, List.mem_append_right _ List.mem_cons_self⟩
  split at hended
  · rw [hloop] at hended
    cases hended
  · cases hended

/-- **Every turn of the accept loop keeps the course**, with what it dispatches. -/
theorem Course.turn {new : List (Nat × Attempt)} (h : Course issued d) (hmode : Mode d)
    (hfailed : d.loop = .selecting → d.lifecycle.cancelled = false → d'.loop = .ended →
      ∃ e, .acceptFailed e ∈ d'.journal)
    (ht : Turn settings d new d') :
    Course (issued ++ Loop.dispatched d.loop d'.loop) d' := by
  have hnone : ∀ {xs : List (Nat × Command)}, xs = [] → Course issued d' →
      Course (issued ++ xs) d' := by
    rintro xs rfl hcourse
    rwa [List.append_nil]
  cases ht with
  | wait notified hidle =>
    exact hnone (Loop.dispatched_self _) (h.keep rfl (fun hw => ⟨hw, rfl⟩) List.prefix_rfl)
  | stop e hloop he =>
    refine hnone (by rw [hloop]; rfl) (.broken rfl (h.ordinary (Or.inl hloop)) fun hw => ?_)
    obtain ⟨-, ⟨-, hgoing, hslot⟩ | ⟨hended, -⟩⟩ := hmode.of_waiting hw
    · exact ⟨hslot, hfailed hloop hgoing rfl⟩
    · rw [hloop] at hended
      cases hended
  | accept client hloop hnext =>
    exact hnone (by rw [hloop]; rfl)
      (.serving (Or.inr ⟨client, .empty, rfl⟩) (h.ordinary (Or.inl hloop)))
  | chunk hloop hc hchunk hsome =>
    exact hnone (by rw [hloop]; rfl)
      (.serving (Or.inr ⟨_, _, rfl⟩) (h.ordinary (Or.inr ⟨_, _, hloop⟩)))
  | reject hend hover =>
    exact hnone (by rw [hend.loop]; rfl)
      (.serving (Or.inl rfl) (h.ordinary (Or.inr ⟨_, _, hend.loop⟩)))
  | dispatch hend hfits =>
    rw [hend.loop]
    exact .acting issued rfl rfl (h.ordinary (Or.inr ⟨_, _, hend.loop⟩))
  | call hloop ha =>
    obtain ⟨earlier, hissued, hordinary⟩ := h.inHand hloop
    exact hnone (by rw [hloop]; rfl) (.acting earlier rfl hissued hordinary)
  | leave hloop hlast =>
    obtain ⟨earlier, rfl, hordinary⟩ := h.inHand hloop
    exact hnone (by rw [hloop]; rfl)
      (.serving (Or.inl rfl) (hordinary.snoc (isTerminal_of_request?_none hlast)))
  | @terminate client command reason hloop hlast =>
    obtain ⟨earlier, rfl, hordinary⟩ := h.inHand hloop
    obtain ⟨hterminal, hname⟩ := (request?_eq_some_iff command reason).mp hlast
    refine hnone (by rw [hloop]; rfl) (.commanded reason rfl
      ⟨earlier, client, command, rfl, hordinary, hterminal, hname⟩ fun hw => ?_)
    have hwaits : d.lifecycle.supervisor = .waiting :=
      (Lifecycle.request_supervisor reason d.lifecycle).symm.trans hw
    obtain ⟨-, ⟨-, -, hslot⟩ | ⟨hended, -⟩⟩ := hmode.of_waiting hwaits
    · have hlives : d.lifecycle.supervised = true := by
        unfold Lifecycle.supervised
        rw [hwaits]
      exact Lifecycle.request_slot_of_free reason hslot hlives
    · rw [hloop] at hended
      cases hended
  | wrapUp t hloop ht =>
    have hstopped : ∀ {P : Prop}, (d.wrapUp t).lifecycle.supervisor = .waiting → P := by
      intro P hw
      have hwaits : d.lifecycle.supervisor = .waiting := hw
      rw [Lifecycle.trigger?_eq_some_iff, hwaits] at ht
      cases ht
    refine hnone (by rw [hloop]; rfl) ?_
    cases h with
    | commanded reason _ hissued => exact .commanded reason rfl hissued hstopped
    | broken _ hordinary => exact .broken rfl hordinary hstopped
    | serving hplace =>
      rcases hplace with hplace | ⟨client, m, hplace⟩ <;> rw [hloop] at hplace <;> cases hplace
    | acting earlier hplace => rw [hloop] at hplace; cases hplace

/-- **Every sequence of moves keeps its course.** -/
theorem course_run (settings : Settings) (files : Filesystem) (moves : List Move) :
    Course (dispatches settings (start settings files) moves)
      (run settings (start settings files) moves) := by
  induction moves using List.reverseRecOn with
  | nil =>
    change Course [] (start settings files)
    rcases start_cases settings files with ⟨l, -, hloop, -⟩ | ⟨failure, -, hloop, hlifecycle, -⟩
    · exact .serving (Or.inl hloop) nofun
    · exact .broken (by rw [hloop]; rfl) nofun (by rw [hlifecycle]; exact nofun)
  | append_singleton moves m ih =>
    have hstill : dispatchOf settings (run settings (start settings files) moves) m = [] →
        Course (dispatches settings (start settings files) moves)
          (step settings (run settings (start settings files) moves) m) →
        Course (dispatches settings (start settings files) (moves ++ [m]))
          (run settings (start settings files) (moves ++ [m])) := by
      intro hnone hcourse
      unfold dispatches
      rw [run_snoc, trace_snoc, hnone, List.append_nil]
      exact hcourse
    rcases step_kinds settings (run settings (start settings files) moves) m with rfl | rfl | ha
    · unfold dispatches
      rw [run_snoc, trace_snoc]
      exact ih.turn (mode_run settings files moves) (acceptFailed_of_ended settings)
        (pollLoop_turn settings _)
    · refine hstill (Loop.dispatched_self _) (ih.keep rfl (fun hw => ?_) (List.prefix_append _ _))
      have hsame := pollSupervisor_of_waiting hw
      exact ⟨waiting_of_step hw, congrArg (·.lifecycle.slot) hsame⟩
    · have hnone : dispatchOf settings (run settings (start settings files) moves) m = [] := by
        unfold dispatchOf
        rw [ha.loop]
        exact Loop.dispatched_self _
      obtain ⟨signal, hlifecycle⟩ := ha.lifecycle
      have hlogged : (run settings (start settings files) moves).journal <+:
          (step settings (run settings (start settings files) moves) m).journal :=
        ⟨[], by rw [ha.unlogged, List.append_nil]⟩
      exact hstill hnone
        (ih.keep ha.loop (fun hw => ⟨waiting_of_step hw, by rw [hlifecycle]⟩) hlogged)

/-! ## 3. The trigger -/

/-- Behind the end of the accept loop nothing is dispatched. -/
theorem dispatches_of_ended (settings : Settings) (hloop : d.loop = .ended) (moves : List Move) :
    dispatches settings d moves = [] := by
  unfold dispatches
  induction moves using List.reverseRecOn with
  | nil => rfl
  | append_singleton moves m ih =>
    rw [trace_snoc, ih, List.nil_append]
    have hspent : Spent (run settings d moves).loop :=
      (spent_run (by rw [hloop]; exact .ended) moves).1
    unfold dispatchOf
    cases hplace : (run settings d moves).loop with
    | reading client m => rw [hplace] at hspent; cases hspent
    | selecting => rfl
    | acting client command agenda => rfl
    | ended => rfl
    | returned t => rfl
    | refused failure => rfl

/-- **Why the supervisor stopped**: the signal had come; or it had not, and either the last command
    that was dispatched is terminal and gave the reason, or accepting has failed and no command is
    terminal. -/
theorem trigger_cases (hc : Completes settings files before moves)
    (ht : (run settings (start settings files) moves).lifecycle.supervisor = .stopped t) :
    (∃ name, signalled before = some name ∧ t = .external name) ∨
      (signalled before = none ∧ ∃ reason, t = .requested reason ∧
        EndsWith (dispatches settings (start settings files) moves) reason) ∨
      (signalled before = none ∧ t = .listenerClosed ∧
        Ordinary (dispatches settings (start settings files) moves) ∧
        ∃ e, .acceptFailed e ∈ (run settings (start settings files) moves).journal) := by
  obtain ⟨t', hverdict, hstopped⟩ := hc.stopped
  obtain rfl : t = t' := Supervisor.stopped.inj (ht.symm.trans hstopped)
  obtain ⟨hw, -⟩ := (ready_iff _).mp hc.ready
  unfold Lifecycle.verdict at hverdict
  rw [signal_run hw] at hverdict
  cases hpast : signalled before with
  | some name =>
    rw [hpast] at hverdict
    exact Or.inl ⟨name, rfl, (Option.some.inj hverdict).symm⟩
  | none =>
    rw [hpast] at hverdict
    refine Or.inr ?_
    obtain ⟨-, ⟨-, hgoing, hslot⟩ | ⟨hended, hcancelled⟩⟩ :=
      (mode_run settings files before).of_waiting hw
    · -- a supervisor that has nothing to stop for does not stop
      rw [hslot, hgoing] at hverdict
      cases hverdict
    · obtain ⟨after, rfl⟩ := hc.first
      have hsame : dispatches settings (start settings files)
          (before ++ [.pollSupervisor] ++ after) =
            dispatches settings (start settings files) before := by
        have hnone := dispatches_of_ended settings hended (.pollSupervisor :: after)
        unfold dispatches at hnone ⊢
        rw [List.append_assoc, trace_append]
        exact (congrArg _ hnone).trans (List.append_nil _)
      rw [hsame]
      cases course_run settings files before with
      | commanded reason _ hissued hslot =>
        rw [hslot hw] at hverdict
        exact Or.inl ⟨rfl, reason, (Option.some.inj hverdict).symm, hissued⟩
      | broken _ hordinary hfailed =>
        obtain ⟨hempty, e, he⟩ := hfailed hw
        rw [hempty, hcancelled] at hverdict
        have hidled : Idled (run settings (start settings files) before)
            (run settings (run settings (start settings files) before)
              (.pollSupervisor :: after)) :=
          (spent_run (by rw [hended]; exact .ended) _).2
        obtain ⟨later, hjournal, -⟩ := hidled.journal
        refine Or.inr ⟨rfl, (Option.some.inj hverdict).symm, hordinary, e, ?_⟩
        rw [List.append_assoc, run_append]
        exact hjournal ▸ List.mem_append_left later he
      | serving hplace =>
        rcases hplace with hplace | ⟨client, m, hplace⟩ <;> rw [hended] at hplace <;> cases hplace
      | acting earlier hplace => rw [hended] at hplace; cases hplace

/-- **What the trigger that a run returned says about its past.** -/
structure Explained (settings : Settings) (files : Filesystem) (moves : List Move) (t : Trigger) :
    Prop where
  /-- The supervisor stopped at one look. -/
  completed : ∃ before, Completes settings files before moves ∧
    ∀ other, Completes settings files other moves → other = before
  /-- The run returned a signal exactly when that had fired by the look, -/
  external_iff : ∀ before, Completes settings files before moves → ∀ name,
    t = .external name ↔
      (run settings (start settings files) before).lifecycle.signal = .fired name
  /-- and it had fired by then exactly when it was the first to come. -/
  fired_iff : ∀ before, Completes settings files before moves → ∀ name,
    (run settings (start settings files) before).lifecycle.signal = .fired name ↔
      signalled before = some name
  /-- Otherwise it returned the request of a command exactly when such a command, which is to power
      off or to reboot, was dispatched in the run. -/
  requested_iff : ∀ before, Completes settings files before moves → signalled before = none →
    ∀ reason, t = .requested reason ↔
      ∃ entry ∈ dispatches settings (start settings files) moves,
        entry.2.isTerminal = true ∧ entry.2.name = reason
  /-- Otherwise, and only then, it returned the end of the accept loop, -/
  closed_iff : ∀ before, Completes settings files before moves → signalled before = none →
    (t = .listenerClosed ↔ Ordinary (dispatches settings (start settings files) moves))
  /-- which comes only of a failure to accept. -/
  failed : t = .listenerClosed →
    ∃ e, .acceptFailed e ∈ (run settings (start settings files) moves).journal
  /-- Such a command is the last that was dispatched, and the only one of its kind. -/
  last : ∀ client command, (client, command) ∈ dispatches settings (start settings files) moves →
    command.isTerminal = true → ∃ earlier,
      dispatches settings (start settings files) moves = earlier ++ [(client, command)] ∧
        Ordinary earlier
  /-- A run that dispatched one never returned the end of the accept loop, nor did it complain that
      there was no trigger. -/
  never : ∀ entry ∈ dispatches settings (start settings files) moves, entry.2.isTerminal = true →
    t ≠ .listenerClosed ∧
      .endedWithoutTrigger ∉ (run settings (start settings files) moves).journal

/-- When a daemon has returned, either a terminal command was the last one, or all were ordinary. -/
theorem endsWith_or_ordinary (h : (run settings (start settings files) moves).loop = .returned t) :
    (∃ reason, EndsWith (dispatches settings (start settings files) moves) reason) ∨
      Ordinary (dispatches settings (start settings files) moves) := by
  cases course_run settings files moves with
  | commanded reason _ hissued => exact Or.inl ⟨reason, hissued⟩
  | broken _ hordinary => exact Or.inr hordinary
  | serving hplace =>
    rcases hplace with hplace | ⟨client, m, hplace⟩ <;> rw [h] at hplace <;> cases hplace
  | acting earlier hplace => rw [h] at hplace; cases hplace

/-- A daemon that has returned complains that there was no trigger only if there was none. -/
theorem not_warned (h : (run settings (start settings files) moves).loop = .returned t)
    (ht : t ≠ .listenerClosed) :
    .endedWithoutTrigger ∉ (run settings (start settings files) moves).journal := by
  intro hmem
  have hsaid :
      .endedWithoutTrigger ∈ farewells (run settings (start settings files) moves).journal :=
    List.mem_filter.mpr ⟨hmem, rfl⟩
  rw [farewells_run, h] at hsaid
  simp [farewell, ht] at hsaid

/-- **What a run returns**, whatever the clients, the surroundings and the two tasks of the daemon
    do and in whichever order: the signal if it had fired by the look that completes, else the
    request of the terminal command that was dispatched last, else the end of the accept loop. -/
theorem trigger_of_return (settings : Settings) (files : Filesystem) (moves : List Move)
    (t : Trigger) (h : (run settings (start settings files) moves).loop = .returned t) :
    Explained settings files moves t := by
  have hstopped := ((mode_run settings files moves).of_returned h).1
  obtain ⟨look, hlook⟩ := stopped_completes hstopped
  have hfired : ∀ before, Completes settings files before moves → ∀ name,
      (run settings (start settings files) before).lifecycle.signal = .fired name ↔
        signalled before = some name := by
    intro before hc name
    rw [signal_run ((ready_iff _).mp hc.ready).1, sighted_eq_fired_iff]
  constructor
  case completed => exact ⟨look, hlook, fun other hother => hlook.unique hother⟩
  case fired_iff => exact hfired
  case external_iff =>
    intro before hc name
    rw [hfired before hc name]
    rcases trigger_cases hc hstopped with ⟨name', hpast, rfl⟩ | ⟨hpast, reason, rfl, -⟩ |
      ⟨hpast, rfl, -⟩
    · rw [hpast, Trigger.external.injEq, Option.some.injEq]
    · rw [hpast]
      exact iff_of_false nofun nofun
    · rw [hpast]
      exact iff_of_false nofun nofun
  case requested_iff =>
    intro before hc hnone reason
    rcases trigger_cases hc hstopped with ⟨name, hpast, -⟩ | ⟨-, reason', rfl, hends⟩ |
      ⟨-, rfl, hordinary, -⟩
    · rw [hnone] at hpast
      cases hpast
    · constructor
      · intro heq
        obtain ⟨earlier, client, command, hissued, -, hterminal, hname⟩ := hends
        refine ⟨(client, command), ?_, hterminal, hname.trans (Trigger.requested.inj heq)⟩
        rw [hissued]
        exact List.mem_append_right earlier List.mem_cons_self
      · rintro ⟨⟨client, command⟩, hmem, hterminal, rfl⟩
        rw [(hends.eq_of_mem hmem hterminal).1]
    · exact iff_of_false nofun fun ⟨entry, hmem, hterminal, _⟩ => hordinary.ne hmem hterminal
  case closed_iff =>
    intro before hc hnone
    rcases trigger_cases hc hstopped with ⟨name, hpast, -⟩ | ⟨-, reason, rfl, hends⟩ |
      ⟨-, rfl, hordinary, -⟩
    · rw [hnone] at hpast
      cases hpast
    · obtain ⟨earlier, client, command, hissued, -, hterminal, -⟩ := hends
      refine iff_of_false nofun fun hordinary => ?_
      have hmem : (client, command) ∈ dispatches settings (start settings files) moves := by
        rw [hissued]
        exact List.mem_append_right earlier List.mem_cons_self
      exact hordinary.ne hmem hterminal
    · exact iff_of_true rfl hordinary
  case failed =>
    rintro rfl
    rcases trigger_cases hlook hstopped with ⟨name, -, heq⟩ | ⟨-, reason, heq, -⟩ |
      ⟨-, -, -, hfailed⟩
    · cases heq
    · cases heq
    · exact hfailed
  case last =>
    intro client command hmem hterminal
    rcases endsWith_or_ordinary h with ⟨reason, hends⟩ | hordinary
    · exact (hends.eq_of_mem hmem hterminal).2
    · exact absurd hterminal (hordinary.ne hmem)
  case never =>
    intro entry hmem hterminal
    have hsome : t ≠ .listenerClosed := by
      rintro rfl
      rcases trigger_cases hlook hstopped with ⟨name, -, heq⟩ | ⟨-, reason, heq, -⟩ |
        ⟨-, -, hordinary, -⟩
      · cases heq
      · cases heq
      · exact hordinary.ne hmem hterminal
    exact ⟨hsome, not_warned h hsome⟩

/-- A client asks for a reboot, and the accept loop has ended before the supervisor looks: the run
    returns the request. -/
theorem trigger_of_return_reboot :
    let settings : Settings := ⟨.ofString "s", none, .recording []⟩
    let moves : List Move :=
      [.connect (.ofString "s"), .write 0 (Utf8.encode "dothereboot"), .close 0 .endOfStream,
        .pollLoop, .pollLoop, .pollLoop, .pollLoop, .pollLoop, .pollSupervisor, .pollLoop]
    (run settings (start settings .blank) moves).loop = .returned (.requested "reboot") ∧
      Explained settings .blank moves (.requested "reboot") := by
  intro settings moves
  let place : Location := Utf8.encode "s" :: Filesystem.blank.workingDirectory
  let made : Filesystem := Filesystem.blank.put place (some (.socket socketNumber))
  have hnamed : Filesystem.blank.entry? settings.path = .ok (.named place) :=
    Filesystem.entry_of_single (by decide) ⟨by decide, by decide, by decide⟩ (by decide)
  have hnode : Filesystem.blank.node place = none := by decide
  have hstart := start_of_bound
    (Listener.bind_of_none hnamed hnode (by decide) (by decide) (by decide))
  have hreached :
      Listener.connect ⟨settings.path, socketNumber, true⟩ made settings.path = .ok () :=
    Listener.connect_of_none hnamed hnode (by decide) (by decide) (by decide)
  have hended : (run settings (start settings .blank) moves.dropLast).loop = .ended ∧
      (run settings (start settings .blank) moves.dropLast).lifecycle.trigger? =
        some (.requested "reboot") := by
    rw [show moves.dropLast = .connect settings.path :: moves.tail.dropLast from rfl, run_cons,
      hstart, step_connect settings rfl hreached]
    decide +kernel
  have h : (run settings (start settings .blank) moves).loop = .returned (.requested "reboot") := by
    rw [show moves = moves.dropLast ++ [.pollLoop] from rfl, run_snoc]
    exact loop_of_ended settings hended.1 hended.2
  exact ⟨h, trigger_of_return settings .blank moves (.requested "reboot") h⟩

end Steward.Daemon
