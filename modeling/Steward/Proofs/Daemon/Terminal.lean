import Steward.Proofs.Daemon.Turn

/-!
# A terminal command is the last thing the daemon does

Powering off and rebooting are asked for by two commands, and after either of them the accept loop
asks for the teardown in the name of the command and ends, whether or not the action succeeded.

* `Stage` -- the INVARIANT on every state of a run: which terminal calls were made and which
  teardowns were asked for, at each place of the accept loop.
* `Spent` -- the places from which no call is made and no connection is taken up any more;
  `spent_run` keeps a run there.
* `terminal_call_is_last` -- at most one terminal call is made, nothing follows it but its own
  teardown, and that is asked for once.
-/

namespace Steward

/-- The command that an action is the end of, by its name. -/
def Action.teardown? : Action → Option String
  | .powerOff => some Command.shutdown.name
  | .reboot => some Command.reboot.name
  | _ => none

/-- The last action of a terminal command is the only one, and belongs to that command; no other
    command has a terminal action. -/
theorem agenda_of_request? (c : Command) :
    (c.request? = none ∧ ∀ a ∈ c.agenda, a.teardown? = none) ∨
      ∃ reason action, c.request? = some reason ∧ c.agenda = [action] ∧
        action.teardown? = some reason := by
  cases c with
  | shutdown => exact Or.inr ⟨_, _, rfl, rfl, rfl⟩
  | reboot => exact Or.inr ⟨_, _, rfl, rfl, rfl⟩
  | serviceRestart => exact Or.inl ⟨rfl, by simp [Command.agenda, Action.teardown?]⟩
  | servicePull => exact Or.inl ⟨rfl, by simp [Command.agenda, Action.teardown?]⟩
  | timeSync timestamp =>
    refine Or.inl ⟨rfl, ?_⟩
    simp only [Command.agenda]
    split <;> simp [Action.teardown?]
  | unrecognized raw => exact Or.inl ⟨rfl, nofun⟩

namespace Daemon

/-! ## 1. Terminal calls and requests -/

/-- The terminal calls that were made, whatever came of them, by the names of their commands. -/
def terminals (d : Daemon) : List String := d.attempts.filterMap fun a => a.action.teardown?

/-- The teardowns that commands asked for. -/
def requested (d : Daemon) : List String := d.journal.filterMap Event.answered?

/-- **How far a command is**, by the terminal calls that were made and by its agenda: an ordinary
    one makes none; a terminal one makes its call or has made it, and then its agenda is done. -/
inductive Progress (command : Command) (made : List String) : List Action → Prop
  | ordinary {agenda : List Action} (hordinary : command.request? = none)
      (hagenda : ∀ a ∈ agenda, a.teardown? = none) (hmade : made = []) :
      Progress command made agenda
  | before {action : Action} {reason : String} (hlast : command.request? = some reason)
      (haction : action.teardown? = some reason) (hmade : made = []) :
      Progress command made [action]
  | after {reason : String} (hlast : command.request? = some reason) (hmade : made = [reason]) :
      Progress command made []

/-- **Terminal calls and requests at each place of the accept loop.** -/
def Stage (made asked : List String) : Loop → Prop
  | .selecting | .reading .. | .refused _ => made = [] ∧ asked = []
  | .acting _ command agenda => Progress command made agenda ∧ asked = []
  | .ended | .returned _ => asked = made ∧ made.length ≤ 1

theorem progress_agenda (c : Command) : Progress c [] c.agenda := by
  rcases agenda_of_request? c with ⟨hordinary, hagenda⟩ | ⟨reason, action, hlast, hagenda, haction⟩
  · exact .ordinary hordinary hagenda rfl
  · rw [hagenda]
    exact .before hlast haction rfl

theorem Progress.call {command : Command} {made : List String} {action : Action}
    {agenda : List Action} (h : Progress command made (action :: agenda)) (done : Bool) :
    Progress command (made ++ action.teardown?.toList) (if done then agenda else []) := by
  cases h with
  | ordinary hordinary hagenda hmade =>
    have haction : action.teardown? = none := hagenda action List.mem_cons_self
    rw [haction, hmade]
    refine .ordinary hordinary ?_ rfl
    split
    · exact fun a ha => hagenda a (List.mem_cons_of_mem _ ha)
    · exact nofun
  | before hlast haction hmade =>
    rw [haction, hmade, ite_self]
    exact .after hlast rfl

/-- When the agenda is done, the terminal calls are what the command asks the teardown for. -/
theorem Progress.done {command : Command} {made : List String} (h : Progress command made []) :
    made = command.request?.toList := by
  cases h with
  | ordinary hordinary _ hmade => rw [hmade, hordinary]; rfl
  | after hlast hmade => rw [hmade, hlast]; rfl

/-! ## 2. What a move keeps -/

/-- Events that answer nothing leave what was asked for as it is. -/
theorem requested_eq {d d' : Daemon} {later : List Event}
    (hjournal : d'.journal = d.journal ++ later)
    (hnone : later.filterMap Event.answered? = []) : d'.requested = d.requested := by
  unfold requested
  rw [hjournal, List.filterMap_append, hnone, List.append_nil]

theorem ReadToEnd.answered {d : Daemon} {client : Nat} {m : Message} {c : Connection}
    {noted : List Event} (h : ReadToEnd d client m c noted) :
    noted.filterMap Event.answered? = [] := by
  rcases h.noted with rfl | ⟨error, rfl⟩ <;> rfl

theorem answered_opening (message : String) :
    (opening message).filterMap Event.answered? = [] := by
  unfold opening
  rw [List.filterMap_cons_none rfl, (quiet_remarks _).answered]

/-- **Every turn of the accept loop keeps the invariant.** -/
theorem stage_turn {settings : Settings} {d d' : Daemon} {new : List (Nat × Attempt)}
    (h : Stage d.terminals d.requested d.loop) (ht : Turn settings d new d') :
    Stage d'.terminals d'.requested d'.loop := by
  cases ht with
  | wait notified hidle => exact h
  | stop e hloop he =>
    rw [hloop] at h
    obtain ⟨hmade, hasked⟩ := h
    have hstays : (d.log [e]).requested = d.requested := by
      refine requested_eq rfl ?_
      rcases he with rfl | rfl <;> rfl
    exact ⟨(hstays.trans hasked).trans hmade.symm, hmade ▸ Nat.zero_le 1⟩
  | accept client hloop hnext =>
    rw [hloop] at h
    exact ⟨h.1, (requested_eq rfl rfl).trans h.2⟩
  | chunk hloop hc hchunk hsome =>
    rw [hloop] at h
    exact ⟨h.1, (requested_eq rfl rfl).trans h.2⟩
  | reject hend hover =>
    rw [hend.loop] at h
    refine ⟨h.1, (requested_eq (List.append_assoc _ _ _) ?_).trans h.2⟩
    rw [List.filterMap_append, hend.answered]
    rfl
  | @dispatch client m c noted hend hfits =>
    rw [hend.loop] at h
    obtain ⟨hmade, hasked⟩ := h
    refine ⟨?_, (requested_eq (List.append_assoc _ _ _) ?_).trans hasked⟩
    · have hprogress := progress_agenda (Command.parse m.text)
      rwa [← hmade] at hprogress
    · rw [List.filterMap_append, hend.answered, answered_opening]
      rfl
  | @call client command action rest a hloop ha =>
    rw [hloop] at h
    obtain ⟨hprogress, hasked⟩ := h
    refine ⟨?_, (requested_eq rfl (quiet_account settings.host a).answered).trans hasked⟩
    -- whether the call succeeded is of no account
    have hcall := hprogress.call a.succeeded
    have haction : a.action = action := by rw [ha]; rfl
    rw [← haction] at hcall
    unfold terminals at hcall ⊢
    rw [List.filterMap_append]
    cases hteardown : a.action.teardown? with
    | none => simpa [hteardown] using hcall
    | some reason => simpa [hteardown] using hcall
  | leave hloop hordinary =>
    rw [hloop] at h
    obtain ⟨hprogress, hasked⟩ := h
    have hmade := hprogress.done
    rw [hordinary] at hmade
    exact ⟨hmade, hasked⟩
  | @terminate client command reason hloop hlast =>
    rw [hloop] at h
    obtain ⟨hprogress, hasked⟩ := h
    have hmade := hprogress.done
    rw [hlast] at hmade
    have hnew : (d.journal ++ ((d.lifecycle.request reason).2 ++
        [Event.listenerClosedAfterTerminal])).filterMap Event.answered? = [reason] := by
      unfold requested at hasked
      rw [List.filterMap_append, List.filterMap_append, hasked, answered_request]
      rfl
    exact ⟨hnew.trans hmade.symm, hmade ▸ Nat.le_refl 1⟩
  | wrapUp t hloop ht =>
    rw [hloop] at h
    obtain ⟨hasked, hone⟩ := h
    obtain ⟨later, hjournal, hquiet⟩ := quiet_wrapUp d t
    exact ⟨(requested_eq hjournal hquiet.answered).trans hasked, hone⟩

theorem stage_grows {d d' : Daemon} (h : Stage d.terminals d.requested d.loop)
    (hg : Grows d d') : Stage d'.terminals d'.requested d'.loop := by
  obtain ⟨later, hjournal, hquiet⟩ := hg.journal
  have hmade : d'.terminals = d.terminals := by
    unfold terminals
    rw [hg.attempts]
  rw [hg.loop, hmade, requested_eq hjournal hquiet.answered]
  exact h

/-- **Every state that moves lead to is at its stage.** -/
theorem stage_run (settings : Settings) (files : Filesystem) (moves : List Move) :
    let d := run settings (start settings files) moves
    Stage d.terminals d.requested d.loop := by
  induction moves using List.reverseRecOn with
  | nil =>
    have hbound := (quiet_bind files socketNumber settings.path).answered
    simp only [run, List.foldl_nil]
    unfold start
    dsimp only
    split <;> exact ⟨rfl, hbound⟩
  | append_singleton moves m ih =>
    simp only [run_snoc]
    rcases step_cases settings (run settings (start settings files) moves) m with ht | ⟨-, hg⟩
    · exact stage_turn ih ht
    · exact stage_grows ih hg

/-! ## 3. Nothing more is done -/

/-- **The places from which no call is made and no connection is taken up any more**: behind a
    terminal command, and behind the end of the accept loop. -/
inductive Spent : Loop → Prop
  | acted {client : Nat} {command : Command} {reason : String}
      (hlast : command.request? = some reason) : Spent (.acting client command [])
  | ended : Spent .ended
  | returned (t : Trigger) : Spent (.returned t)

/-- **From one state to a later one nothing was done for a client**: no call was made, no connection
    was accepted or read, and no message was judged. -/
structure Idled (d d' : Daemon) : Prop where
  attempts : d'.attempts = d.attempts
  journal : ∃ later, d'.journal = d.journal ++ later ∧ ∀ e ∈ later, e.concern ≠ .connection
  /-- What has been accepted or read by now already had been. -/
  connections : ∀ (client : Nat) (c' : Connection), d'.connections[client]? = some c' →
    c'.standing = .accepted ∨ c'.standing = .closed →
    ∃ c, d.connections[client]? = some c ∧ c.standing = c'.standing

theorem Idled.of_connections_eq {d d' : Daemon} {later : List Event}
    (hattempts : d'.attempts = d.attempts) (hjournal : d'.journal = d.journal ++ later)
    (hapart : ∀ e ∈ later, e.concern ≠ .connection)
    (hconnections : d'.connections = d.connections) : Idled d d' where
  attempts := hattempts
  journal := ⟨later, hjournal, hapart⟩
  connections _ c' hc' _ := ⟨c', hconnections ▸ hc', rfl⟩

theorem Idled.refl (d : Daemon) : Idled d d :=
  .of_connections_eq rfl (List.append_nil _).symm Quiet.nil.apart rfl

theorem Idled.trans {d d' d'' : Daemon} (h : Idled d d') (h' : Idled d' d'') : Idled d d'' := by
  obtain ⟨later, hjournal, hapart⟩ := h.journal
  obtain ⟨later', hjournal', hapart'⟩ := h'.journal
  refine ⟨h'.attempts.trans h.attempts, ⟨later ++ later', ?_, fun e he => ?_⟩, ?_⟩
  · rw [hjournal', hjournal, List.append_assoc]
  · rcases List.mem_append.mp he with he | he
    · exact hapart e he
    · exact hapart' e he
  · intro client c'' hc'' htaken
    obtain ⟨c', hc', hsame'⟩ := h'.connections client c'' hc'' htaken
    obtain ⟨c, hc, hsame⟩ := h.connections client c' hc' (hsame' ▸ htaken)
    exact ⟨c, hc, hsame.trans hsame'⟩

/-- A connection that has grown, or is new, is accepted or read only if it was before. -/
theorem taken_of_grown {cs grown fresh : List Connection} (h : List.Forall₂ Grown cs grown)
    (hfresh : ∀ c ∈ fresh, c = .fresh) {client : Nat} {c' : Connection}
    (hc' : (grown ++ fresh)[client]? = some c')
    (htaken : c'.standing = .accepted ∨ c'.standing = .closed) :
    ∃ c, cs[client]? = some c ∧ c.standing = c'.standing := by
  induction h generalizing client with
  | nil =>
    rw [hfresh c' (List.mem_of_getElem? hc')] at htaken
    rcases htaken with htaken | htaken <;> cases htaken
  | @cons c b cs grown hc _ ih =>
    cases client with
    | zero =>
      obtain rfl : b = c' := Option.some.inj hc'
      exact ⟨c, rfl, hc.standing.symm⟩
    | succ client => exact ih hc'

theorem Grows.idled {d d' : Daemon} (h : Grows d d') : Idled d d' := by
  obtain ⟨later, hjournal, hquiet⟩ := h.journal
  obtain ⟨grown, fresh, hconnections, hgrown, hfresh⟩ := h.connections
  refine ⟨h.attempts, ⟨later, hjournal, hquiet.apart⟩, fun client c' hc' htaken => ?_⟩
  rw [hconnections] at hc'
  exact taken_of_grown hgrown hfresh hc' htaken

theorem wrapUp_idled (d : Daemon) (t : Trigger) : Idled d (d.wrapUp t) := by
  obtain ⟨later, hjournal, hquiet⟩ := quiet_wrapUp d t
  refine ⟨rfl, ⟨later, hjournal, hquiet.apart⟩, fun client c' hc' htaken => ?_⟩
  rw [wrapUp_connections, List.getElem?_map] at hc'
  obtain ⟨c, hc, rfl⟩ := Option.map_eq_some_iff.mp hc'
  by_cases hqueued : c.standing = .queued
  · rw [if_pos hqueued] at htaken
    rcases htaken with htaken | htaken <;> cases htaken
  · rw [if_neg hqueued]
    exact ⟨c, hc, rfl⟩

/-- **A turn from such a place leads to such a place**, and does nothing for a client. -/
theorem spent_turn {settings : Settings} {d d' : Daemon} {new : List (Nat × Attempt)}
    (h : Spent d.loop) (ht : Turn settings d new d') : Spent d'.loop ∧ Idled d d' := by
  cases ht with
  | wait notified hidle =>
    exact ⟨h, .of_connections_eq rfl (List.append_nil _).symm Quiet.nil.apart rfl⟩
  | @terminate client command reason hloop hlast =>
    refine ⟨.ended, .of_connections_eq rfl rfl (fun e he => ?_) rfl⟩
    rcases List.mem_append.mp he with he | he
    · exact apart_request d.lifecycle reason e he
    · rw [List.mem_singleton.mp he]
      exact nofun
  | wrapUp t hloop ht => exact ⟨.returned t, wrapUp_idled d t⟩
  | leave hloop hordinary =>
    -- only an ordinary command lets the loop go on
    rw [hloop] at h
    cases h with
    | acted hlast => rw [hordinary] at hlast; cases hlast
  | stop e hloop he => rw [hloop] at h; cases h
  | accept client hloop hnext => rw [hloop] at h; cases h
  | chunk hloop hc hchunk hsome => rw [hloop] at h; cases h
  | reject hend hover => rw [hend.loop] at h; cases h
  | dispatch hend hfits => rw [hend.loop] at h; cases h
  | call hloop ha => rw [hloop] at h; cases h

theorem spent_run {settings : Settings} {d : Daemon} (h : Spent d.loop) (moves : List Move) :
    Spent (run settings d moves).loop ∧ Idled d (run settings d moves) := by
  induction moves using List.reverseRecOn with
  | nil => exact ⟨h, .refl d⟩
  | append_singleton moves m ih =>
    obtain ⟨hspent, hidled⟩ := ih
    rw [run_snoc]
    rcases step_cases settings (run settings d moves) m with ht | ⟨-, hg⟩
    · obtain ⟨hnext, hstep⟩ := spent_turn hspent ht
      exact ⟨hnext, hidled.trans hstep⟩
    · exact ⟨hg.loop ▸ hspent, hidled.trans hg.idled⟩

/-- Once a terminal call was made, the accept loop is at such a place. -/
theorem Stage.spent {made asked : List String} {loop : Loop} (h : Stage made asked loop)
    (hmade : made ≠ []) : made.length ≤ 1 ∧ Spent loop := by
  cases loop with
  | selecting => exact absurd h.1 hmade
  | reading client m => exact absurd h.1 hmade
  | refused failure => exact absurd h.1 hmade
  | ended => exact ⟨h.2, .ended⟩
  | returned t => exact ⟨h.2, .returned t⟩
  | acting client command agenda =>
    cases h.1 with
    | ordinary _ _ hnone => exact absurd hnone hmade
    | before _ _ hnone => exact absurd hnone hmade
    | after hlast hone => exact ⟨hone ▸ Nat.le_refl 1, .acted hlast⟩

/-- **A terminal command is the last thing the daemon does.** Whatever the clients, the surroundings
    and the daemon's two tasks do and in whichever order, and however the calls go:
    at most one call is made that powers off or reboots;
    from the state in which it was made on, no call is made, no connection is accepted or read, and
    no message is judged;
    and when the accept loop has ended behind it, the teardown was asked for once in the whole run,
    in the name of the command that made the call; before that it was not asked for at all. -/
theorem terminal_call_is_last (settings : Settings) (files : Filesystem)
    (before after : List Move) :
    let d := run settings (start settings files) before
    d.terminals.length ≤ 1 ∧
      (d.terminals ≠ [] → Idled d (run settings d after)) ∧
      (d.loop = .ended ∨ (∃ t, d.loop = .returned t) → d.requested = d.terminals) ∧
      (¬(d.loop = .ended ∨ ∃ t, d.loop = .returned t) → d.requested = []) := by
  intro d
  have h : Stage d.terminals d.requested d.loop := stage_run settings files before
  refine ⟨?_, fun hmade => (spent_run (h.spent hmade).2 after).2, fun hover => ?_, fun hgoing => ?_⟩
  · by_cases hmade : d.terminals = []
    · rw [hmade]
      exact Nat.zero_le 1
    · exact (h.spent hmade).1
  · rcases hover with hloop | ⟨t, hloop⟩ <;> rw [hloop] at h <;> exact h.1
  · cases hloop : d.loop with
    | ended => exact absurd (Or.inl hloop) hgoing
    | returned t => exact absurd (Or.inr ⟨t, hloop⟩) hgoing
    | selecting => rw [hloop] at h; exact h.2
    | reading client m => rw [hloop] at h; exact h.2
    | acting client command agenda => rw [hloop] at h; exact h.2
    | refused failure => rw [hloop] at h; exact h.2

end Daemon

end Steward
