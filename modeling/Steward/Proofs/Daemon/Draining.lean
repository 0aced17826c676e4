import Steward.Proofs.Daemon.Share

/-!
# Draining: the connection in hand is finished, and nothing else

When the supervisor stops, the accept loop may be anywhere: between two connections, in the middle
of a message, or at an action, with more clients waiting behind. What it has in hand it finishes, as
if nothing had stopped; what it has not taken up by then it never takes up.

* `Finished` -- what was made of a connection that was taken up: it was dispatched by all that its
  client wrote, and its calls are those of `dispatch`.
* `files_run` -- as long as the daemon has not returned, it leaves the file system alone.
* `shut_run` -- the listener is shut once the phase has left the first one, and nobody connects to
  it.
* `drains` -- what holds of a run from any state of it on, wherever the loop was in that state.
-/

namespace Steward.Daemon

variable {settings : Settings} {files : Filesystem} {moves : List Move} {client : Nat}
  {c : Connection} {d : Daemon}

/-! ## 1. Finished connections -/

/-- **What was made of a connection in a run**: it was read to its end and closed, its message was
    dispatched as all that its client wrote, and the calls for it are those of `dispatch`, after the
    calls for the connections before it. -/
structure Finished (settings : Settings) (files : Filesystem) (moves : List Move) (client : Nat)
    (c : Connection) : Prop where
  here : (run settings (start settings files) moves).connections[client]? = some c
  closed : c.standing = .closed
  ended : c.ending.isSome = true
  left : (run settings (start settings files) moves).loop.client? ≠ some client
  dispatched : entriesOf client (dispatches settings (start settings files) moves) =
    dispatched settings.limit client c
  called : entriesOf client (calls settings (start settings files) moves) =
    (contribution settings
      (((calls settings (start settings files) moves).filter fun call => call.1 < client).map (·.2))
      c).map (client, ·)

/-- **A connection that was taken up and that the loop has left is finished.** -/
theorem Away.finished (h : Away client c (run settings (start settings files) moves)) :
    Finished settings files moves client c := by
  obtain ⟨served, rest, haccount⟩ := account_run settings files moves
  have hserved : c ∈ served := List.mem_of_getElem? (haccount.served_of_away h)
  exact
    { here := h.here
      closed := (haccount.closed c hserved).1
      ended := (haccount.closed c hserved).2
      left := h.elsewhere
      dispatched := by
        rw [entriesOf_dispatches]
        unfold dispatchedFor
        rw [h.here]
        rfl
      called := haccount.entriesOf_calls h }

/-- Nothing is dispatched and no call is made for a connection that was not taken up. -/
theorem untaken_idle (settings : Settings) (files : Filesystem) (moves : List Move)
    (huntaken : ∀ c, (run settings (start settings files) moves).connections[client]? = some c →
      ¬c.Taken) :
    entriesOf client (calls settings (start settings files) moves) = [] ∧
      entriesOf client (dispatches settings (start settings files) moves) = [] := by
  obtain ⟨served, rest, h⟩ := account_run settings files moves
  constructor
  · refine entriesOf_eq_nil fun call hcall => ?_
    rintro rfl
    obtain ⟨c, hc, hclosed⟩ := h.closed_of_call hcall
    exact huntaken c hc (Or.inr hclosed)
  · rw [entriesOf_dispatches]
    unfold dispatchedFor
    cases hc : (run settings (start settings files) moves).connections[client]? with
    | none => rfl
    | some c => exact dispatched_of_ne client fun hclosed => huntaken c hc (Or.inr hclosed)

/-! ## 2. The entry at the path -/

/-- What somebody else than the daemon makes of the file system. -/
def Move.swap : Move → Filesystem → Filesystem
  | .replace path node, fs => fs.replace path node
  | _, fs => fs

/-- A turn of the accept loop leaves the file system alone, unless the daemon returns. -/
theorem files_turn {d' : Daemon} {new : List (Nat × Attempt)} (ht : Turn settings d new d')
    (hgoing : ∀ t, d'.loop ≠ .returned t) : d'.files = d.files := by
  cases ht with
  | wrapUp t hloop ht => exact absurd rfl (hgoing t)
  | _ => rfl

theorem files_step (settings : Settings) (d : Daemon) (m : Move)
    (hgoing : ∀ t, (step settings d m).loop ≠ .returned t) :
    (step settings d m).files = m.swap d.files := by
  cases m with
  | pollLoop => exact files_turn (pollLoop_turn settings d) hgoing
  | connect path => exact (connect_keeps settings d path).2.2.2
  | write other bytes => exact (write_keeps settings d other bytes).2.2.2
  | pollSupervisor => rfl
  | close other how => rfl
  | signal name => rfl
  | descriptors available => rfl
  | replace path node => rfl

/-- **As long as the daemon has not returned, only others change the file system.** -/
theorem files_run (settings : Settings) (files : Filesystem) (moves : List Move)
    (hgoing : ∀ t, (run settings (start settings files) moves).loop ≠ .returned t) :
    (run settings (start settings files) moves).files =
      moves.foldl (fun fs m => m.swap fs) (start settings files).files := by
  induction moves using List.reverseRecOn with
  | nil => rfl
  | append_singleton moves m ih =>
    rw [run_snoc] at hgoing ⊢
    have hbefore : ∀ t, (run settings (start settings files) moves).loop ≠ .returned t :=
      fun t hreturned => hgoing t (returned_step settings _ m hreturned)
    rw [files_step settings _ m hgoing, ih hbefore, List.foldl_append]
    rfl

/-! ## 3. Refused connections -/

/-- The listener stays shut once the phase has left the first one. -/
theorem shut_run (settings : Settings) (files : Filesystem) (before after : List Move)
    (hphase : (run settings (start settings files) before).lifecycle.phase ≠ .running) :
    (run settings (start settings files) (before ++ after)).listener.isOpen = false := by
  obtain ⟨t, hstopped⟩ := (mode_run settings files before).phase_ne_running_iff.mp hphase
  have hstill : (run settings (start settings files) (before ++ after)).lifecycle.supervisor =
      .stopped t := by
    rw [run_append]
    exact keeps_run (stopped_step settings) hstopped after
  exact ((mode_run settings files (before ++ after)).of_stopped hstill).1

/-! ## 4. Draining -/

/-- A connection in hand is taken up. -/
theorem taken_of_hand (settings : Settings) (files : Filesystem) (moves : List Move)
    (hhand : (run settings (start settings files) moves).loop.client? = some client) :
    ∃ c, (run settings (start settings files) moves).connections[client]? = some c ∧ c.Taken := by
  obtain ⟨served, rest, h⟩ := account_run settings files moves
  exact h.inHand hhand

/-- A connection that is taken up stays so. -/
theorem taken_stays (settings : Settings) (files : Filesystem) (before after : List Move)
    (hhand : (run settings (start settings files) before).loop.client? = some client)
    (hc : (run settings (start settings files) (before ++ after)).connections[client]? = some c) :
    c.Taken := by
  obtain ⟨b, hb, htaken⟩ := taken_of_hand settings files before hhand
  have halike : Alike client (run settings (start settings files) before)
      (run settings (start settings files) before) := .inHand b htaken hb hb hhand rfl rfl
  rw [run_append] at hc
  cases (alike_run settings halike after).1 with
  | inHand b' htaken' hb' => exact Option.some.inj (hb'.symm.trans hc) ▸ htaken'
  | away b' hb' => exact Option.some.inj (hb'.here.symm.trans hc) ▸ hb'.taken

/-- **What holds of a run from a state `d` of it on**, to which the moves `before` lead: after any more
    moves it is in the state `d'`. The trigger may be among the ones or the others. -/
structure Drains (settings : Settings) (files : Filesystem) (before after : List Move)
    (d d' : Daemon) : Prop where
  /-- Whatever was taken up was so by a turn of the accept loop, and the token was not cancelled
      then. -/
  accepted : ∀ client c, d'.connections[client]? = some c → c.Taken →
    ∃ first rest, before ++ after = first ++ .pollLoop :: rest ∧
      (run settings (start settings files) (first ++ [.pollLoop])).loop = .reading client .empty ∧
      (run settings (start settings files) (first ++ [.pollLoop])).lifecycle.cancelled = false
  /-- Once the phase has left the first one, nobody connects any more. -/
  refused : d.lifecycle.phase ≠ .running → ∀ path, ∃ e, d'.connect path = .error e ∧
    (d'.descriptors = true → ∀ number, d'.files.connect path = .ok number → e = .connectionRefused)
  /-- A connection in hand fares as it does with any other moves in which its own client and the
      accept loop do the same: so it does when the signals and the looks of the supervisor are left
      out. -/
  undisturbed : ∀ client, d.loop.client? = some client →
    ∀ other, after.filter (·.concerns client) = other.filter (·.concerns client) →
      d'.connections[client]? =
          (run settings (start settings files) (before ++ other)).connections[client]? ∧
        entriesOf client (calls settings (start settings files) (before ++ after)) =
          entriesOf client (calls settings (start settings files) (before ++ other)) ∧
        entriesOf client (dispatches settings (start settings files) (before ++ after)) =
          entriesOf client (dispatches settings (start settings files) (before ++ other))
  /-- It is finished with all that was written to it, before and after, when its stream has ended
      and the accept loop has taken enough turns since. -/
  finished : ∀ client, d.loop.client? = some client →
    ∀ c, d'.connections[client]? = some c → c.ending.isSome = true →
    ∀ more : List Move,
      (d'.loop.client? = some client → remaining c d'.loop ≤ more.countP Move.polls) →
      Finished settings files (before ++ after ++ more) client { c with standing := .closed }
  /-- A connection that was not taken up when the token was cancelled, or not even made, is not
      taken up after that, and nothing is done for it. -/
  left_out : d.lifecycle.cancelled = true → ∀ client,
    (∀ c, d.connections[client]? = some c → ¬c.Taken) →
    (∀ c, d'.connections[client]? = some c → ¬c.Taken) ∧
      entriesOf client (calls settings (start settings files) (before ++ after)) = [] ∧
      entriesOf client (dispatches settings (start settings files) (before ++ after)) = []
  /-- Until it returns, the daemon leaves the entry at its path and all others alone, -/
  kept : (∀ t, d'.loop ≠ .returned t) →
    d'.files = (before ++ after).foldl (fun fs m => m.swap fs) (start settings files).files
  /-- and when it has returned, every connection that was taken up is finished. -/
  complete : ∀ t, d'.loop = .returned t → ∀ client c, d'.connections[client]? = some c → c.Taken →
    Finished settings files (before ++ after) client c

/-- **Draining finishes the connection in hand, and nothing else**, whatever the clients, the
    surroundings and the two tasks of the daemon do and in whichever order. -/
theorem drains (settings : Settings) (files : Filesystem) (before after : List Move) :
    Drains settings files before after (run settings (start settings files) before)
      (run settings (start settings files) (before ++ after)) := by
  constructor
  case accepted => exact fun client c hc htaken => taken_run settings files _ hc htaken
  case refused => exact fun hphase => refuses (shut_run settings files before after hphase)
  case undisturbed =>
    intro client hhand other hsame
    obtain ⟨c, hc, htaken⟩ := taken_of_hand settings files before hhand
    obtain ⟨hconnection, hcalls, hdispatches⟩ :=
      undisturbed settings (.inHand c htaken hc hc hhand rfl rfl) hsame
    simp only [run_append, calls_append, entriesOf_append, hconnection, hcalls, true_and]
    unfold dispatches at hdispatches ⊢
    rw [trace_append, trace_append, entriesOf_append, entriesOf_append, hdispatches]
  case finished =>
    intro client hhand c hc hended more henough
    have htaken : c.Taken := taken_stays settings files before after hhand hc
    obtain ⟨b, haway, hwritten, hending⟩ :=
      finishes settings more hc htaken hended henough
    rw [← run_append] at haway
    have hfinished : Finished settings files (before ++ after ++ more) client b := haway.finished
    have hb : b = { c with standing := .closed } := by
      have hclosed := hfinished.closed
      cases b
      simp_all
    rwa [← hb]
  case left_out =>
    intro hcancelled client huntaken
    have hstill := untaken_run settings files before after hcancelled huntaken
    exact ⟨hstill, untaken_idle settings files _ hstill⟩
  case kept => exact files_run settings files (before ++ after)
  case complete =>
    intro t hreturned client c hc htaken
    have haway : Away client c (run settings (start settings files) (before ++ after)) :=
      ⟨hc, htaken, by rw [hreturned]; exact nofun⟩
    exact haway.finished

/-- A client has written half of its message when the supervisor stops, and writes the rest of it
    after that: the whole message is carried out. -/
example :
    let settings : Settings := ⟨.ofString "s", none, .recording []⟩
    let moves : List Move :=
      [.connect (.ofString "s"), .write 0 (Utf8.encode "dothe"), .pollLoop, .pollLoop,
        .signal "SIGTERM", .pollSupervisor,
        .write 0 (Utf8.encode "shutdown"), .close 0 .endOfStream,
        .pollLoop, .pollLoop, .pollLoop]
    (run settings (start settings .blank) moves).attempts.map (·.action) = [.powerOff] := by
  cbv

end Steward.Daemon
