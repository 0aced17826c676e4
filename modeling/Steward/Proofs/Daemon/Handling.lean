import Steward.Proofs.Daemon.Mode

/-!
# A connection in hand

Once the accept loop has taken a connection up, what becomes of it is a matter of the loop and of
the connection's own client. Nobody else can hurry it, hold it up or change what it leads to: no
other client, no signal, no look of the supervisor.

* `Loop.client?` is the connection the loop is at, and `Move.concerns` tells which moves have to do
  with a connection.
* `Alike` -- two daemons do the same for a connection: both have it in hand at the same place, or
  both are done with it. `alike_run` leaves the moves out that do not concern the connection.
* `undisturbed` -- two runs with the same moves for a connection make the same of it, dispatch the
  same command and make the same calls.
* `finishes` -- once its stream has ended, a connection in hand is done with after as many turns of
  the loop as it has bytes, and four more.
-/

namespace Steward

/-- Whether the daemon has taken a connection up. -/
def Connection.Taken (c : Connection) : Prop := c.standing = .accepted ∨ c.standing = .closed

/-- The connection that the accept loop is at. -/
def Loop.client? : Loop → Option Nat
  | .reading client _ | .acting client _ _ => some client
  | _ => none

namespace Daemon

variable {settings : Settings} {client : Nat} {c : Connection} {d d' e : Daemon}

/-! ## 1. The moves of a connection -/

/-- Whether a move is one of the accept loop. -/
def Move.polls : Move → Bool
  | .pollLoop => true
  | _ => false

theorem eq_of_polls {m : Move} (h : m.polls = true) : m = .pollLoop := by
  cases m with
  | pollLoop => rfl
  | _ => cases h

/-- Whether a move has to do with a connection: its client makes it, or the accept loop. -/
def Move.concerns (client : Nat) : Move → Bool
  | .write other _ | .close other _ => other == client
  | .pollLoop => true
  | _ => false

/-- What a client's own move makes of its connection. -/
def Move.applyTo : Move → Connection → Connection
  | .write _ bytes, c =>
    if bytes.isEmpty then c
    else if (c.standing = .queued || c.standing = .accepted) && c.ending.isNone then
      { c with written := c.written ++ bytes }
    else c
  | .close _ how, c => { c with ending := some (c.ending.getD how) }
  | _, c => c

/-- A client's own move leaves it to the daemon how far it is with the connection. -/
theorem applyTo_standing (m : Move) (c : Connection) : (m.applyTo c).standing = c.standing := by
  unfold Move.applyTo
  split
  · split
    · rfl
    · split <;> rfl
  · rfl
  · rfl

/-- A stream that has ended takes no more of its client's moves. -/
theorem applyTo_of_ended (m : Move) (h : c.ending.isSome = true) : m.applyTo c = c := by
  obtain ⟨how, hhow⟩ := Option.isSome_iff_exists.mp h
  unfold Move.applyTo
  split
  · rw [hhow]
    simp
  · cases c
    simp_all
  · rfl

theorem getElem?_modify_self {cs : List Connection} (f : Connection → Connection)
    (hc : cs[client]? = some c) : (cs.modify client f)[client]? = some (f c) := by
  simp [hc]

theorem getElem?_modify_of_ne {cs : List Connection} {other : Nat} (f : Connection → Connection)
    (hne : other ≠ client) : (cs.modify other f)[client]? = cs[client]? := by
  simp [hne]

/-- What a move of somebody else's than the accept loop makes of a connection. -/
theorem connection_step (m : Move) (hpolls : m.polls = false)
    (hc : d.connections[client]? = some c) :
    (step settings d m).connections[client]? =
      some (if m.concerns client then m.applyTo c else c) := by
  have hlt : client < d.connections.length := (List.getElem?_eq_some_iff.mp hc).1
  cases m with
  | pollLoop => cases hpolls
  | pollSupervisor => exact hc
  | signal name => exact hc
  | descriptors available => exact hc
  | replace path node => exact hc
  | connect path =>
    simp only [step, connect, Move.concerns]
    split
    · exact hc
    split
    · exact hc
    · show (d.connections ++ [Connection.fresh])[client]? = some c
      rw [List.getElem?_append_left hlt, hc]
  | close other how =>
    simp only [step, close, Move.concerns]
    by_cases hother : other = client
    · rw [hother, getElem?_modify_self _ hc]
      simp [Move.applyTo]
    · rw [getElem?_modify_of_ne _ hother, hc]
      simp [hother]
  | write other bytes =>
    by_cases hother : other = client
    · subst hother
      simp only [step, write, hc, isOpen, Move.concerns, Move.applyTo, beq_self_eq_true, if_true]
      split
      · exact hc
      split
      · exact getElem?_modify_self _ hc
      · exact hc
    · have hsame : (step settings d (.write other bytes)).connections[client]? =
          d.connections[client]? := by
        simp only [step, write]
        split
        · rfl
        split
        · rfl
        split
        · exact getElem?_modify_of_ne _ hother
        · rfl
      simpa [Move.concerns, hother, hc] using hsame

/-- A move that is none of the accept loop's leaves the loop and the calls alone. -/
theorem grows_beside (settings : Settings) (d : Daemon) (m : Move) (hpolls : m.polls = false) :
    Grows d (step settings d m) := by
  cases m with
  | pollLoop => cases hpolls
  | pollSupervisor => exact pollSupervisor_grows d
  | connect path => exact (aside_connect settings d path).toGrows
  | write other bytes => exact (aside_write settings d other bytes).toGrows
  | close other how => exact close_grows d other how
  | signal name => exact (aside_signal settings d name).toGrows
  | descriptors available => exact .of_eq rfl rfl rfl rfl
  | replace path node => exact .of_eq rfl rfl rfl rfl

/-- Neither does it make a call or dispatch a command. -/
theorem unmoved_step (settings : Settings) (d : Daemon) (m : Move) (hpolls : m.polls = false) :
    (step settings d m).loop = d.loop ∧ (step settings d m).attempts = d.attempts ∧
      callsOf settings d m = [] ∧ dispatchOf settings d m = [] := by
  have hg : Grows d (step settings d m) := grows_beside settings d m hpolls
  have hcalls : callsOf settings d m = [] := by
    cases m with
    | pollLoop => cases hpolls
    | _ => rfl
  refine ⟨hg.loop, hg.attempts, hcalls, ?_⟩
  unfold dispatchOf
  rw [hg.loop]
  exact Loop.dispatched_self d.loop

/-! ## 2. The accept loop elsewhere -/

/-- The entries of a trace that are for one connection. -/
def entriesOf {α : Type} (client : Nat) (entries : List (Nat × α)) : List (Nat × α) :=
  entries.filter fun e => e.1 = client

@[simp] theorem entriesOf_append {α : Type} (client : Nat) (xs ys : List (Nat × α)) :
    entriesOf client (xs ++ ys) = entriesOf client xs ++ entriesOf client ys := by
  simp [entriesOf]

theorem entriesOf_eq_nil {α : Type} {entries : List (Nat × α)} (h : ∀ e ∈ entries, e.1 ≠ client) :
    entriesOf client entries = [] := by
  refine List.filter_eq_nil_iff.mpr fun e he => ?_
  simpa using h e he

theorem entriesOf_eq_self {α : Type} {entries : List (Nat × α)}
    (h : ∀ e ∈ entries, e.1 = client) : entriesOf client entries = entries :=
  List.filter_eq_self.mpr fun e he => decide_eq_true (h e he)

/-- The connection that is accepted next has been waiting. -/
theorem queued_of_next {k : Nat} (h : d.nextQueued? = some k) :
    ∃ c, d.connections[k]? = some c ∧ c.standing = .queued := by
  unfold nextQueued? at h
  obtain ⟨hlt, hqueued, -⟩ := List.findIdx?_eq_some_iff_getElem.mp h
  exact ⟨d.connections[k], List.getElem?_eq_getElem hlt, by simpa using hqueued⟩

/-- **The daemon has taken a connection up, and its loop is elsewhere.** -/
structure Away (client : Nat) (c : Connection) (d : Daemon) : Prop where
  here : d.connections[client]? = some c
  taken : c.Taken
  elsewhere : d.loop.client? ≠ some client

/-- A connection that the loop is not at is left as it is, and nothing is done for it. -/
theorem Away.turn {new : List (Nat × Attempt)} (h : Away client c d)
    (ht : Turn settings d new d') :
    Away client c d' ∧ entriesOf client new = [] ∧
      entriesOf client (Loop.dispatched d.loop d'.loop) = [] := by
  have hwaits : c.standing ≠ .queued := by
    rcases h.taken with hs | hs <;> rw [hs] <;> exact nofun
  -- the loop is at another connection, whose mark is not this one's
  have hmark : ∀ {other : Nat} (s : Standing) (events : List Event), other ≠ client →
      ((d.log events).mark other s).connections[client]? = some c := fun s events hne =>
    (getElem?_modify_of_ne _ hne).trans h.here
  have hother : ∀ {other : Nat}, d.loop.client? = some other → other ≠ client := by
    rintro other hloop rfl
    exact h.elsewhere hloop
  cases ht with
  | wait notified hidle =>
    exact ⟨⟨h.here, h.taken, h.elsewhere⟩, rfl, by rw [Loop.dispatched_self]; rfl⟩
  | stop e hloop he => exact ⟨⟨h.here, h.taken, nofun⟩, rfl, by rw [hloop]; rfl⟩
  | accept other hloop hnext =>
    obtain ⟨b, hb, hqueued⟩ := queued_of_next hnext
    have hne : other ≠ client := by
      rintro rfl
      rw [h.here] at hb
      exact hwaits (Option.some.inj hb ▸ hqueued)
    refine ⟨⟨?_, h.taken, ?_⟩, rfl, by rw [hloop]; rfl⟩
    · exact (getElem?_modify_of_ne _ hne).trans h.here
    · exact fun heq => hne (Option.some.inj heq)
  | @chunk other m b chunk hloop hb hchunk hsome =>
    have hne : other ≠ client := hother (by rw [hloop]; rfl)
    exact ⟨⟨h.here, h.taken, fun heq => hne (Option.some.inj heq)⟩, rfl, by rw [hloop]; rfl⟩
  | @reject other m b noted hend hover =>
    have hne : other ≠ client := hother (by rw [hend.loop]; rfl)
    exact ⟨⟨hmark .closed noted hne, h.taken, nofun⟩, rfl, by rw [hend.loop]; rfl⟩
  | @dispatch other m b noted hend hfits =>
    have hne : other ≠ client := hother (by rw [hend.loop]; rfl)
    refine ⟨⟨hmark .closed noted hne, h.taken, fun heq => hne (Option.some.inj heq)⟩, rfl, ?_⟩
    rw [hend.loop]
    exact entriesOf_eq_nil (by simpa [Loop.dispatched] using hne)
  | @call other command action rest a hloop ha =>
    have hne : other ≠ client := hother (by rw [hloop]; rfl)
    refine ⟨⟨h.here, h.taken, fun heq => hne (Option.some.inj heq)⟩, ?_, by rw [hloop]; rfl⟩
    exact entriesOf_eq_nil (by simpa using hne)
  | leave hloop hordinary => exact ⟨⟨h.here, h.taken, nofun⟩, rfl, by rw [hloop]; rfl⟩
  | terminate hloop hlast => exact ⟨⟨h.here, h.taken, nofun⟩, rfl, by rw [hloop]; rfl⟩
  | wrapUp t hloop ht =>
    refine ⟨⟨?_, h.taken, nofun⟩, rfl, by rw [hloop]; rfl⟩
    rw [wrapUp_connections, List.getElem?_map, h.here]
    simp [hwaits]

/-! ## 3. The accept loop at a connection -/

/-- **One read of a connection**: where the loop goes on from it, and what it makes of the
    connection. It looks at nothing else. -/
def afterRead (settings : Settings) (client : Nat) (m : Message) (c : Connection) :
    Loop × Connection :=
  match (c.written.drop m.received).take chunkBytes, c.ending with
  | [], none => (.reading client m, c)
  | [], some _ =>
    (if m.exceeded then .selecting
      else .acting client (Command.parse m.text) (Command.parse m.text).agenda,
      { c with standing := .closed })
  | chunk, _ => (.reading client (m.absorb settings.limit chunk), c)

/-- **One action for a command**: where the loop goes on from it, and the calls up to then. -/
def afterAct (settings : Settings) (client : Nat) (command : Command) (attempts : List Attempt) :
    List Action → Loop × List Attempt
  | [] => (if command.request?.isNone then .selecting else .ended, attempts)
  | action :: rest =>
    let a := settings.host.attempt attempts action
    (.acting client command (if a.succeeded then rest else []), attempts ++ [a])

theorem conclude_effect (settings : Settings) (m : Message) (hc : d.connections[client]? = some c) :
    (conclude settings d client m).loop =
        (if m.exceeded then .selecting
          else .acting client (Command.parse m.text) (Command.parse m.text).agenda) ∧
      (conclude settings d client m).connections[client]? = some { c with standing := .closed } ∧
      (conclude settings d client m).attempts = d.attempts := by
  have hclosed := getElem?_modify_self (fun c => { c with standing := .closed }) hc
  unfold conclude
  by_cases hover : m.exceeded = true
  · simp only [if_pos hover]
    exact ⟨trivial, hclosed, rfl⟩
  · simp only [if_neg hover]
    exact ⟨trivial, hclosed, rfl⟩

theorem readOnce_effect (settings : Settings) {m : Message} (hloop : d.loop = .reading client m)
    (hc : d.connections[client]? = some c) :
    (readOnce settings d client m).loop = (afterRead settings client m c).1 ∧
      (readOnce settings d client m).connections[client]? =
        some (afterRead settings client m c).2 ∧
      (readOnce settings d client m).attempts = d.attempts := by
  unfold readOnce afterRead
  simp only [hc]
  cases (c.written.drop m.received).take chunkBytes with
  | cons b bs => exact ⟨rfl, hc, rfl⟩
  | nil =>
    cases hending : c.ending with
    | none => exact ⟨hloop, hc, rfl⟩
    | some how =>
      cases how with
      | endOfStream =>
        obtain ⟨hl, hcon, hatt⟩ := conclude_effect settings m hc
        exact ⟨hl, by simpa [hending] using hcon, hatt⟩
      | failure error =>
        have hlogged : (d.log [.readFailed error m.received]).connections[client]? = some c := hc
        obtain ⟨hl, hcon, hatt⟩ := conclude_effect settings m hlogged
        exact ⟨hl, by simpa [hending] using hcon, hatt⟩

theorem act_effect (settings : Settings) (d : Daemon) (client : Nat) (command : Command)
    (agenda : List Action) :
    (act settings d client command agenda).loop =
        (afterAct settings client command d.attempts agenda).1 ∧
      (act settings d client command agenda).connections = d.connections ∧
      (act settings d client command agenda).attempts =
        (afterAct settings client command d.attempts agenda).2 := by
  cases agenda with
  | cons action rest => exact ⟨rfl, rfl, rfl⟩
  | nil =>
    simp only [act, afterAct]
    cases command.request? with
    | none => exact ⟨rfl, rfl, rfl⟩
    | some reason => exact ⟨rfl, rfl, rfl⟩

theorem afterRead_taken {m : Message} (htaken : c.Taken) :
    (afterRead settings client m c).2.Taken := by
  unfold afterRead
  split
  · exact htaken
  · exact Or.inr rfl
  · exact htaken

/-- **A turn of the loop at a connection** looks at the place of the loop, the connection and the
    calls so far, and at nothing else. -/
theorem pollLoop_of_hand (settings : Settings) (hhand : d.loop.client? = some client)
    (hc : d.connections[client]? = some c) (htaken : c.Taken) :
    ∃ loop attempts c', c'.Taken ∧ ∀ e : Daemon, e.loop = d.loop → e.attempts = d.attempts →
      e.connections[client]? = some c →
      (pollLoop settings e).loop = loop ∧ (pollLoop settings e).attempts = attempts ∧
        (pollLoop settings e).connections[client]? = some c' := by
  cases hloop : d.loop with
  | reading other m =>
    rw [hloop] at hhand
    obtain rfl : other = client := Option.some.inj hhand
    refine ⟨(afterRead settings other m c).1, d.attempts, (afterRead settings other m c).2,
      afterRead_taken htaken, fun e he hattempts hce => ?_⟩
    obtain ⟨hl, hcon, hatt⟩ := readOnce_effect settings he hce
    have hpoll : pollLoop settings e = readOnce settings e other m := by
      unfold pollLoop
      rw [he]
    rw [hpoll]
    exact ⟨hl, hatt.trans hattempts, hcon⟩
  | acting other command agenda =>
    rw [hloop] at hhand
    obtain rfl : other = client := Option.some.inj hhand
    refine ⟨(afterAct settings other command d.attempts agenda).1,
      (afterAct settings other command d.attempts agenda).2, c, htaken,
      fun e he hattempts hce => ?_⟩
    obtain ⟨hl, hcon, hatt⟩ := act_effect settings e other command agenda
    have hpoll : pollLoop settings e = act settings e other command agenda := by
      unfold pollLoop
      rw [he]
    rw [hattempts] at hl hatt
    rw [hpoll, hcon]
    exact ⟨hl, hatt, hce⟩
  | selecting => rw [hloop] at hhand; cases hhand
  | ended => rw [hloop] at hhand; cases hhand
  | returned t => rw [hloop] at hhand; cases hhand
  | refused failure => rw [hloop] at hhand; cases hhand

/-! ## 4. Two daemons with the same connection -/

/-- **Two daemons do the same for a connection**: both have it in hand at the same place and after
    the same calls, or both are elsewhere. -/
inductive Alike (client : Nat) (d e : Daemon) : Prop
  | inHand (c : Connection) (htaken : c.Taken) (hc : d.connections[client]? = some c)
      (hc' : e.connections[client]? = some c) (hhand : d.loop.client? = some client)
      (hloop : e.loop = d.loop) (hattempts : e.attempts = d.attempts)
  | away (c : Connection) (hd : Away client c d) (he : Away client c e)

theorem Alike.connection (h : Alike client d e) :
    d.connections[client]? = e.connections[client]? := by
  cases h with
  | inHand c _ hc hc' => rw [hc, hc']
  | away c hd he => rw [hd.here, he.here]

/-- Calls and dispatches of a turn elsewhere are for other connections. -/
theorem Away.pollLoop (settings : Settings) (h : Away client c d) :
    Away client c (pollLoop settings d) ∧ entriesOf client (callsOf settings d .pollLoop) = [] ∧
      entriesOf client (dispatchOf settings d .pollLoop) = [] :=
  h.turn (pollLoop_turn settings d)

theorem Alike.pollLoop (settings : Settings) (h : Alike client d e) :
    Alike client (pollLoop settings d) (pollLoop settings e) ∧
      entriesOf client (callsOf settings d .pollLoop) =
        entriesOf client (callsOf settings e .pollLoop) ∧
      entriesOf client (dispatchOf settings d .pollLoop) =
        entriesOf client (dispatchOf settings e .pollLoop) := by
  cases h with
  | away c hd he =>
    obtain ⟨hd', hcalls, hdispatch⟩ := hd.pollLoop settings
    obtain ⟨he', hcalls', hdispatch'⟩ := he.pollLoop settings
    exact ⟨.away c hd' he', hcalls.trans hcalls'.symm, hdispatch.trans hdispatch'.symm⟩
  | inHand c htaken hc hc' hhand hloop hattempts =>
    obtain ⟨loop, attempts, c', htaken', heffect⟩ := pollLoop_of_hand settings hhand hc htaken
    obtain ⟨hl, ha, hcon⟩ := heffect d rfl rfl hc
    obtain ⟨hl', ha', hcon'⟩ := heffect e hloop hattempts hc'
    have hcalls : callsOf settings d .pollLoop = callsOf settings e .pollLoop := by
      simp only [callsOf, hloop, hattempts]
    have hdispatch : dispatchOf settings d .pollLoop = dispatchOf settings e .pollLoop := by
      simp only [dispatchOf, step, hl, hl', hloop]
    refine ⟨?_, by rw [hcalls], by rw [hdispatch]⟩
    by_cases hstill : loop.client? = some client
    · exact .inHand c' htaken' hcon hcon' (by rw [hl]; exact hstill) (hl'.trans hl.symm)
        (ha'.trans ha.symm)
    · exact .away c' ⟨hcon, htaken', by rw [hl]; exact hstill⟩
        ⟨hcon', htaken', by rw [hl']; exact hstill⟩

/-- A move beside the loop keeps the connection in hand or away, and makes of it what it makes of it
    anywhere. -/
theorem Alike.beside {d' e' : Daemon} {f : Connection → Connection} (h : Alike client d e)
    (hf : ∀ c, (f c).standing = c.standing)
    (hd : ∀ c, d.connections[client]? = some c → d'.connections[client]? = some (f c))
    (he : ∀ c, e.connections[client]? = some c → e'.connections[client]? = some (f c))
    (hloop : d'.loop = d.loop) (hloop' : e'.loop = e.loop) (hattempts : d'.attempts = d.attempts)
    (hattempts' : e'.attempts = e.attempts) : Alike client d' e' := by
  have htaken : ∀ {c : Connection}, c.Taken → (f c).Taken := by
    intro c hc
    unfold Connection.Taken
    rw [hf c]
    exact hc
  cases h with
  | inHand c ht hc hc' hhand hsame hmade =>
    exact .inHand (f c) (htaken ht) (hd c hc) (he c hc') (hloop ▸ hhand)
      (by rw [hloop', hloop, hsame]) (by rw [hattempts', hattempts, hmade])
  | away c ha hb =>
    exact .away (f c) ⟨hd c ha.here, htaken ha.taken, hloop ▸ ha.elsewhere⟩
      ⟨he c hb.here, htaken hb.taken, hloop' ▸ hb.elsewhere⟩

/-- **A move that concerns the connection does the same for it in both daemons.** -/
theorem alike_concerned (settings : Settings) (h : Alike client d e) {m : Move}
    (hm : m.concerns client = true) :
    Alike client (step settings d m) (step settings e m) ∧
      entriesOf client (callsOf settings d m) = entriesOf client (callsOf settings e m) ∧
      entriesOf client (dispatchOf settings d m) = entriesOf client (dispatchOf settings e m) := by
  by_cases hpolls : m.polls = true
  · cases m with
    | pollLoop => exact h.pollLoop settings
    | _ => cases hpolls
  · have hbeside : m.polls = false := Bool.eq_false_iff.mpr hpolls
    obtain ⟨hloop, hattempts, hcalls, hdispatch⟩ := unmoved_step settings d m hbeside
    obtain ⟨hloop', hattempts', hcalls', hdispatch'⟩ := unmoved_step settings e m hbeside
    refine ⟨h.beside (f := m.applyTo) (applyTo_standing m) ?_ ?_ hloop hloop' hattempts hattempts',
      by rw [hcalls, hcalls'], by rw [hdispatch, hdispatch']⟩
    · intro c hc
      rw [connection_step m hbeside hc, if_pos hm]
    · intro c hc
      rw [connection_step m hbeside hc, if_pos hm]

/-- **A move that does not concern the connection does nothing for it.** -/
theorem alike_unconcerned (settings : Settings) (h : Alike client d e) {m : Move}
    (hm : m.concerns client = false) :
    Alike client (step settings d m) e ∧ callsOf settings d m = [] ∧
      dispatchOf settings d m = [] := by
  have hbeside : m.polls = false := by
    cases m with
    | pollLoop => cases hm
    | _ => rfl
  obtain ⟨hloop, hattempts, hcalls, hdispatch⟩ := unmoved_step settings d m hbeside
  refine ⟨h.beside (f := id) (fun _ => rfl) ?_ (fun _ hc => hc) hloop rfl hattempts rfl, hcalls,
    hdispatch⟩
  intro c hc
  rw [connection_step m hbeside hc, hm]
  rfl

/-- **The moves that do not concern a connection can be left out.** -/
theorem alike_run (settings : Settings) (h : Alike client d e) (moves : List Move) :
    Alike client (run settings d moves) (run settings e (moves.filter (·.concerns client))) ∧
      entriesOf client (calls settings d moves) =
        entriesOf client (calls settings e (moves.filter (·.concerns client))) ∧
      entriesOf client (dispatches settings d moves) =
        entriesOf client (dispatches settings e (moves.filter (·.concerns client))) := by
  induction moves generalizing d e with
  | nil => exact ⟨h, rfl, rfl⟩
  | cons m rest ih =>
    simp only [calls, dispatches, trace, run_cons, entriesOf_append]
    by_cases hm : m.concerns client = true
    · obtain ⟨hnext, hcalls, hdispatch⟩ := alike_concerned settings h hm
      obtain ⟨hrun, hcalls', hdispatch'⟩ := ih hnext
      rw [List.filter_cons_of_pos hm]
      simp only [calls, trace, run_cons, entriesOf_append]
      refine ⟨hrun, by rw [hcalls, hcalls'], ?_⟩
      rw [hdispatch]
      exact congrArg _ hdispatch'
    · have hfree : m.concerns client = false := Bool.eq_false_iff.mpr hm
      obtain ⟨hnext, hcalls, hdispatch⟩ := alike_unconcerned settings h hfree
      rw [List.filter_cons_of_neg hm, hcalls, hdispatch]
      exact ih hnext

/-- **Two runs with the same moves for a connection in hand make the same of it**, dispatch the same
    command and make the same calls, whatever else is done in either of them. -/
theorem undisturbed (settings : Settings) (h : Alike client d d) {xs ys : List Move}
    (hsame : xs.filter (·.concerns client) = ys.filter (·.concerns client)) :
    (run settings d xs).connections[client]? = (run settings d ys).connections[client]? ∧
      entriesOf client (calls settings d xs) = entriesOf client (calls settings d ys) ∧
      entriesOf client (dispatches settings d xs) =
        entriesOf client (dispatches settings d ys) := by
  obtain ⟨hxs, hcalls, hdispatch⟩ := alike_run settings h xs
  obtain ⟨hys, hcalls', hdispatch'⟩ := alike_run settings h ys
  rw [hsame] at hxs hcalls hdispatch
  exact ⟨hxs.connection.trans hys.connection.symm, hcalls.trans hcalls'.symm,
    hdispatch.trans hdispatch'.symm⟩

/-! ## 5. The end of a connection in hand -/

/-- **How many turns of the loop a connection in hand still takes at most**, once its stream has
    ended: a read for each byte, the end, two actions, and the way on. -/
def remaining (c : Connection) : Loop → Nat
  | .reading _ m => c.written.length - m.received + 4
  | .acting _ _ agenda => agenda.length + 1
  | _ => 0

theorem length_agenda_le (command : Command) : command.agenda.length ≤ 2 := by
  cases command with
  | timeSync timestamp =>
    simp only [Command.agenda]
    split <;> simp
  | unrecognized raw => exact Nat.zero_le 2
  | shutdown => exact Nat.le_succ 1
  | reboot => exact Nat.le_succ 1
  | serviceRestart => exact Nat.le_succ 1
  | servicePull => exact Nat.le_succ 1

theorem absorb_received (limit : Option Nat) (m : Message) (chunk : List UInt8) :
    (m.absorb limit chunk).received = m.received + chunk.length := by
  unfold Message.absorb
  dsimp only
  split
  · rfl
  · split <;> rfl

/-- A read of a stream that has ended comes closer to the end. -/
theorem afterRead_progress (settings : Settings) (client : Nat) (m : Message)
    (hended : c.ending.isSome = true) :
    (afterRead settings client m c).2.written = c.written ∧
      (afterRead settings client m c).2.ending = c.ending ∧
      ((afterRead settings client m c).1.client? ≠ some client ∨
        remaining (afterRead settings client m c).2 (afterRead settings client m c).1 <
          remaining c (.reading client m)) := by
  obtain ⟨how, hhow⟩ := Option.isSome_iff_exists.mp hended
  cases hchunk : (c.written.drop m.received).take chunkBytes with
  | nil =>
    simp only [afterRead, hchunk, hhow]
    refine ⟨trivial, trivial, ?_⟩
    by_cases hover : m.exceeded = true
    · rw [if_pos hover]
      exact Or.inl nofun
    · rw [if_neg hover]
      have hagenda := length_agenda_le (Command.parse m.text)
      refine Or.inr ?_
      simp only [remaining]
      omega
  | cons b bs =>
    simp only [afterRead, hchunk]
    refine ⟨trivial, trivial, Or.inr ?_⟩
    -- what was read is some of the bytes that were left
    have hlength : (b :: bs).length ≤ c.written.length - m.received := by
      rw [← hchunk, List.length_take, List.length_drop]
      exact Nat.min_le_right _ _
    simp only [remaining, absorb_received]
    rw [List.length_cons] at hlength ⊢
    omega

/-- An action for a command comes closer to the end. -/
theorem afterAct_progress (command : Command) (attempts : List Attempt) (agenda : List Action) :
    (afterAct settings client command attempts agenda).1.client? ≠ some client ∨
      remaining c (afterAct settings client command attempts agenda).1 <
        remaining c (.acting client command agenda) := by
  cases agenda with
  | nil =>
    refine Or.inl ?_
    simp only [afterAct]
    split <;> exact nofun
  | cons action rest =>
    refine Or.inr ?_
    simp only [afterAct, remaining]
    split <;> simp

/-- **Every turn of the loop brings a connection in hand closer to its end**, once its stream has
    ended. -/
theorem pollLoop_progress (settings : Settings) (hhand : d.loop.client? = some client)
    (hc : d.connections[client]? = some c) (htaken : c.Taken) (hended : c.ending.isSome = true) :
    ∃ c', (pollLoop settings d).connections[client]? = some c' ∧ c'.Taken ∧
      c'.written = c.written ∧ c'.ending = c.ending ∧
      ((pollLoop settings d).loop.client? ≠ some client ∨
        remaining c' (pollLoop settings d).loop < remaining c d.loop) := by
  cases hloop : d.loop with
  | reading other m =>
    rw [hloop] at hhand
    obtain rfl : other = client := Option.some.inj hhand
    obtain ⟨hl, hcon, -⟩ := readOnce_effect settings hloop hc
    obtain ⟨hwritten, hending, hless⟩ := afterRead_progress settings other m hended
    have hpoll : pollLoop settings d = readOnce settings d other m := by
      unfold pollLoop
      rw [hloop]
    rw [hpoll, hl]
    exact ⟨_, hcon, afterRead_taken htaken, hwritten, hending, hless⟩
  | acting other command agenda =>
    rw [hloop] at hhand
    obtain rfl : other = client := Option.some.inj hhand
    obtain ⟨hl, hcon, -⟩ := act_effect settings d other command agenda
    have hpoll : pollLoop settings d = act settings d other command agenda := by
      unfold pollLoop
      rw [hloop]
    rw [hpoll, hl]
    exact ⟨c, by rw [hcon, hc], htaken, rfl, rfl, afterAct_progress command d.attempts agenda⟩
  | selecting => rw [hloop] at hhand; cases hhand
  | ended => rw [hloop] at hhand; cases hhand
  | returned t => rw [hloop] at hhand; cases hhand
  | refused failure => rw [hloop] at hhand; cases hhand

theorem remaining_pos {loop : Loop} (c : Connection) (h : loop.client? = some client) :
    0 < remaining c loop := by
  cases loop with
  | reading other m => exact Nat.succ_pos _
  | acting other command agenda => exact Nat.succ_pos _
  | selecting => cases h
  | ended => cases h
  | returned t => cases h
  | refused failure => cases h

/-- **A connection whose stream has ended is done with** after as many turns of the loop as remain,
    whatever else is done between them. -/
theorem finishes (settings : Settings) (moves : List Move) (hc : d.connections[client]? = some c)
    (htaken : c.Taken) (hended : c.ending.isSome = true)
    (henough : d.loop.client? = some client → remaining c d.loop ≤ moves.countP Move.polls) :
    ∃ c', Away client c' (run settings d moves) ∧ c'.written = c.written ∧
      c'.ending = c.ending := by
  induction moves generalizing d c with
  | nil =>
    refine ⟨c, ⟨hc, htaken, fun hhand => ?_⟩, rfl, rfl⟩
    have hnone : remaining c d.loop ≤ 0 := henough hhand
    have hpos : 0 < remaining c d.loop := remaining_pos c hhand
    omega
  | cons m rest ih =>
    by_cases hpolls : m.polls = true
    · obtain rfl := eq_of_polls hpolls
      rw [List.countP_cons_of_pos hpolls] at henough
      by_cases hhand : d.loop.client? = some client
      · obtain ⟨c', hc', htaken', hwritten, hending, hless⟩ :=
          pollLoop_progress settings hhand hc htaken hended
        obtain ⟨c'', haway, hwritten', hending'⟩ := ih (d := pollLoop settings d) hc' htaken'
          (hending ▸ hended) fun hstill => by
            have hbound := henough hhand
            have hcloser := hless.resolve_left (fun hgone => hgone hstill)
            omega
        exact ⟨c'', haway, hwritten'.trans hwritten, hending'.trans hending⟩
      · obtain ⟨⟨hc', -, hgone⟩, -⟩ := Away.pollLoop settings ⟨hc, htaken, hhand⟩
        exact ih (d := pollLoop settings d) hc' htaken hended fun hstill => absurd hstill hgone
    · have hbeside : m.polls = false := Bool.eq_false_iff.mpr hpolls
      obtain ⟨hloop, -⟩ := unmoved_step settings d m hbeside
      have hc' : (step settings d m).connections[client]? = some c := by
        rw [connection_step m hbeside hc, applyTo_of_ended m hended, ite_self]
      rw [List.countP_cons_of_neg hpolls] at henough
      exact ih hc' htaken hended (by rw [hloop]; exact henough)

end Daemon

end Steward
