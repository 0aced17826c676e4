import Mathlib.Data.List.Forall2
import Mathlib.Data.List.Induction
import Steward.Proofs.Daemon.Journal

/-!
# One move of a daemon

Every statement about a run looks at one move at a time. This file says once what a move can do, so
that no other has to open the definitions of the moves.

* `Turn` -- what one step of the accept loop can do, and which call it makes: a rule for each place
  the loop can be in and each way on from there. `pollLoop_turn` finds the rule.
* `Grows` -- what any other move leaves as it is: the place of the loop, the calls, and every
  connection, except that an open one may get longer and that new ones may come behind.
* `step_cases` -- a move is the one or the other.
* `run` is the state after some moves (`reachable_iff_run`), and `calls` lists the calls they make,
  each with the number of the connection it is made for.
-/

namespace Steward.Daemon

/-! ## 1. Runs and their calls -/

/-- The state after some moves. -/
def run (settings : Settings) (d : Daemon) (moves : List Move) : Daemon :=
  moves.foldl (step settings) d

theorem run_append (settings : Settings) (d : Daemon) (xs ys : List Move) :
    run settings d (xs ++ ys) = run settings (run settings d xs) ys := by
  simp [run]

theorem run_snoc (settings : Settings) (d : Daemon) (moves : List Move) (m : Move) :
    run settings d (moves ++ [m]) = step settings (run settings d moves) m := by
  simp [run]

/-- **The states that can be reached are those that some moves lead to.** -/
theorem reachable_iff_run {settings : Settings} {files : Filesystem} {d : Daemon} :
    Reachable settings files d ↔ ∃ moves, run settings (start settings files) moves = d := by
  constructor
  · intro h
    induction h with
    | start => exact ⟨[], rfl⟩
    | step m _ ih =>
      obtain ⟨moves, rfl⟩ := ih
      exact ⟨moves ++ [m], run_snoc settings _ moves m⟩
  · rintro ⟨moves, rfl⟩
    induction moves using List.reverseRecOn with
    | nil => exact .start
    | append_singleton moves m ih =>
      rw [run_snoc]
      exact ih.step m

/-- The call that a move makes, with the number of the connection it is made for. -/
def callsOf (settings : Settings) (d : Daemon) : Move → List (Nat × Attempt)
  | .pollLoop => match d.loop with
    | .acting client _ (action :: _) => [(client, settings.host.attempt d.attempts action)]
    | _ => []
  | _ => []

/-- **The calls that some moves make**, each with the number of the connection it is made for. -/
def calls (settings : Settings) : Daemon → List Move → List (Nat × Attempt)
  | _, [] => []
  | d, m :: rest => callsOf settings d m ++ calls settings (step settings d m) rest

theorem calls_append (settings : Settings) (d : Daemon) (xs ys : List Move) :
    calls settings d (xs ++ ys) = calls settings d xs ++ calls settings (run settings d xs) ys := by
  induction xs generalizing d with
  | nil => rfl
  | cons m rest ih =>
    simp only [List.cons_append, calls, ih, List.append_assoc]
    rfl

theorem calls_snoc (settings : Settings) (d : Daemon) (moves : List Move) (m : Move) :
    calls settings d (moves ++ [m]) =
      calls settings d moves ++ callsOf settings (run settings d moves) m := by
  simp [calls_append, calls]

/-! ## 2. The accept loop -/

/-- A connection that the loop has read to its end, and what it noted about the end. -/
structure ReadToEnd (d : Daemon) (client : Nat) (m : Message) (c : Connection)
    (noted : List Event) : Prop where
  loop : d.loop = .reading client m
  here : d.connections[client]? = some c
  all : c.written.length ≤ m.received
  ended : c.ending.isSome = true
  noted : noted = [] ∨ ∃ error, noted = [.readFailed error m.received]

/-- **What one step of the accept loop can do**, with the call it makes. -/
inductive Turn (settings : Settings) (d : Daemon) : List (Nat × Attempt) → Daemon → Prop
  /-- Nothing, but that it may have found out that nobody waits. -/
  | wait (notified : Bool)
      (hidle : ∀ client command agenda, d.loop ≠ .acting client command agenda) :
      Turn settings d [] { d with notified }
  | stop (e : Event) (hloop : d.loop = .selecting)
      (he : e = .listenerClosed ∨ e = .acceptFailed .tooManyFiles) :
      Turn settings d [] (d.log [e]).endLoop
  | accept (client : Nat) (hloop : d.loop = .selecting) (hnext : d.nextQueued? = some client) :
      Turn settings d []
        { (d.mark client .accepted).log [.clientConnected] with loop := .reading client .empty }
  | chunk {client : Nat} {m : Message} {c : Connection} {chunk : List UInt8}
      (hloop : d.loop = .reading client m) (hc : d.connections[client]? = some c)
      (hchunk : chunk = (c.written.drop m.received).take chunkBytes) (hsome : chunk ≠ []) :
      Turn settings d []
        { d.log [.readChunk chunk.length] with
          loop := .reading client (m.absorb settings.limit chunk) }
  | reject {client : Nat} {m : Message} {c : Connection} {noted : List Event}
      (hend : ReadToEnd d client m c noted) (hover : m.exceeded = true) :
      Turn settings d []
        { ((d.log noted).mark client .closed).log [.messageTooLong m.received settings.limit] with
          loop := .selecting }
  | dispatch {client : Nat} {m : Message} {c : Connection} {noted : List Event}
      (hend : ReadToEnd d client m c noted) (hfits : m.exceeded = false) :
      Turn settings d []
        { ((d.log noted).mark client .closed).log (opening m.text) with
          loop := .acting client (Command.parse m.text) (Command.parse m.text).agenda }
  | call {client : Nat} {command : Command} {action : Action} {rest : List Action} {a : Attempt}
      (hloop : d.loop = .acting client command (action :: rest))
      (ha : a = settings.host.attempt d.attempts action) :
      Turn settings d [(client, a)]
        { d.log (settings.host.account a) with
          attempts := d.attempts ++ [a]
          loop := .acting client command (if a.succeeded then rest else []) }
  | leave {client : Nat} {command : Command} (hloop : d.loop = .acting client command [])
      (hordinary : command.request? = none) :
      Turn settings d [] { d with loop := .selecting }
  | terminate {client : Nat} {command : Command} {reason : String}
      (hloop : d.loop = .acting client command []) (hlast : command.request? = some reason) :
      Turn settings d []
        ({ d with lifecycle := (d.lifecycle.request reason).1 }.log
          ((d.lifecycle.request reason).2 ++ [Event.listenerClosedAfterTerminal])).endLoop
  | wrapUp (t : Trigger) (hloop : d.loop = .ended) (ht : d.lifecycle.trigger? = some t) :
      Turn settings d [] (d.wrapUp t)

theorem log_nil (d : Daemon) : d.log [] = d := by
  simp [log]

/-- The end of the daemon drops the connections that still wait. -/
theorem wrapUp_connections (d : Daemon) (t : Trigger) :
    (d.wrapUp t).connections =
      d.connections.map fun c =>
        if c.standing = .queued then { c with standing := .reset } else c := rfl

theorem select_turn {settings : Settings} {d : Daemon} (hloop : d.loop = .selecting) :
    Turn settings d [] d.select := by
  have hidle : ∀ client command agenda, d.loop ≠ .acting client command agenda := by
    rw [hloop]
    exact nofun
  unfold select
  split
  · exact .stop _ hloop (Or.inl rfl)
  split
  · exact .wait d.notified hidle
  split
  · exact .stop _ hloop (Or.inr rfl)
  split
  · exact .wait false hidle
  · rename_i client hnext
    exact .accept client hloop hnext

/-- A connection that was read to its end is over the limit, or is dispatched. -/
theorem conclude_turn {settings : Settings} {d : Daemon} {client : Nat} {m : Message}
    {c : Connection} {noted : List Event} (hend : ReadToEnd d client m c noted) :
    Turn settings d [] (conclude settings (d.log noted) client m) := by
  unfold conclude
  by_cases hover : m.exceeded = true
  · simp only [if_pos hover]
    exact .reject hend hover
  · simp only [if_neg hover]
    exact .dispatch hend (Bool.eq_false_iff.mpr hover)

theorem readOnce_turn {settings : Settings} {d : Daemon} {client : Nat} {m : Message}
    (hloop : d.loop = .reading client m) : Turn settings d [] (readOnce settings d client m) := by
  have hidle : ∀ client command agenda, d.loop ≠ .acting client command agenda := by
    rw [hloop]
    exact nofun
  unfold readOnce
  cases hc : d.connections[client]? with
  | none => exact .wait d.notified hidle
  | some c =>
    -- a read that gives nothing has read everything, for a read takes some of what there is
    have hall : (c.written.drop m.received).take chunkBytes = [] →
        c.written.length ≤ m.received := by
      intro h
      simpa [chunkBytes] using h
    cases hchunk : (c.written.drop m.received).take chunkBytes with
    | cons b bs =>
      simp only [hchunk]
      exact .chunk hloop hc hchunk.symm (List.cons_ne_nil b bs)
    | nil =>
      cases hending : c.ending with
      | none =>
        simp only [hchunk, hending]
        exact .wait d.notified hidle
      | some how =>
        have hend : c.ending.isSome = true := by rw [hending]; rfl
        cases how with
        | endOfStream =>
          simp only [hchunk, hending]
          have h : Turn settings d [] (conclude settings (d.log []) client m) :=
            conclude_turn ⟨hloop, hc, hall hchunk, hend, Or.inl rfl⟩
          rwa [log_nil] at h
        | failure error =>
          simp only [hchunk, hending]
          exact conclude_turn ⟨hloop, hc, hall hchunk, hend, Or.inr ⟨error, rfl⟩⟩

/-- **The accept loop takes turns**, and makes the calls of its turns. -/
theorem pollLoop_turn (settings : Settings) (d : Daemon) :
    Turn settings d (callsOf settings d .pollLoop) (pollLoop settings d) := by
  unfold callsOf pollLoop
  cases hloop : d.loop with
  | selecting => exact select_turn hloop
  | reading client m => exact readOnce_turn hloop
  | acting client command agenda =>
    cases agenda with
    | cons action rest => exact .call hloop rfl
    | nil =>
      simp only [act]
      cases hreason : command.request? with
      | none => exact .leave hloop hreason
      | some reason => exact .terminate hloop hreason
  | ended =>
    cases ht : d.lifecycle.trigger? with
    | none => exact .wait d.notified (by rw [hloop]; exact nofun)
    | some t => exact .wrapUp t hloop ht
  | returned t => exact .wait d.notified (by rw [hloop]; exact nofun)
  | refused failure => exact .wait d.notified (by rw [hloop]; exact nofun)

/-! ## 3. Everybody else -/

/-- What becomes of a connection while the daemon leaves it alone: it may get longer, until its
    stream has ended. -/
structure Grown (c c' : Connection) : Prop where
  standing : c'.standing = c.standing
  written : c.written <+: c'.written
  frozen : c.ending.isSome = true → c' = c

theorem Grown.refl (c : Connection) : Grown c c := ⟨rfl, List.prefix_rfl, fun _ => rfl⟩

theorem forall₂_grown_refl (cs : List Connection) : List.Forall₂ Grown cs cs :=
  List.forall₂_same.mpr fun c _ => .refl c

/-- One connection grows, and the others stay as they are. -/
theorem forall₂_grown_modify {cs : List Connection} {client : Nat} {f : Connection → Connection}
    (h : ∀ c, cs[client]? = some c → Grown c (f c)) :
    List.Forall₂ Grown cs (cs.modify client f) := by
  induction cs generalizing client with
  | nil => simp
  | cons c cs ih =>
    cases client with
    | zero =>
      simp only [List.modify_zero_cons]
      exact .cons (h c rfl) (forall₂_grown_refl cs)
    | succ client =>
      simp only [List.modify_succ_cons]
      exact .cons (.refl c) (ih h)

/-- **What a move outside the accept loop leaves as it is.** -/
structure Grows (d d' : Daemon) : Prop where
  loop : d'.loop = d.loop
  attempts : d'.attempts = d.attempts
  connections : ∃ grown fresh, d'.connections = grown ++ fresh ∧
    List.Forall₂ Grown d.connections grown ∧ ∀ c ∈ fresh, c = .fresh
  journal : ∃ later, d'.journal = d.journal ++ later ∧ Quiet later

/-- A move that leaves connections and log alone, too. -/
theorem Grows.of_eq {d d' : Daemon} (hloop : d'.loop = d.loop)
    (hattempts : d'.attempts = d.attempts) (hconnections : d'.connections = d.connections)
    (hjournal : d'.journal = d.journal) : Grows d d' where
  loop := hloop
  attempts := hattempts
  connections := ⟨d.connections, [], by rw [hconnections, List.append_nil],
    forall₂_grown_refl _, nofun⟩
  journal := ⟨[], by rw [hjournal, List.append_nil], .nil⟩

theorem Grows.refl (d : Daemon) : Grows d d := .of_eq rfl rfl rfl rfl

theorem connect_grows {d d' : Daemon} {path : Path} (h : d.connect path = .ok d') :
    Grows d d' := by
  unfold connect at h
  split at h
  · cases h
  split at h
  · cases h
  · cases h
    exact
      { loop := rfl
        attempts := rfl
        connections := ⟨d.connections, [.fresh], rfl, forall₂_grown_refl _, by simp⟩
        journal := ⟨[], (List.append_nil _).symm, .nil⟩ }

theorem write_grows {d d' : Daemon} {client : Nat} {bytes : List UInt8}
    (h : d.write client bytes = .ok d') : Grows d d' := by
  unfold write at h
  cases hc : d.connections[client]? with
  | none => rw [hc] at h; cases h
  | some c =>
    simp only [hc] at h
    split at h
    · cases h
      exact .refl d
    split at h
    · rename_i hopen
      cases h
      have hnone : c.ending.isNone = true := (Bool.and_eq_true_iff.mp hopen).2
      refine ⟨rfl, rfl, ⟨_, [], (List.append_nil _).symm, ?_, nofun⟩,
        ⟨[], (List.append_nil _).symm, .nil⟩⟩
      refine forall₂_grown_modify fun c' hc' => ?_
      obtain rfl : c = c' := Option.some.inj (hc.symm.trans hc')
      refine ⟨rfl, List.prefix_append _ _, fun hsome => ?_⟩
      rw [Option.isNone_iff_eq_none.mp hnone] at hsome
      cases hsome
    · cases h

theorem close_grows (d : Daemon) (client : Nat) (how : Ending) : Grows d (d.close client how) := by
  refine ⟨rfl, rfl, ⟨_, [], (List.append_nil _).symm, ?_, nofun⟩,
    ⟨[], (List.append_nil _).symm, .nil⟩⟩
  refine forall₂_grown_modify fun c _ => ⟨rfl, List.prefix_rfl, fun hsome => ?_⟩
  obtain ⟨old, hold⟩ := Option.isSome_iff_exists.mp hsome
  cases c
  simp_all

theorem pollSupervisor_grows (d : Daemon) : Grows d d.pollSupervisor :=
  ⟨rfl, rfl, ⟨d.connections, [], (List.append_nil _).symm, forall₂_grown_refl _, nofun⟩,
    ⟨d.lifecycle.poll.2, rfl, quiet_poll d.lifecycle⟩⟩

/-- A move that is refused changes nothing. -/
theorem grows_getD {d : Daemon} {r : Except SystemError Daemon}
    (h : ∀ d', r = .ok d' → Grows d d') : Grows d (r.toOption.getD d) := by
  cases r with
  | error e => exact .refl d
  | ok d' => exact h d' rfl

/-- **A move is a turn of the accept loop, or it leaves the loop and its calls alone.** -/
theorem step_cases (settings : Settings) (d : Daemon) (m : Move) :
    Turn settings d (callsOf settings d m) (step settings d m) ∨
      (callsOf settings d m = [] ∧ Grows d (step settings d m)) := by
  cases m with
  | pollLoop => exact Or.inl (pollLoop_turn settings d)
  | pollSupervisor => exact Or.inr ⟨rfl, pollSupervisor_grows d⟩
  | close client how => exact Or.inr ⟨rfl, close_grows d client how⟩
  | signal name => exact Or.inr ⟨rfl, .of_eq rfl rfl rfl rfl⟩
  | descriptors available => exact Or.inr ⟨rfl, .of_eq rfl rfl rfl rfl⟩
  | replace path node => exact Or.inr ⟨rfl, .of_eq rfl rfl rfl rfl⟩
  | connect path => exact Or.inr ⟨rfl, grows_getD fun _ h => connect_grows h⟩
  | write client bytes => exact Or.inr ⟨rfl, grows_getD fun _ h => write_grows h⟩

end Steward.Daemon
