import Steward.Proofs.Daemon.Handling
import Steward.Proofs.Daemon.Serial
import Steward.Proofs.Daemon.Terminal

/-!
# What a run owes to each connection

The calls and the dispatches of a run are told apart by the connections they are for. This file says
what a connection has to its name: nothing as long as it was not taken up, and in the end what its
bytes ask for.

* `dispatched` -- the command that a connection's message is dispatched as, and
  `entriesOf_dispatches`: what was dispatched for a connection is that, as soon as it was read to
  its end.
* `entriesOf_calls` -- the calls for a connection that the loop has left behind are those of
  `dispatch`, after the calls for the connections before it.
* `taken_run` -- a connection is taken up by a turn of the accept loop that finds the token not
  cancelled; `untaken_run` -- none is taken up once the token is cancelled.
-/

namespace Steward.Daemon

open Utf8 (decodeLossy)

variable {settings : Settings} {files : Filesystem} {made : List (Nat × Attempt)}
  {served rest : List Connection} {client : Nat} {c : Connection} {d d' : Daemon}

/-! ## 1. The account of one connection -/

/-- The connection that the accept loop is at has been taken up. -/
theorem Account.inHand (h : Account settings made served rest d)
    (hhand : d.loop.client? = some client) :
    ∃ c, d.connections[client]? = some c ∧ c.Taken := by
  have hplace := h.place
  cases hloop : d.loop with
  | reading other m =>
    rw [hloop] at hhand hplace
    obtain rfl : other = client := Option.some.inj hhand
    obtain ⟨c, rest', seen, rfl, rfl, haccepted, -⟩ := hplace
    exact ⟨c, by simp [h.split], Or.inl haccepted⟩
  | acting other command agenda =>
    rw [hloop] at hhand hplace
    obtain rfl : other = client := Option.some.inj hhand
    obtain ⟨before, c, rfl, rfl, -⟩ := hplace
    exact ⟨c, by simp [h.split], Or.inr (h.closed c (by simp)).1⟩
  | selecting => rw [hloop] at hhand; cases hhand
  | ended => rw [hloop] at hhand; cases hhand
  | returned t => rw [hloop] at hhand; cases hhand
  | refused failure => rw [hloop] at hhand; cases hhand

/-- A connection that was read to its end has been accepted, and not yet closed. -/
theorem Account.accepted (h : Account settings made served rest d) {m : Message}
    {noted : List Event} (hend : ReadToEnd d client m c noted) : c.standing = .accepted := by
  obtain ⟨rest', seen, -, -, haccepted, -⟩ := h.reading hend.loop hend.here
  exact haccepted

/-- A connection that was not served waits or was dropped, unless it is the first of them and in
    hand. -/
theorem Account.standing_rest (h : Account settings made served rest d) {k : Nat}
    (hc : rest[k]? = some c) :
    c.standing = .queued ∨ c.standing = .reset ∨
      (d.loop.client? = some (served.length + k) ∧ c.standing = .accepted) := by
  have hplace := h.place
  have hmem : c ∈ rest := List.mem_of_getElem? hc
  cases hloop : d.loop with
  | reading other m =>
    rw [hloop] at hplace
    obtain ⟨b, rest', seen, rfl, rfl, haccepted, -, -, hqueued, -⟩ := hplace
    cases k with
    | zero =>
      obtain rfl : b = c := Option.some.inj hc
      exact Or.inr (Or.inr ⟨rfl, haccepted⟩)
    | succ k => exact Or.inl (hqueued c (List.mem_of_getElem? hc))
  | acting other command agenda =>
    rw [hloop] at hplace
    obtain ⟨before, b, -, -, -, hqueued, -⟩ := hplace
    exact Or.inl (hqueued c hmem)
  | selecting => rw [hloop] at hplace; exact Or.inl (hplace.1 c hmem)
  | ended => rw [hloop] at hplace; exact Or.inl (hplace.1 c hmem)
  | returned t => rw [hloop] at hplace; exact (hplace.1 c hmem).imp_right Or.inl
  | refused failure => rw [hloop] at hplace; exact (hplace.1 c hmem).imp_right Or.inl

/-- A connection that was taken up and that the loop is not at any more was read to its end, and is
    one of those that were served. -/
theorem Account.served_of_away (h : Account settings made served rest d)
    (haway : Away client c d) : served[client]? = some c := by
  have hc := haway.here
  rw [h.split] at hc
  by_cases hlt : client < served.length
  · rwa [List.getElem?_append_left hlt] at hc
  · have hindex : served.length + (client - served.length) = client := by omega
    rw [List.getElem?_append_right (Nat.le_of_not_lt hlt)] at hc
    rcases h.standing_rest hc with hs | hs | ⟨hhand, -⟩
    · rcases haway.taken with ht | ht <;> rw [hs] at ht <;> cases ht
    · rcases haway.taken with ht | ht <;> rw [hs] at ht <;> cases ht
    · rw [hindex] at hhand
      exact absurd hhand haway.elsewhere

/-! ## 2. Calls -/

/-- A serial call is for one of the connections. -/
theorem mem_serial {first : Nat} {earlier : List Attempt} {cs : List Connection}
    {call : Nat × Attempt} (h : call ∈ serial settings first earlier cs) :
    first ≤ call.1 ∧ call.1 < first + cs.length := by
  induction cs generalizing first earlier with
  | nil => cases h
  | cons c cs ih =>
    rw [List.length_cons]
    rcases List.mem_append.mp h with hblock | hlater
    · obtain ⟨a, -, rfl⟩ := List.mem_map.mp hblock
      exact ⟨Nat.le_refl first, by omega⟩
    · have hbounds := ih hlater
      omega

/-- Of serial calls, those for a connection are what it contributes after the calls for the
    connections before it. -/
theorem entriesOf_serial (settings : Settings) (before later : List Connection) (c : Connection) :
    entriesOf before.length (serial settings 0 [] (before ++ c :: later)) =
        (contribution settings ((serial settings 0 [] before).map (·.2)) c).map
          (before.length, ·) ∧
      (serial settings 0 [] (before ++ c :: later)).filter (fun call => call.1 < before.length) =
        serial settings 0 [] before := by
  have hbefore : ∀ call ∈ serial settings 0 [] before, call.1 < before.length := by
    intro call hcall
    have hbounds := mem_serial hcall
    omega
  simp only [serial_append, serial, Nat.zero_add, List.nil_append]
  generalize hblock :
    (contribution settings ((serial settings 0 [] before).map (·.2)) c) = block
  generalize hlater : serial settings (before.length + 1)
    ((serial settings 0 [] before).map (·.2) ++ block) later = calls
  have hbehind : ∀ call ∈ calls, before.length < call.1 := by
    intro call hcall
    rw [← hlater] at hcall
    exact (mem_serial hcall).1
  have hown : ∀ call ∈ block.map (before.length, ·), call.1 = before.length := by
    intro call hcall
    obtain ⟨a, -, rfl⟩ := List.mem_map.mp hcall
    rfl
  constructor
  · rw [entriesOf_append, entriesOf_append,
      entriesOf_eq_nil fun call hcall => Nat.ne_of_lt (hbefore call hcall),
      entriesOf_eq_nil fun call hcall => Nat.ne_of_gt (hbehind call hcall)]
    rw [entriesOf_eq_self hown, List.nil_append, List.append_nil]
  · rw [List.filter_append, List.filter_append,
      List.filter_eq_self.mpr fun call hcall => decide_eq_true (hbefore call hcall)]
    have hnone : ∀ call ∈ block.map (before.length, ·) ++ calls, ¬call.1 < before.length := by
      intro call hcall
      rcases List.mem_append.mp hcall with hcall | hcall
      · rw [hown call hcall]
        exact Nat.lt_irrefl _
      · exact Nat.lt_asymm (hbehind call hcall)
    have hrest : (block.map (before.length, ·) ++ calls).filter
        (fun call => call.1 < before.length) = [] :=
      List.filter_eq_nil_iff.mpr fun call hcall => by simpa using hnone call hcall
    rw [List.filter_append] at hrest
    rw [hrest, List.append_nil]

/-- Of the serial calls only those of the command in hand are still to be made. -/
theorem Account.pending (h : Account settings made served rest d) :
    ∃ later, serial settings 0 [] served = made ++ later ∧
      ∀ call ∈ later, d.loop.client? = some call.1 ∧ served.length = call.1 + 1 := by
  by_cases hidle : ∀ client command agenda, d.loop ≠ .acting client command agenda
  · exact ⟨[], by rw [List.append_nil, h.idle hidle], nofun⟩
  · push Not at hidle
    obtain ⟨other, command, agenda, hloop⟩ := hidle
    have hplace := h.place
    rw [hloop] at hplace
    obtain ⟨before, c, rfl, rfl, -, -, -, hmade⟩ := hplace
    refine ⟨_, hmade, fun call hcall => ?_⟩
    obtain ⟨a, -, rfl⟩ := List.mem_map.mp hcall
    exact ⟨by rw [hloop]; rfl, by simp⟩

/-- **The calls for a connection that the loop has left behind** are those of `dispatch` for all
    that its client wrote, after the calls for the connections before it. -/
theorem Account.entriesOf_calls (h : Account settings made served rest d)
    (haway : Away client c d) :
    entriesOf client made =
      (contribution settings ((made.filter fun call => call.1 < client).map (·.2)) c).map
        (client, ·) := by
  have hserved := h.served_of_away haway
  obtain ⟨hlt, hget⟩ := List.getElem?_eq_some_iff.mp hserved
  have hsplit : served = served.take client ++ c :: served.drop (client + 1) := by
    rw [← hget, List.getElem_cons_drop, List.take_append_drop]
  have hlength : (served.take client).length = client := by
    rw [List.length_take]
    omega
  obtain ⟨later, hserial, hlater⟩ := h.pending
  -- what is still to be made is for a connection behind this one
  have hbehind : ∀ call ∈ later, client < call.1 := by
    intro call hcall
    obtain ⟨hhand, hlast⟩ := hlater call hcall
    have hne : call.1 ≠ client := by
      intro heq
      exact haway.elsewhere (heq ▸ hhand)
    omega
  obtain ⟨hown, hbefore⟩ := entriesOf_serial settings (served.take client)
    (served.drop (client + 1)) c
  rw [hlength, ← hsplit, hserial] at hown hbefore
  rw [entriesOf_append, entriesOf_eq_nil fun call hcall => Nat.ne_of_gt (hbehind call hcall),
    List.append_nil] at hown
  have hnone : later.filter (fun call => call.1 < client) = [] :=
    List.filter_eq_nil_iff.mpr fun call hcall => by
      simpa using Nat.le_of_lt (hbehind call hcall)
  rw [List.filter_append, hnone, List.append_nil] at hbefore
  rw [hown, hbefore]

/-- A call is for a connection that was read to its end. -/
theorem Account.closed_of_call (h : Account settings made served rest d) {call : Nat × Attempt}
    (hcall : call ∈ made) : ∃ c, d.connections[call.1]? = some c ∧ c.standing = .closed := by
  obtain ⟨later, hserial, -⟩ := h.pending
  have hmem : call ∈ serial settings 0 [] served := by
    rw [hserial]
    exact List.mem_append_left _ hcall
  have hlt : call.1 < served.length := by
    have hbounds := mem_serial hmem
    omega
  refine ⟨served[call.1], ?_, (h.closed _ (List.getElem_mem hlt)).1⟩
  rw [h.split, List.getElem?_append_left hlt, List.getElem?_eq_getElem hlt]

/-! ## 3. Dispatches -/

/-- **The command that the message of a connection is dispatched as**, once it was read to its end
    and unless it is over the limit. -/
def dispatched (limit : Option Nat) (client : Nat) (c : Connection) : List (Nat × Command) :=
  if c.standing = .closed ∧ Message.exceeds limit c.written.length = false then
    [(client, Command.parse (decodeLossy c.written))]
  else []

/-- What was dispatched for a connection, if it exists. -/
def dispatchedFor (limit : Option Nat) (client : Nat) (d : Daemon) : List (Nat × Command) :=
  d.connections[client]?.elim [] (dispatched limit client)

theorem dispatched_of_ne {limit : Option Nat} (client : Nat) (h : c.standing ≠ .closed) :
    dispatched limit client c = [] :=
  if_neg fun hclosed => h hclosed.1

theorem mem_dispatched {limit : Option Nat} {entry : Nat × Command}
    (h : entry ∈ dispatched limit client c) : entry.1 = client := by
  unfold dispatched at h
  split at h
  · rw [List.mem_singleton.mp h]
  · cases h

/-- A client's own move does not change what its message is dispatched as once that is known. -/
theorem dispatched_applyTo (limit : Option Nat) (client : Nat) (m : Move) (c : Connection) :
    dispatched limit client (m.applyTo c) = dispatched limit client c := by
  by_cases hclosed : c.standing = .closed
  · have hwritten : (m.applyTo c).written = c.written := by
      unfold Move.applyTo
      split
      · simp [hclosed]
      · rfl
      · rfl
    unfold dispatched
    rw [applyTo_standing, hwritten]
  · rw [dispatched_of_ne client hclosed,
      dispatched_of_ne client (by rw [applyTo_standing]; exact hclosed)]

/-- A move beside the loop changes nothing about what was dispatched for a connection. -/
theorem dispatchedFor_beside (settings : Settings) (limit : Option Nat) (client : Nat) (d : Daemon)
    (m : Move) (hpolls : m.polls = false) :
    dispatchedFor limit client (step settings d m) = dispatchedFor limit client d := by
  unfold dispatchedFor
  cases hc : d.connections[client]? with
  | some c =>
    rw [connection_step m hpolls hc]
    show dispatched limit client (if m.concerns client then m.applyTo c else c) = _
    split
    · exact dispatched_applyTo limit client m c
    · rfl
  | none =>
    cases hc' : (step settings d m).connections[client]? with
    | none => rfl
    | some c' =>
      refine dispatched_of_ne client fun hclosed => ?_
      obtain ⟨c, hold, -⟩ := (grows_beside settings d m hpolls).idled.connections client c' hc'
        (Or.inr hclosed)
      rw [hc] at hold
      cases hold

/-- Marking a connection for which nothing was dispatched concerns no other. -/
theorem dispatchedFor_mark {limit : Option Nat} {other : Nat} {b : Connection} (client : Nat)
    (hb : d.connections[other]? = some b) (hnothing : dispatched limit other b = [])
    (s : Standing) :
    dispatchedFor limit client (d.mark other s) =
      dispatchedFor limit client d ++
        entriesOf client (dispatched limit other { b with standing := s }) := by
  unfold dispatchedFor Daemon.mark
  by_cases hother : other = client
  · subst hother
    rw [getElem?_modify_self _ hb, hb, entriesOf_eq_self fun entry => mem_dispatched]
    show _ = dispatched limit other b ++ _
    rw [hnothing]
    rfl
  · have hnone : entriesOf client (dispatched limit other { b with standing := s }) = [] :=
      entriesOf_eq_nil fun entry hentry => by rw [mem_dispatched hentry]; exact hother
    rw [getElem?_modify_of_ne _ hother, hnone, List.append_nil]

/-- **A turn of the accept loop dispatches for a connection what it then was dispatched as.** -/
theorem Account.dispatched_turn {new : List (Nat × Attempt)} (client : Nat)
    (h : Account settings made served rest d) (ht : Turn settings d new d') :
    dispatchedFor settings.limit client d' =
      dispatchedFor settings.limit client d ++
        entriesOf client (Loop.dispatched d.loop d'.loop) := by
  -- a turn that leaves the connections alone dispatches nothing
  have hrest : Loop.dispatched d.loop d'.loop = [] → d'.connections = d.connections →
      dispatchedFor settings.limit client d' =
        dispatchedFor settings.limit client d ++
          entriesOf client (Loop.dispatched d.loop d'.loop) := by
    intro hnone hsame
    unfold dispatchedFor
    rw [hnone, hsame]
    exact (List.append_nil _).symm
  cases ht with
  | wait notified hidle => exact hrest (Loop.dispatched_self _) rfl
  | stop e hloop he => exact hrest (by rw [hloop]; rfl) rfl
  | chunk hloop hc hchunk hsome => exact hrest (by rw [hloop]; rfl) rfl
  | call hloop ha => exact hrest (by rw [hloop]; rfl) rfl
  | leave hloop hordinary => exact hrest (by rw [hloop]; rfl) rfl
  | terminate hloop hlast => exact hrest (by rw [hloop]; rfl) rfl
  | accept other hloop hnext =>
    obtain ⟨b, hb, hqueued⟩ := queued_of_next hnext
    have hnothing : dispatched settings.limit other b = [] :=
      dispatched_of_ne other (by rw [hqueued]; exact nofun)
    have hmark := dispatchedFor_mark client hb hnothing .accepted
    have haccepted : dispatched settings.limit other { b with standing := .accepted } = [] :=
      dispatched_of_ne other (by exact nofun)
    rw [haccepted] at hmark
    rw [hloop]
    exact hmark
  | @reject other m b noted hend hover =>
    obtain ⟨-, -, -, hm, -⟩ := h.atEnd hend
    rw [hm, Message.of_exceeded] at hover
    have hnothing : dispatched settings.limit other b = [] :=
      dispatched_of_ne other (by rw [h.accepted hend]; exact nofun)
    have hmark := dispatchedFor_mark client hend.here hnothing .closed
    have hstill : dispatched settings.limit other { b with standing := .closed } = [] :=
      if_neg fun hfits => by rw [hover] at hfits; cases hfits.2
    rw [hstill] at hmark
    rw [hend.loop]
    exact hmark
  | @dispatch other m b noted hend hfits =>
    obtain ⟨-, -, -, hm, -⟩ := h.atEnd hend
    rw [hm, Message.of_exceeded] at hfits
    have hnothing : dispatched settings.limit other b = [] :=
      dispatched_of_ne other (by rw [h.accepted hend]; exact nofun)
    have hmark := dispatchedFor_mark client hend.here hnothing .closed
    have hnow : dispatched settings.limit other { b with standing := .closed } =
        [(other, Command.parse m.text)] := by
      rw [hm, Message.of_text hfits]
      exact if_pos ⟨rfl, hfits⟩
    rw [hnow] at hmark
    rw [hend.loop]
    exact hmark
  | wrapUp t hloop ht =>
    have hnone : Loop.dispatched d.loop (d.wrapUp t).loop = [] := by rw [hloop]; rfl
    rw [hnone]
    refine Eq.trans ?_ (List.append_nil _).symm
    unfold dispatchedFor
    rw [wrapUp_connections, List.getElem?_map]
    cases d.connections[client]? with
    | none => rfl
    | some c =>
      show dispatched settings.limit client (if c.standing = .queued then _ else c) =
        dispatched settings.limit client c
      by_cases hqueued : c.standing = .queued
      · have hreset : dispatched settings.limit client { c with standing := .reset } = [] :=
          dispatched_of_ne client (by exact nofun)
        rw [if_pos hqueued, hreset, dispatched_of_ne client (by rw [hqueued]; exact nofun)]
      · rw [if_neg hqueued]

/-- **What a run has dispatched for a connection** is the command that all that its client wrote
    asks for, once that was read to its end, and nothing before. -/
theorem entriesOf_dispatches (settings : Settings) (files : Filesystem) (moves : List Move)
    (client : Nat) :
    entriesOf client (dispatches settings (start settings files) moves) =
      dispatchedFor settings.limit client (run settings (start settings files) moves) := by
  induction moves using List.reverseRecOn with
  | nil =>
    unfold dispatchedFor
    rw [run, List.foldl_nil, (start_fields settings files).1]
    rfl
  | append_singleton moves m ih =>
    unfold dispatches at ih ⊢
    rw [trace_snoc, run_snoc, entriesOf_append, ih]
    by_cases hpolls : m.polls = true
    · obtain rfl := eq_of_polls hpolls
      obtain ⟨served, rest, h⟩ := account_run settings files moves
      exact (h.dispatched_turn client (pollLoop_turn settings _)).symm
    · have hbeside : m.polls = false := Bool.eq_false_iff.mpr hpolls
      rw [(unmoved_step settings _ m hbeside).2.2.2,
        dispatchedFor_beside settings settings.limit client _ m hbeside]
      exact List.append_nil _

/-! ## 4. Taking connections up -/

/-- **A turn takes a connection up only from between two connections**, and leaves the lifecycle
    alone then. -/
theorem Account.taken_turn {new : List (Nat × Attempt)} {c' : Connection}
    (h : Account settings made served rest d) (ht : Turn settings d new d')
    (hc' : d'.connections[client]? = some c') (htaken : c'.Taken) :
    (∃ c, d.connections[client]? = some c ∧ c.Taken) ∨
      (d.loop = .selecting ∧ d'.loop = .reading client .empty ∧ d'.lifecycle = d.lifecycle) := by
  -- marking another connection leaves this one as it was
  have hold : ∀ {other : Nat} {standing : Standing}, other ≠ client →
      (d.mark other standing).connections[client]? = some c' →
      ∃ c, d.connections[client]? = some c ∧ c.Taken := by
    intro other standing hother hmarked
    exact ⟨c', (getElem?_modify_of_ne _ hother).symm.trans hmarked, htaken⟩
  -- a connection that is closed has been accepted
  have hclosed : ∀ {other : Nat} {m : Message} {b : Connection} {noted : List Event},
      ReadToEnd d other m b noted → (d.mark other .closed).connections[client]? = some c' →
      ∃ c, d.connections[client]? = some c ∧ c.Taken := by
    intro other m b noted hend hmarked
    by_cases hother : other = client
    · exact ⟨b, hother ▸ hend.here, Or.inl (h.accepted hend)⟩
    · exact hold hother hmarked
  cases ht with
  | wait notified hidle => exact Or.inl ⟨c', hc', htaken⟩
  | stop e hloop he => exact Or.inl ⟨c', hc', htaken⟩
  | chunk hloop hc hchunk hsome => exact Or.inl ⟨c', hc', htaken⟩
  | call hloop ha => exact Or.inl ⟨c', hc', htaken⟩
  | leave hloop hordinary => exact Or.inl ⟨c', hc', htaken⟩
  | terminate hloop hlast => exact Or.inl ⟨c', hc', htaken⟩
  | accept other hloop hnext =>
    by_cases hother : other = client
    · exact Or.inr ⟨hloop, by rw [hother], rfl⟩
    · exact Or.inl (hold hother hc')
  | reject hend hover => exact Or.inl (hclosed hend hc')
  | dispatch hend hfits => exact Or.inl (hclosed hend hc')
  | wrapUp t hloop ht =>
    obtain ⟨c, hc, hsame⟩ := (wrapUp_idled d t).connections client c' hc' htaken
    refine Or.inl ⟨c, hc, ?_⟩
    unfold Connection.Taken
    rw [hsame]
    exact htaken

/-- **A move takes a connection up only as a turn of the accept loop that finds the token not
    cancelled.** -/
theorem taken_step (settings : Settings) (files : Filesystem) (moves : List Move) (m : Move)
    {c' : Connection}
    (hc' : (run settings (start settings files) (moves ++ [m])).connections[client]? = some c')
    (htaken : c'.Taken) :
    (∃ c, (run settings (start settings files) moves).connections[client]? = some c ∧ c.Taken) ∨
      (m = .pollLoop ∧
        (run settings (start settings files) (moves ++ [m])).loop = .reading client .empty ∧
        (run settings (start settings files) (moves ++ [m])).lifecycle.cancelled = false) := by
  obtain ⟨served, rest, h⟩ := account_run settings files moves
  rw [run_snoc] at hc' ⊢
  by_cases hpolls : m.polls = true
  · obtain rfl := eq_of_polls hpolls
    rcases h.taken_turn (pollLoop_turn settings _) hc' htaken with hold | ⟨hloop, hnow, hsame⟩
    · exact Or.inl hold
    · refine Or.inr ⟨rfl, hnow, ?_⟩
      show (pollLoop settings _).lifecycle.cancelled = false
      rw [hsame]
      refine Bool.eq_false_iff.mpr fun hcancelled => ?_
      rw [pollLoop_of_cancelled settings hloop hcancelled] at hnow
      cases hnow
  · have hbeside : m.polls = false := Bool.eq_false_iff.mpr hpolls
    obtain ⟨c, hc, hsame⟩ :=
      (grows_beside settings _ m hbeside).idled.connections client c' hc' htaken
    refine Or.inl ⟨c, hc, ?_⟩
    unfold Connection.Taken
    rw [hsame]
    exact htaken

/-- **Every connection that was taken up** was so by a turn of the accept loop, when the token was
    not cancelled. -/
theorem taken_run (settings : Settings) (files : Filesystem) (moves : List Move)
    (hc : (run settings (start settings files) moves).connections[client]? = some c)
    (htaken : c.Taken) :
    ∃ first rest, moves = first ++ .pollLoop :: rest ∧
      (run settings (start settings files) (first ++ [.pollLoop])).loop = .reading client .empty ∧
      (run settings (start settings files) (first ++ [.pollLoop])).lifecycle.cancelled = false := by
  induction moves using List.reverseRecOn generalizing c with
  | nil =>
    rw [run, List.foldl_nil, (start_fields settings files).1] at hc
    cases hc
  | append_singleton moves m ih =>
    rcases taken_step settings files moves m hc htaken with ⟨b, hb, hold⟩ | ⟨rfl, hloop, hgoing⟩
    · obtain ⟨first, rest, rfl, htook⟩ := ih hb hold
      exact ⟨first, rest ++ [m], by simp, htook⟩
    · exact ⟨moves, [], rfl, hloop, hgoing⟩

/-- **Once the token is cancelled, no connection is taken up that was not before.** -/
theorem untaken_run (settings : Settings) (files : Filesystem) (before later : List Move)
    (hcancelled : (run settings (start settings files) before).lifecycle.cancelled = true)
    (huntaken : ∀ c, (run settings (start settings files) before).connections[client]? = some c →
      ¬c.Taken) :
    ∀ c, (run settings (start settings files) (before ++ later)).connections[client]? = some c →
      ¬c.Taken := by
  induction later using List.reverseRecOn with
  | nil => rwa [List.append_nil]
  | append_singleton later m ih =>
    intro c hc htaken
    rw [← List.append_assoc] at hc
    rcases taken_step settings files (before ++ later) m hc htaken with ⟨b, hb, hold⟩ |
      ⟨-, -, hgoing⟩
    · exact ih b hb hold
    · have hstill : (run settings (start settings files)
          (before ++ later ++ [m])).lifecycle.cancelled = true := by
        rw [List.append_assoc, run_append]
        exact keeps_run (cancelled_step settings) hcancelled (later ++ [m])
      rw [hgoing] at hstill
      cases hstill

end Steward.Daemon
