import Steward.Proofs.Daemon.Turn
import Steward.Proofs.Dispatch.Calls
import Steward.Proofs.Message.Content

/-!
# The calls of a run come connection by connection

Clients connect, write and end their streams in any order, and the accept loop takes one small step
at a time between them. Still the host is called as if the connections had been handled one after
another, each in one go.

* `serial` -- connections handled one after another: what `dispatch` does for the first message,
  then for the next, and nothing for a message over the limit.
* `Account` -- the INVARIANT on every state of a run: the connections are those that were served and
  those that were not, the calls so far and those still on the agenda are the serial ones, and the
  log has one verdict for each connection that was served.
* `account_run` -- every sequence of moves keeps it.
* `calls_serial` -- what it says about the calls of a run.
-/

namespace Steward

namespace Daemon

open Utf8 (decodeLossy)

/-! ## 1. One connection after another -/

/-- **The calls that a connection is good for**, after earlier ones: those of `dispatch`, or none if
    its message is over the limit. -/
def contribution (settings : Settings) (earlier : List Attempt) (c : Connection) : List Attempt :=
  if Message.exceeds settings.limit c.written.length then []
  else (dispatch settings.host earlier (decodeLossy c.written)).attempts

/-- **Connections one after another**: the calls of the first, then those of the next, each with the
    number of the connection it is made for. -/
def serial (settings : Settings) :
    (client : Nat) → (earlier : List Attempt) → List Connection → List (Nat × Attempt)
  | _, _, [] => []
  | client, earlier, c :: rest =>
    let block := contribution settings earlier c
    block.map (client, ·) ++ serial settings (client + 1) (earlier ++ block) rest

/-- What is logged as the verdict on a connection's message. -/
def verdict (limit : Option Nat) (c : Connection) : Event :=
  if Message.exceeds limit c.written.length then .messageTooLong c.written.length limit
  else .messageReceived (Command.parse (decodeLossy c.written)).name (decodeLossy c.written)

/-- The connections that were read to their end and closed. -/
def served (d : Daemon) : List Connection := d.connections.filter fun c => c.standing = .closed

/-- Connections behind others come after all calls of those. -/
theorem serial_append (settings : Settings) (client : Nat) (earlier : List Attempt)
    (cs later : List Connection) :
    serial settings client earlier (cs ++ later) =
      serial settings client earlier cs ++
        serial settings (client + cs.length)
          (earlier ++ (serial settings client earlier cs).map (·.2)) later := by
  induction cs generalizing client earlier with
  | nil => simp [serial]
  | cons b cs ih =>
    have hcount : client + 1 + cs.length = client + (b :: cs).length := by
      simp only [List.length_cons]
      omega
    simp only [List.cons_append, serial, ih, hcount, List.map_append, List.map_map,
      List.append_assoc]
    congr 4
    simp [Function.comp_def]

theorem serial_snoc (settings : Settings) (client : Nat) (earlier : List Attempt)
    (cs : List Connection) (c : Connection) :
    serial settings client earlier (cs ++ [c]) =
      serial settings client earlier cs ++
        (contribution settings (earlier ++ (serial settings client earlier cs).map (·.2)) c).map
          (client + cs.length, ·) := by
  rw [serial_append]
  simp only [serial, List.append_nil]

/-- The numbers of the connections never go down. -/
theorem serial_ordered (settings : Settings) (client : Nat) (earlier : List Attempt)
    (cs : List Connection) :
    ((serial settings client earlier cs).map (·.1)).Pairwise (· ≤ ·) ∧
      ∀ n ∈ (serial settings client earlier cs).map (·.1), client ≤ n := by
  induction cs generalizing client earlier with
  | nil => simp [serial]
  | cons c cs ih =>
    obtain ⟨hpairs, hleast⟩ := ih (client + 1) (earlier ++ contribution settings earlier c)
    have hblock : ∀ n ∈ ((contribution settings earlier c).map (client, ·)).map (·.1),
        n = client := by
      simp
    simp only [serial, List.map_append]
    refine ⟨List.pairwise_append.mpr ⟨?_, hpairs, fun n hn k hk => ?_⟩, fun n hn => ?_⟩
    · rw [List.map_map, List.pairwise_map]
      exact List.pairwise_of_forall fun _ _ => Nat.le_refl client
    · rw [hblock n hn]
      exact Nat.le_of_succ_le (hleast k hk)
    · rcases List.mem_append.mp hn with hn | hn
      · exact Nat.le_of_eq (hblock n hn).symm
      · exact Nat.le_of_succ_le (hleast n hn)

/-! ## 2. The invariant -/

/-- **What is done at each place of the accept loop**: between two connections the calls are the
    serial ones of those that were served; of the one that is read, some bytes have been taken in;
    and of the one that is acted on, what is left on the agenda is missing from the serial calls. -/
def Place (settings : Settings) (made : List (Nat × Attempt)) (served rest : List Connection) :
    Loop → Prop
  | .selecting | .ended =>
    (∀ c ∈ rest, c.standing = .queued) ∧ made = serial settings 0 [] served
  | .returned _ | .refused _ =>
    (∀ c ∈ rest, c.standing = .queued ∨ c.standing = .reset) ∧ made = serial settings 0 [] served
  | .reading client m => ∃ c rest' seen, rest = c :: rest' ∧ client = served.length ∧
    c.standing = .accepted ∧ seen <+: c.written ∧ m = .of settings.limit seen ∧
    (∀ b ∈ rest', b.standing = .queued) ∧ made = serial settings 0 [] served
  | .acting client _ agenda => ∃ before c, served = before ++ [c] ∧ client = before.length ∧
    Message.exceeds settings.limit c.written.length = false ∧
    (∀ b ∈ rest, b.standing = .queued) ∧ serial settings 0 [] before <+: made ∧
    serial settings 0 [] served =
      made ++ (settings.host.carryOut (made.map (·.2)) agenda).map (client, ·)

/-- **The account of a run**: some connections were served, the others were not; the calls are told
    by the place of the loop, and the log has a verdict on each served connection, in order. -/
structure Account (settings : Settings) (made : List (Nat × Attempt))
    (served rest : List Connection) (d : Daemon) : Prop where
  split : d.connections = served ++ rest
  closed : ∀ c ∈ served, c.standing = .closed ∧ c.ending.isSome = true
  attempts : d.attempts = made.map (·.2)
  verdicts : d.journal.filter Event.isVerdict = served.map (verdict settings.limit)
  place : Place settings made served rest d.loop

variable {settings : Settings} {made : List (Nat × Attempt)} {served rest : List Connection}
  {d d' : Daemon}

/-- A state at the same place with other connections left to serve, and no verdict more. -/
theorem Account.move {rest' : List Connection} {later : List Event}
    (h : Account settings made served rest d) (hsplit : d'.connections = served ++ rest')
    (hattempts : d'.attempts = d.attempts) (hjournal : d'.journal = d.journal ++ later)
    (hquiet : later.filter Event.isVerdict = [])
    (hplace : Place settings made served rest' d'.loop) :
    Account settings made served rest' d' where
  split := hsplit
  closed := h.closed
  attempts := hattempts.trans h.attempts
  verdicts := by rw [hjournal, List.filter_append, hquiet, List.append_nil, h.verdicts]
  place := hplace

/-! ## 3. Clients and the surroundings -/

/-- Connections that were read to their end stay as they are. -/
theorem grown_of_closed {served rest grown : List Connection}
    (h : List.Forall₂ Grown (served ++ rest) grown)
    (hclosed : ∀ c ∈ served, c.standing = .closed ∧ c.ending.isSome = true) :
    ∃ rest', grown = served ++ rest' ∧ List.Forall₂ Grown rest rest' := by
  induction served generalizing grown with
  | nil => exact ⟨grown, rfl, h⟩
  | cons c served ih =>
    cases h with
    | cons hc h =>
      -- a stream that has ended takes no more bytes
      obtain rfl := hc.frozen (hclosed c List.mem_cons_self).2
      obtain ⟨rest', rfl, hrest⟩ := ih h fun b hb => hclosed b (List.mem_cons_of_mem _ hb)
      exact ⟨rest', rfl, hrest⟩

/-- What holds of how far the daemon is with each connection still holds of those that have grown
    and of new ones. -/
theorem standing_of_grown {P : Standing → Prop} {cs grown fresh : List Connection}
    (h : List.Forall₂ Grown cs grown) (hfresh : ∀ c ∈ fresh, c = .fresh) (hnew : P .queued)
    (hP : ∀ c ∈ cs, P c.standing) : ∀ c ∈ grown ++ fresh, P c.standing := by
  induction h with
  | nil =>
    intro c hc
    rw [hfresh c hc]
    exact hnew
  | cons hc _ ih =>
    intro b hb
    rcases List.mem_cons.mp hb with rfl | hb
    · rw [hc.standing]
      exact hP _ List.mem_cons_self
    · exact ih (fun b hb => hP b (List.mem_cons_of_mem _ hb)) b hb

theorem queued_of_grown {cs grown fresh : List Connection} (h : List.Forall₂ Grown cs grown)
    (hfresh : ∀ c ∈ fresh, c = .fresh) (hqueued : ∀ c ∈ cs, c.standing = .queued) :
    ∀ c ∈ grown ++ fresh, c.standing = .queued :=
  standing_of_grown (P := fun s => s = .queued) h hfresh rfl hqueued

theorem unserved_of_grown {cs grown fresh : List Connection} (h : List.Forall₂ Grown cs grown)
    (hfresh : ∀ c ∈ fresh, c = .fresh)
    (hunserved : ∀ c ∈ cs, c.standing = .queued ∨ c.standing = .reset) :
    ∀ c ∈ grown ++ fresh, c.standing = .queued ∨ c.standing = .reset :=
  standing_of_grown (P := fun s => s = .queued ∨ s = .reset) h hfresh (Or.inl rfl) hunserved

theorem Place.grown {grown fresh : List Connection} {loop : Loop}
    (h : Place settings made served rest loop) (hgrown : List.Forall₂ Grown rest grown)
    (hfresh : ∀ c ∈ fresh, c = .fresh) : Place settings made served (grown ++ fresh) loop := by
  cases loop with
  | selecting => exact ⟨queued_of_grown hgrown hfresh h.1, h.2⟩
  | ended => exact ⟨queued_of_grown hgrown hfresh h.1, h.2⟩
  | returned t => exact ⟨unserved_of_grown hgrown hfresh h.1, h.2⟩
  | refused failure => exact ⟨unserved_of_grown hgrown hfresh h.1, h.2⟩
  | reading client m =>
    obtain ⟨c, rest', seen, rfl, hclient, haccepted, hseen, hm, hqueued, hmade⟩ := h
    cases hgrown with
    | cons hc hgrown =>
      exact ⟨_, _, seen, rfl, hclient, hc.standing.trans haccepted, hseen.trans hc.written, hm,
        queued_of_grown hgrown hfresh hqueued, hmade⟩
  | acting client command agenda =>
    obtain ⟨before, c, hserved, hclient, hfits, hqueued, hcalls⟩ := h
    exact ⟨before, c, hserved, hclient, hfits, queued_of_grown hgrown hfresh hqueued, hcalls⟩

theorem Account.grows (h : Account settings made served rest d) (hg : Grows d d') :
    ∃ rest', Account settings made served rest' d' := by
  obtain ⟨grown, fresh, hconnections, hgrown, hfresh⟩ := hg.connections
  obtain ⟨later, hjournal, hquiet⟩ := hg.journal
  rw [h.split] at hgrown
  obtain ⟨rest', rfl, hrest⟩ := grown_of_closed hgrown h.closed
  refine ⟨rest' ++ fresh, h.move ?_ hg.attempts hjournal ?_ ?_⟩
  · rw [hconnections, List.append_assoc]
  · exact hquiet.verdicts
  · rw [hg.loop]
    exact h.place.grown hrest hfresh

/-! ## 4. The accept loop -/

theorem ReadToEnd.verdicts {client : Nat} {m : Message} {c : Connection} {noted : List Event}
    (h : ReadToEnd d client m c noted) : noted.filter Event.isVerdict = [] := by
  rcases h.noted with rfl | ⟨error, rfl⟩ <;> rfl

/-- The connection that is accepted next is the first of those that were not served. -/
theorem Account.next (h : Account settings made served rest d)
    (hqueued : ∀ c ∈ rest, c.standing = .queued) {client : Nat}
    (hnext : d.nextQueued? = some client) :
    client = served.length ∧ ∃ c rest', rest = c :: rest' := by
  have hskip : served.findIdx? (fun c => decide (c.standing = .queued)) = none := by
    refine List.findIdx?_eq_none_iff.mpr fun c hc => ?_
    rw [(h.closed c hc).1]
    rfl
  unfold nextQueued? at hnext
  rw [h.split, List.findIdx?_append, hskip] at hnext
  cases rest with
  | nil => simp at hnext
  | cons c rest' =>
    have hc : c.standing = .queued := hqueued c List.mem_cons_self
    simp [List.findIdx?_cons, hc] at hnext
    exact ⟨hnext.symm, c, rest', rfl⟩

theorem modify_append_cons (cs rest : List Connection) (c : Connection)
    (f : Connection → Connection) :
    (cs ++ c :: rest).modify cs.length f = cs ++ f c :: rest := by
  induction cs with
  | nil => rfl
  | cons b cs ih => simp [ih]

theorem Account.mark {c : Connection} (h : Account settings made served (c :: rest) d)
    (s : Standing) :
    (d.mark served.length s).connections = served ++ { c with standing := s } :: rest := by
  unfold Daemon.mark
  rw [h.split]
  exact modify_append_cons served rest c _

/-- The connection that is read is the first of those that were not served. -/
theorem Account.reading (h : Account settings made served rest d) {client : Nat} {m : Message}
    {c : Connection} (hloop : d.loop = .reading client m) (hc : d.connections[client]? = some c) :
    ∃ rest' seen, rest = c :: rest' ∧ client = served.length ∧ c.standing = .accepted ∧
      seen <+: c.written ∧ m = .of settings.limit seen ∧
      (∀ b ∈ rest', b.standing = .queued) ∧ made = serial settings 0 [] served := by
  have hplace := h.place
  rw [hloop] at hplace
  obtain ⟨b, rest', seen, rfl, rfl, hplace⟩ := hplace
  have hb : b = c := by
    rw [h.split] at hc
    simpa using hc
  subst hb
  exact ⟨rest', seen, rfl, rfl, hplace⟩

/-- The connection that is read has no more than its own bytes in the message, and all of them once
    it was read to its end. -/
theorem Account.atEnd (h : Account settings made served rest d) {client : Nat} {m : Message}
    {c : Connection} {noted : List Event} (hend : ReadToEnd d client m c noted) :
    ∃ rest', rest = c :: rest' ∧ client = served.length ∧ m = .of settings.limit c.written ∧
      (∀ b ∈ rest', b.standing = .queued) ∧ made = serial settings 0 [] served := by
  obtain ⟨rest', seen, rfl, rfl, -, hseen, rfl, hqueued, hmade⟩ :=
    h.reading hend.loop hend.here
  have hlength := hend.all
  rw [Message.of_received] at hlength
  rw [hseen.eq_of_length_le hlength]
  exact ⟨rest', rfl, rfl, rfl, hqueued, hmade⟩

/-- **A connection that was read to its end joins those that were served**, with a verdict, whatever
    is done about its calls. -/
theorem Account.serve {c : Connection} {later : List Event}
    (h : Account settings made served (c :: rest) d) (hended : c.ending.isSome = true)
    (hsplit : d'.connections = served ++ { c with standing := .closed } :: rest)
    (hattempts : d'.attempts = d.attempts) (hjournal : d'.journal = d.journal ++ later)
    (hverdict : later.filter Event.isVerdict = [verdict settings.limit c])
    (hplace : Place settings made (served ++ [{ c with standing := .closed }]) rest d'.loop) :
    Account settings made (served ++ [{ c with standing := .closed }]) rest d' where
  split := by rw [hsplit, List.append_assoc]; rfl
  closed b hb := by
    rcases List.mem_append.mp hb with hb | hb
    · exact h.closed b hb
    · rw [List.mem_singleton.mp hb]
      exact ⟨rfl, hended⟩
  attempts := hattempts.trans h.attempts
  verdicts := by
    rw [hjournal, List.filter_append, h.verdicts, hverdict, List.map_append]
    rfl
  place := hplace

/-- The verdict on a message that is over the limit, and the one on a message that is not. -/
theorem verdict_of_exceeds {limit : Option Nat} {c : Connection}
    (h : Message.exceeds limit c.written.length = true) :
    verdict limit c = .messageTooLong c.written.length limit := if_pos h

theorem verdict_of_fits {limit : Option Nat} {c : Connection}
    (h : Message.exceeds limit c.written.length = false) :
    verdict limit c =
      .messageReceived (Command.parse (decodeLossy c.written)).name (decodeLossy c.written) :=
  if_neg (by rw [h]; exact Bool.false_ne_true)

theorem contribution_of_exceeds {c : Connection} (earlier : List Attempt)
    (h : Message.exceeds settings.limit c.written.length = true) :
    contribution settings earlier c = [] := if_pos h

theorem contribution_of_fits {c : Connection} (earlier : List Attempt)
    (h : Message.exceeds settings.limit c.written.length = false) :
    contribution settings earlier c =
      settings.host.carryOut earlier (Command.parse (decodeLossy c.written)).agenda :=
  if_neg (by rw [h]; exact Bool.false_ne_true)

/-- Rejecting a message adds no call. -/
theorem Account.reject (h : Account settings made served rest d) {client : Nat} {m : Message}
    {c : Connection} {noted : List Event} (hend : ReadToEnd d client m c noted)
    (hover : m.exceeded = true) :
    ∃ served' rest', Account settings made served' rest'
      { ((d.log noted).mark client .closed).log [.messageTooLong m.received settings.limit] with
        loop := .selecting } := by
  obtain ⟨rest', rfl, rfl, rfl, hqueued, hmade⟩ := h.atEnd hend
  rw [Message.of_exceeded] at hover
  have hblock : contribution settings (made.map (·.2)) { c with standing := .closed } = [] :=
    contribution_of_exceeds _ hover
  refine ⟨_, rest', h.serve hend.ended (h.mark .closed) rfl (List.append_assoc _ _ _) ?_
    ⟨hqueued, ?_⟩⟩
  · rw [List.filter_append, hend.verdicts, verdict_of_exceeds hover, Message.of_received]
    rfl
  · rw [serial_snoc, ← hmade, List.nil_append, hblock, List.map_nil, List.append_nil]

/-- Dispatching a message puts its calls on the agenda. -/
theorem Account.dispatch (h : Account settings made served rest d) {client : Nat} {m : Message}
    {c : Connection} {noted : List Event} (hend : ReadToEnd d client m c noted)
    (hfits : m.exceeded = false) :
    ∃ served' rest', Account settings made served' rest'
      { ((d.log noted).mark client .closed).log (opening m.text) with
        loop := .acting client (Command.parse m.text) (Command.parse m.text).agenda } := by
  obtain ⟨rest', rfl, rfl, rfl, hqueued, hmade⟩ := h.atEnd hend
  rw [Message.of_exceeded] at hfits
  rw [Message.of_text hfits]
  have hblock : contribution settings (made.map (·.2)) { c with standing := .closed } =
      settings.host.carryOut (made.map (·.2)) (Command.parse (decodeLossy c.written)).agenda :=
    contribution_of_fits _ hfits
  refine ⟨_, rest', h.serve hend.ended (h.mark .closed) rfl (List.append_assoc _ _ _) ?_
    ⟨served, _, rfl, rfl, hfits, hqueued, ?_, ?_⟩⟩
  · rw [List.filter_append, hend.verdicts, verdicts_opening, verdict_of_fits hfits]
    rfl
  -- nothing of the block is made yet, all of it is on the agenda
  · exact hmade ▸ List.prefix_rfl
  · rw [serial_snoc, ← hmade, List.nil_append, hblock, Nat.zero_add]

/-- Making a call moves it from the agenda to the calls. -/
theorem Account.call (h : Account settings made served rest d) {client : Nat} {command : Command}
    {action : Action} {agenda : List Action} {a : Attempt}
    (hloop : d.loop = .acting client command (action :: agenda))
    (ha : a = settings.host.attempt d.attempts action) :
    Account settings (made ++ [(client, a)]) served rest
      { d.log (settings.host.account a) with
        attempts := d.attempts ++ [a]
        loop := .acting client command (if a.succeeded then agenda else []) } := by
  have hplace := h.place
  rw [hloop] at hplace
  obtain ⟨before, c, hserved, hclient, hfits, hqueued, hbefore, hmade⟩ := hplace
  rw [h.attempts] at ha
  have hverdicts := h.verdicts
  refine ⟨h.split, h.closed, ?_, ?_, before, c, hserved, hclient, hfits, hqueued, ?_, ?_⟩
  · simp [h.attempts]
  · simp [log, (quiet_account settings.host a).verdicts, hverdicts]
  · exact hbefore.trans (List.prefix_append _ _)
  · rw [hmade, Host.carryOut_cons, ← ha]
    simp

/-- When the agenda is done, the calls are the serial ones of all connections that were served. -/
theorem Account.done (h : Account settings made served rest d) {client : Nat} {command : Command}
    (hloop : d.loop = .acting client command []) :
    (∀ c ∈ rest, c.standing = .queued) ∧ made = serial settings 0 [] served := by
  have hplace := h.place
  rw [hloop] at hplace
  obtain ⟨before, c, -, -, -, hqueued, -, hmade⟩ := hplace
  rw [Host.carryOut_nil, List.map_nil, List.append_nil] at hmade
  exact ⟨hqueued, hmade.symm⟩

/-- The end of the daemon drops the connections that were not served, and only those. -/
theorem Account.wrapUp (h : Account settings made served rest d) (hloop : d.loop = .ended)
    (t : Trigger) :
    Account settings made served (rest.map fun c => { c with standing := .reset })
      (d.wrapUp t) := by
  have hplace := h.place
  rw [hloop] at hplace
  obtain ⟨hqueued, hmade⟩ := hplace
  obtain ⟨later, hjournal, hquiet⟩ := quiet_wrapUp d t
  refine h.move ?_ rfl hjournal hquiet.verdicts ⟨fun c hc => ?_, hmade⟩
  · rw [wrapUp_connections, h.split, List.map_append]
    congr 1
    · refine (List.map_congr_left fun c hc => ?_).trans (List.map_id served)
      simp [(h.closed c hc).1]
    · refine List.map_congr_left fun c hc => ?_
      rw [if_pos (hqueued c hc)]
  · obtain ⟨b, -, rfl⟩ := List.mem_map.mp hc
    exact Or.inr rfl

/-- **Every turn of the accept loop keeps the account.** -/
theorem Account.turn {new : List (Nat × Attempt)} (h : Account settings made served rest d)
    (ht : Turn settings d new d') :
    ∃ served' rest', Account settings (made ++ new) served' rest' d' := by
  cases ht with
  | call hloop ha => exact ⟨served, rest, h.call hloop ha⟩
  | wait notified hidle =>
    rw [List.append_nil]
    exact ⟨served, rest, h.split, h.closed, h.attempts, h.verdicts, h.place⟩
  | stop e hloop he =>
    rw [List.append_nil]
    have hplace := h.place
    rw [hloop] at hplace
    refine ⟨served, rest, h.move h.split rfl rfl ?_ hplace⟩
    rcases he with rfl | rfl <;> rfl
  | accept client hloop hnext =>
    rw [List.append_nil]
    have hplace := h.place
    rw [hloop] at hplace
    obtain ⟨hqueued, hmade⟩ := hplace
    obtain ⟨rfl, c, rest', rfl⟩ := h.next hqueued hnext
    exact ⟨served, _, h.move (h.mark .accepted) rfl rfl rfl
      ⟨_, rest', [], rfl, rfl, rfl, List.nil_prefix, Message.empty_eq_of settings.limit,
        fun b hb => hqueued b (List.mem_cons_of_mem _ hb), hmade⟩⟩
  | chunk hloop hc hchunk hsome =>
    rw [List.append_nil]
    obtain ⟨rest', seen, rfl, hclient, haccepted, hseen, rfl, hqueued, hmade⟩ :=
      h.reading hloop hc
    refine ⟨served, _, h.move h.split rfl rfl rfl
      ⟨_, rest', _, rfl, hclient, haccepted, ?_, Message.absorb_of _ _ _, hqueued, hmade⟩⟩
    -- what was seen, and a first part of what comes behind it
    obtain ⟨unseen, hwritten⟩ := hseen
    rw [hchunk, Message.of_received, ← hwritten, List.drop_left]
    exact (List.prefix_append_right_inj seen).mpr (List.take_prefix _ _)
  | reject hend hover =>
    rw [List.append_nil]
    exact h.reject hend hover
  | dispatch hend hfits =>
    rw [List.append_nil]
    exact h.dispatch hend hfits
  | leave hloop hordinary =>
    rw [List.append_nil]
    exact ⟨served, rest, h.split, h.closed, h.attempts, h.verdicts, h.done hloop⟩
  | terminate hloop hlast =>
    rw [List.append_nil]
    refine ⟨served, rest, h.move h.split rfl rfl ?_ (h.done hloop)⟩
    rw [List.filter_append, verdicts_of_apart (apart_request d.lifecycle _)]
    rfl
  | wrapUp t hloop ht =>
    rw [List.append_nil]
    exact ⟨served, _, h.wrapUp hloop t⟩

/-! ## 5. Runs -/

/-- **Every move keeps the account.** -/
theorem account_step (h : Account settings made served rest d) (m : Move) :
    ∃ served' rest',
      Account settings (made ++ callsOf settings d m) served' rest' (step settings d m) := by
  rcases step_cases settings d m with hturn | ⟨hnone, hgrows⟩
  · exact h.turn hturn
  · rw [hnone, List.append_nil]
    exact ⟨served, h.grows hgrows⟩

/-- Before the first move nothing was served. -/
theorem account_start (settings : Settings) (files : Filesystem) :
    Account settings [] [] [] (start settings files) := by
  have hquiet := (quiet_bind files socketNumber settings.path).verdicts
  unfold start
  dsimp only
  split
  · exact ⟨rfl, nofun, rfl, hquiet, nofun, rfl⟩
  · exact ⟨rfl, nofun, rfl, hquiet, nofun, rfl⟩

/-- **Every state that moves lead to has an account.** -/
theorem account_run (settings : Settings) (files : Filesystem) (moves : List Move) :
    ∃ served rest, Account settings (calls settings (start settings files) moves) served rest
      (run settings (start settings files) moves) := by
  induction moves using List.reverseRecOn with
  | nil => exact ⟨[], [], account_start settings files⟩
  | append_singleton moves m ih =>
    obtain ⟨served, rest, h⟩ := ih
    rw [run_snoc, calls_snoc]
    exact account_step h m

theorem Account.unserved (h : Account settings made served rest d) :
    ∀ c ∈ rest, c.standing ≠ .closed := by
  have hplace := h.place
  have hqueued : ∀ {c : Connection}, c.standing = .queued → c.standing ≠ .closed := by
    intro c hc
    rw [hc]
    exact nofun
  have hgone : ∀ {c : Connection},
      c.standing = .queued ∨ c.standing = .reset → c.standing ≠ .closed := by
    rintro c (hc | hc) <;> rw [hc] <;> exact nofun
  cases hloop : d.loop with
  | selecting => rw [hloop] at hplace; exact fun c hc => hqueued (hplace.1 c hc)
  | ended => rw [hloop] at hplace; exact fun c hc => hqueued (hplace.1 c hc)
  | returned t => rw [hloop] at hplace; exact fun c hc => hgone (hplace.1 c hc)
  | refused failure => rw [hloop] at hplace; exact fun c hc => hgone (hplace.1 c hc)
  | reading client m =>
    rw [hloop] at hplace
    obtain ⟨b, rest', seen, rfl, -, haccepted, -, -, hrest, -⟩ := hplace
    intro c hc
    rcases List.mem_cons.mp hc with rfl | hc
    · rw [haccepted]
      exact nofun
    · exact hqueued (hrest c hc)
  | acting client command agenda =>
    rw [hloop] at hplace
    obtain ⟨before, b, -, -, -, hrest, -⟩ := hplace
    exact fun c hc => hqueued (hrest c hc)

/-- The connections of an account that were served are those that were closed. -/
theorem Account.served_eq (h : Account settings made served rest d) : d.served = served := by
  have hserved : served.filter (fun c => decide (c.standing = .closed)) = served :=
    List.filter_eq_self.mpr fun c hc => decide_eq_true (h.closed c hc).1
  have hrest : rest.filter (fun c => decide (c.standing = .closed)) = [] :=
    List.filter_eq_nil_iff.mpr fun c hc => by simpa using h.unserved c hc
  unfold Daemon.served
  rw [h.split, List.filter_append, hserved, hrest, List.append_nil]

/-- As long as no agenda is open, the calls are the serial ones. -/
theorem Account.idle (h : Account settings made served rest d)
    (hidle : ∀ client command agenda, d.loop ≠ .acting client command agenda) :
    made = serial settings 0 [] served := by
  have hplace := h.place
  cases hloop : d.loop with
  | acting client command agenda => exact absurd hloop (hidle client command agenda)
  | reading client m =>
    rw [hloop] at hplace
    obtain ⟨c, rest', seen, -, -, -, -, -, -, hmade⟩ := hplace
    exact hmade
  | selecting => rw [hloop] at hplace; exact hplace.2
  | ended => rw [hloop] at hplace; exact hplace.2
  | returned t => rw [hloop] at hplace; exact hplace.2
  | refused failure => rw [hloop] at hplace; exact hplace.2

/-- The calls are some of the serial ones, and all of those of every served connection but the
    last. -/
theorem Account.bounds (h : Account settings made served rest d) :
    made <+: serial settings 0 [] served ∧ serial settings 0 [] served.dropLast <+: made := by
  -- only while a command is carried out, calls are missing
  by_cases hidle : ∀ client command agenda, d.loop ≠ .acting client command agenda
  · rw [h.idle hidle]
    refine ⟨List.prefix_rfl, ?_⟩
    rcases List.eq_nil_or_concat served with rfl | ⟨before, c, rfl⟩
    · exact List.prefix_rfl
    · rw [List.concat_eq_append, List.dropLast_concat, serial_snoc]
      exact List.prefix_append _ _
  · push Not at hidle
    obtain ⟨client, command, agenda, hloop⟩ := hidle
    have hplace := h.place
    rw [hloop] at hplace
    obtain ⟨before, c, rfl, -, -, -, hbefore, hmade⟩ := hplace
    rw [List.dropLast_concat, hmade]
    exact ⟨List.prefix_append _ _, hbefore⟩

/-- A call is made for a connection that was read to its end, and is within the limit. -/
theorem Account.calling (h : Account settings made served rest d) {m : Move}
    {call : Nat × Attempt} (hcall : call ∈ callsOf settings d m) :
    ∃ c, d.connections[call.1]? = some c ∧ c.standing = .closed ∧ c.ending.isSome = true ∧
      Message.exceeds settings.limit c.written.length = false := by
  unfold callsOf at hcall
  split at hcall
  · split at hcall
    · rename_i client command action agenda hloop
      have hplace := h.place
      rw [hloop] at hplace
      obtain ⟨before, c, rfl, rfl, hfits, -⟩ := hplace
      rw [List.mem_singleton.mp hcall, h.split]
      exact ⟨c, by simp, (h.closed c (by simp)).1, (h.closed c (by simp)).2, hfits⟩
    · cases hcall
  · cases hcall

/-- **How the calls of a run relate to its connections.** -/
structure SerialCalls (settings : Settings) (made : List (Nat × Attempt)) (d : Daemon) : Prop where
  /-- The calls are all the calls there were. -/
  attempts : made.map (·.2) = d.attempts
  /-- The connections that were served are the first ones, in the order in which they came. -/
  first : d.served <+: d.connections
  /-- The calls are those of the served connections one after another, -/
  part : made <+: serial settings 0 [] d.served
  /-- where at most the last connection's are not yet made, -/
  whole : serial settings 0 [] d.served.dropLast <+: made
  /-- and none is missing unless a command is just being carried out. -/
  all : (∀ client command agenda, d.loop ≠ .acting client command agenda) →
    made = serial settings 0 [] d.served
  /-- No call is made for an earlier connection than the call before it. -/
  ordered : (made.map (·.1)).Pairwise (· ≤ ·)
  /-- The next call, if there is one, is for a connection whose stream has ended or failed, that was
      read to that end and that is within the limit. -/
  next : ∀ m, ∀ call ∈ callsOf settings d m, ∃ c, d.connections[call.1]? = some c ∧
    c.standing = .closed ∧ c.ending.isSome = true ∧
    Message.exceeds settings.limit c.written.length = false
  /-- Every connection that was served has one verdict in the log, and nothing else has. -/
  accounted : d.journal.filter Event.isVerdict = d.served.map (verdict settings.limit)

/-- **The calls of a run come connection by connection.** Whatever the clients, the surroundings and
    the daemon's two tasks do and in whichever order, and however the calls go: the calls are those
    that `dispatch` makes for the served connections one after another, the last ones of the last
    connection perhaps still to come. -/
theorem calls_serial (settings : Settings) (files : Filesystem) (moves : List Move) :
    SerialCalls settings (calls settings (start settings files) moves)
      (run settings (start settings files) moves) := by
  obtain ⟨served, rest, h⟩ := account_run settings files moves
  have hserved := h.served_eq
  obtain ⟨hpart, hwhole⟩ := h.bounds
  exact
    { attempts := h.attempts.symm
      first := by rw [hserved, h.split]; exact List.prefix_append _ _
      part := by rw [hserved]; exact hpart
      whole := by rw [hserved]; exact hwhole
      all := fun hidle => by rw [hserved]; exact h.idle hidle
      ordered := (serial_ordered settings 0 [] served).1.sublist (hpart.map _).sublist
      next := fun _ _ hcall => h.calling hcall
      accounted := by rw [hserved]; exact h.verdicts }

end Daemon

end Steward
