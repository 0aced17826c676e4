import Steward.Proofs.Command.RoundTrip
import Steward.Proofs.Dispatch.Outcomes

/-!
# The two clocks

A time sync sets the system clock and then copies it to the hardware clock, where a wrong time would
outlive the next start of the host. So the copy is made only of a time that was just set. This file
says so of all calls of many messages, one after another.

* `Answered` -- each call went as the host answers it after the calls before it.
* `exists_cut` -- a call of many messages is a call of one of them, between those of the others.
* `Clocked` -- how the calls to the two clocks stand to each other; `clocked_of_paired` proves it from
  what a single message does (`Paired`).
* `Caused` -- how many calls a message causes, and what it sets the clock to.
* `clocks_kept` -- all of this, for any messages and any host.
-/

namespace Steward

/-! ## 1. What the host answers -/

/-- **Calls that went as the host answers them**, each after the calls before it. -/
inductive Answered (host : Host) : List Attempt → Prop
  | none : Answered host []
  | next {made : List Attempt} {a : Attempt} (h : Answered host made)
      (ha : a.outcome = host.outcome (made.map (·.action)) a.action) : Answered host (made ++ [a])

theorem answered_carryOut {host : Host} {earlier : List Attempt} (agenda : List Action)
    (h : Answered host earlier) : Answered host (earlier ++ host.carryOut earlier agenda) := by
  induction agenda generalizing earlier with
  | nil => rwa [Host.carryOut_nil, List.append_nil]
  | cons action rest ih =>
    have hnext : Answered host (earlier ++ [host.attempt earlier action]) := .next h rfl
    rw [Host.carryOut_cons, List.append_cons]
    split
    · exact ih hnext
    · rwa [Host.carryOut_nil, List.append_nil]

theorem answered_handleAll {host : Host} {desk : Desk} (messages : List String)
    (h : Answered host desk.attempts) :
    Answered host (Desk.handleAll host desk messages).1.attempts := by
  induction messages generalizing desk with
  | nil => exact h
  | cons m rest ih =>
    rw [Desk.handleAll_cons]
    refine ih ?_
    rw [Desk.attempts_handle, Desk.calls_handle]
    exact answered_carryOut _ h

/-! ## 2. One call among many -/

/-- **A call of many messages is a call of one of them.** What was called before it are the calls of
    the messages before that one and the first calls of that one, and so for what is called after. -/
theorem exists_cut {ds : List Dispatched} {before after : List Attempt} {a : Attempt}
    (h : ds.flatMap (·.attempts) = before ++ a :: after) :
    ∃ ds₁ d ds₂ first last, ds = ds₁ ++ d :: ds₂ ∧ d.attempts = first ++ a :: last ∧
      before = ds₁.flatMap (·.attempts) ++ first ∧
      after = last ++ ds₂.flatMap (·.attempts) := by
  induction ds generalizing before with
  | nil =>
    rw [List.flatMap_nil] at h
    exact absurd h.symm (by simp)
  | cons d ds ih =>
    rw [List.flatMap_cons] at h
    -- either the call comes after the calls of the first message, or it is one of them
    rcases List.append_eq_append_iff.mp h with ⟨later, hbefore, hrest⟩ | ⟨own, hown, hrest⟩
    · obtain ⟨ds₁, d', ds₂, first, last, hds, hd, hbefore', hafter⟩ := ih hrest
      refine ⟨d :: ds₁, d', ds₂, first, last, ?_, hd, ?_, hafter⟩
      · rw [hds, List.cons_append]
      · rw [hbefore, hbefore', List.flatMap_cons, List.append_assoc]
    · cases own with
      | nil =>
        have hnothing : ds.flatMap (·.attempts) = [] ++ a :: after := hrest.symm
        obtain ⟨ds₁, d', ds₂, first, last, hds, hd, hbefore', hafter⟩ := ih hnothing
        refine ⟨d :: ds₁, d', ds₂, first, last, ?_, hd, ?_, hafter⟩
        · rw [hds, List.cons_append]
        · have hnone := List.append_eq_nil_iff.mp hbefore'.symm
          rw [List.flatMap_cons, hnone.1, hnone.2, hown]
          simp
      | cons b last =>
        obtain ⟨rfl, hafter⟩ := List.cons.inj hrest
        exact ⟨[], d, ds, before, last, rfl, hown, rfl, hafter⟩

/-- In the calls of one message, one to the hardware clock is the second of two, and the first of
    them has set the system clock. -/
theorem Paired.persisted {made first last : List Attempt} {b : Attempt} (h : Paired made)
    (hcut : made = first ++ b :: last) (hb : b.action = .persistHardwareClock) :
    ∃ a timestamp, first = [a] ∧ a.action = .setSystemClock timestamp ∧ a.outcome = .ok () := by
  cases h with
  | none => simp at hcut
  | one halone _ =>
    cases first with
    | nil =>
      rw [(List.cons.inj hcut).1] at halone
      exact absurd hb halone
    | cons x first => simp at hcut
  | two hset hdone _ =>
    rcases first with _ | ⟨x, _ | ⟨y, first⟩⟩
    · rw [(List.cons.inj hcut).1, hb] at hset
      cases hset
    · rw [(List.cons.inj hcut).1] at hset hdone
      exact ⟨x, _, rfl, hset, (Attempt.succeeded_iff x).mp hdone⟩
    · simp at hcut

/-- In the calls of one message, a system clock that was set is the first of two, and the second of
    them is to the hardware clock. -/
theorem Paired.set {made first last : List Attempt} {a : Attempt} {timestamp : String}
    (h : Paired made) (hcut : made = first ++ a :: last)
    (ha : a.action = .setSystemClock timestamp) (hdone : a.outcome = .ok ()) :
    ∃ b, first = [] ∧ last = [b] ∧ b.action = .persistHardwareClock := by
  cases h with
  | none => simp at hcut
  | one _ hfailed =>
    cases first with
    | nil =>
      rw [(List.cons.inj hcut).1] at hfailed
      have hnot := hfailed timestamp ha
      rw [(Attempt.succeeded_iff a).mpr hdone] at hnot
      cases hnot
    | cons x first => simp at hcut
  | @two _ b _ _ _ hpersist =>
    rcases first with _ | ⟨x, _ | ⟨y, first⟩⟩
    · exact ⟨b, rfl, (List.cons.inj hcut).2.symm, hpersist⟩
    · have hb : b = a := (List.cons.inj (List.cons.inj hcut).2).1
      rw [hb, ha] at hpersist
      cases hpersist
    · simp at hcut

/-- **How the calls to the two clocks stand to each other**, in the calls of many messages. -/
structure Clocked (ds : List Dispatched) : Prop where
  /-- A call to the hardware clock comes directly behind one that has set the system clock. -/
  behind : ∀ before b after, ds.flatMap (·.attempts) = before ++ b :: after →
    b.action = .persistHardwareClock →
    ∃ earlier a timestamp, before = earlier ++ [a] ∧ a.action = .setSystemClock timestamp ∧
      a.outcome = .ok ()
  /-- A call that has set the system clock is the first of the two calls of its message, the second
      of them is to the hardware clock, and the next call, if there is one, is not. -/
  ahead : ∀ before a after timestamp, ds.flatMap (·.attempts) = before ++ a :: after →
    a.action = .setSystemClock timestamp → a.outcome = .ok () →
    ∃ ds₁ d b ds₂, ds = ds₁ ++ d :: ds₂ ∧ d.attempts = [a, b] ∧
      before = ds₁.flatMap (·.attempts) ∧ after = b :: ds₂.flatMap (·.attempts) ∧
      b.action = .persistHardwareClock ∧
      ∀ c rest, ds₂.flatMap (·.attempts) = c :: rest → c.action ≠ .persistHardwareClock

/-- **What every single message keeps, all of them together keep.** -/
theorem clocked_of_paired {ds : List Dispatched} (h : ∀ d ∈ ds, Paired d.attempts) :
    Clocked ds := by
  have hbehind : ∀ before b after, ds.flatMap (·.attempts) = before ++ b :: after →
      b.action = .persistHardwareClock →
      ∃ earlier a timestamp, before = earlier ++ [a] ∧ a.action = .setSystemClock timestamp ∧
        a.outcome = .ok () := by
    intro before b after hall hb
    obtain ⟨ds₁, d, ds₂, first, last, hds, hd, hbefore, -⟩ := exists_cut hall
    have hpaired : Paired d.attempts := h d (by rw [hds]; simp)
    obtain ⟨a, timestamp, rfl, ha, hdone⟩ := hpaired.persisted hd hb
    exact ⟨_, a, timestamp, hbefore, ha, hdone⟩
  refine ⟨hbehind, ?_⟩
  intro before a after timestamp hall ha hdone
  obtain ⟨ds₁, d, ds₂, first, last, hds, hd, hbefore, hafter⟩ := exists_cut hall
  have hpaired : Paired d.attempts := h d (by rw [hds]; simp)
  obtain ⟨b, rfl, rfl, hb⟩ := hpaired.set hd ha hdone
  rw [List.append_nil] at hbefore
  refine ⟨ds₁, d, b, ds₂, hds, hd, hbefore, hafter, hb, ?_⟩
  -- a second call to the hardware clock would stand behind the first one
  intro c rest hrest hc
  have hcut : ds.flatMap (·.attempts) = (before ++ [a, b]) ++ c :: rest := by
    rw [hall, hafter, hrest]
    simp
  obtain ⟨earlier, a', timestamp', hlast, ha', -⟩ := hbehind _ c rest hcut hc
  have hba : b = a' := by
    have hends := congrArg List.getLast? hlast
    simpa using hends
  rw [hba, ha'] at hb
  cases hb

/-! ## 3. What one message causes -/

/-- **The calls that a message causes**: how many they are, and what they set the clock to. -/
structure Caused (m : String) (made : List Attempt) : Prop where
  word : m ∈ Command.exactWords → made.length = 1
  unrecognized : m ∉ Command.exactWords → ¬ Command.HoldsTimeSync m → made.length = 0
  /-- A time sync with no text behind its first delimiter, or with no delimiter. -/
  untimed : Command.HoldsTimeSync m → Command.Behind Command.delimiter m.toList [] →
    made.length = 0
  /-- Any other time sync tries to set the clock, and causes a second call if the clock was set. -/
  timed : ∀ text, Command.HoldsTimeSync m → Command.Behind Command.delimiter m.toList text →
    text ≠ [] → ∃ a, made.head? = some a ∧ a.action = .setSystemClock (.ofList text) ∧
      (a.outcome = .ok () → made.length = 2) ∧ (a.outcome ≠ .ok () → made.length = 1)
  /-- The clock is never set to anything but the text behind the first delimiter. -/
  clock : ∀ a ∈ made, ∀ timestamp, a.action = .setSystemClock timestamp →
    timestamp ≠ "" ∧ Command.Behind Command.delimiter m.toList timestamp.toList

theorem agenda_of_mem_exactWords {m : String} (h : m ∈ Command.exactWords) :
    ∃ action, (Command.parse m).agenda = [action] := by
  simp only [Command.exactWords, List.mem_cons, List.not_mem_nil, or_false] at h
  rcases h with rfl | rfl | rfl | rfl
  · exact ⟨.powerOff, by decide⟩
  · exact ⟨.reboot, by decide⟩
  · exact ⟨.restartService, by decide⟩
  · exact ⟨.pullImages, by decide⟩

/-- The text that a time sync is given stands behind its first delimiter. -/
theorem parse_of_behind {m : String} {text : List Char} (h : Command.HoldsTimeSync m)
    (hbehind : Command.Behind Command.delimiter m.toList text) :
    Command.parse m = .timeSync (.ofList text) := by
  rw [Command.parse_of_holdsTimeSync h, Command.timestampOf,
    Command.afterFirst_of_behind hbehind]

theorem caused_carryOut (host : Host) (earlier : List Attempt) (m : String) :
    Caused m (host.carryOut earlier (Command.parse m).agenda) := by
  constructor
  case word =>
    intro hm
    obtain ⟨action, hagenda⟩ := agenda_of_mem_exactWords hm
    rw [hagenda, Host.carryOut_singleton, List.length_singleton]
  case unrecognized =>
    intro hm hout
    have hnot : Command.occursIn Command.timeSyncWord.toList m.toList ≠ true :=
      fun h => hout ((Command.occursIn_iff _ _).mp h)
    rw [Command.parse_of_not_mem hm, if_neg hnot]
    rfl
  case untimed =>
    intro hin hbehind
    rw [parse_of_behind hin hbehind]
    rfl
  case timed =>
    intro text hin hbehind htext
    have hne : String.ofList text ≠ "" := by simpa using htext
    rw [parse_of_behind hin hbehind, agenda_timeSync hne, Host.carryOut_cons]
    refine ⟨_, rfl, rfl, fun hdone => ?_, fun hfailed => ?_⟩
    · rw [if_pos ((Attempt.succeeded_iff _).mpr hdone), Host.carryOut_singleton]
      rfl
    · rw [if_neg fun h => hfailed ((Attempt.succeeded_iff _).mp h), Host.carryOut_nil]
      rfl
  case clock =>
    intro a ha timestamp hset
    have hmem : a.action ∈ (Command.parse m).agenda :=
      (Host.carryOut_prefix host earlier _).subset (List.mem_map_of_mem ha)
    rw [hset, setSystemClock_mem_agenda_iff] at hmem
    obtain ⟨hparse, hne⟩ := hmem
    obtain ⟨-, htext⟩ := (Command.parse_eq_iff _ _).mp hparse
    refine ⟨hne, Command.behind_iff.mpr ?_⟩
    rw [htext, Command.timestampOf, String.toList_ofList]

/-! ## 4. Many messages -/

/-- **The clocks are kept in step.** Whatever messages come, and however the host answers: a call to
    the hardware clock comes directly behind one of the same message that has set the system clock,
    and such a call is always followed by exactly one to the hardware clock; and each message causes
    as many calls, and sets the clock to the text, that its own characters say. -/
theorem Desk.clocks_kept (host : Host) (messages : List String) :
    let r := handleAll host .initial messages
    r.1.attempts = r.2.flatMap (·.attempts) ∧ Answered host r.1.attempts ∧ Clocked r.2 ∧
      List.Forall₂ (fun m d => Caused m d.attempts) messages r.2 := by
  intro r
  have hcaused : List.Forall₂ (fun m d => Caused m d.attempts) messages r.2 :=
    forall_handleAll (fun desk m => caused_carryOut host desk.attempts m) .initial messages
  have hpaired : List.Forall₂ (fun _ d => Paired d.attempts) messages r.2 :=
    forall_handleAll (fun desk m => paired_carryOut host desk.attempts _) .initial messages
  refine ⟨?_, answered_handleAll messages .none, clocked_of_paired ?_, hcaused⟩
  · rw [attempts_handleAll host .initial messages]
    rfl
  · intro d hd
    obtain ⟨i, hi, rfl⟩ := List.mem_iff_getElem.mp hd
    have hm : i < messages.length := by rwa [hpaired.length_eq]
    exact hpaired.get hm hi

end Steward
