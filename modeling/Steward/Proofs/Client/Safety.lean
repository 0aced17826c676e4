import Steward.Proofs.Client.TimeSync
import Steward.Proofs.Dispatch.Outcomes
import Steward.Proofs.Host.Confinement
import Steward.Proofs.Message.Delivery

/-!
# What a daemon does with a time that was sent to it

A daemon takes any text for a timestamp, and refuses an empty one and one with a NUL character only
when it comes to setting the clock. The timestamps that the client makes are neither.

* `Arrives` -- a stream that delivers the message of a command; `handleClient_of_arrives` says that
  the daemon handles that one message.
* `Obeyed` -- what the daemon does with a timestamp that it does not refuse.
* `obeyed` -- it does so with every timestamp that is not empty and holds no NUL.
* `timeSync_safe` -- the timestamps that the client makes are such.
-/

namespace Steward

open Host (system)
open Host.Setup (clockProgram)
open TimeFields Timestamp

/-! ## 1. A message that arrives -/

namespace Client

/-- **A stream that delivers the message of a command**, however it is cut into pieces and whatever
    ends it, and that is within the limit. -/
structure Arrives (c : Command) (limit : Option Nat) (stream : List Piece) : Prop where
  content : Message.content stream = wire c
  fits : ∀ n, limit = some n → (wire c).length ≤ n

/-- **The daemon handles the one message that arrives.** -/
theorem handleClient_of_arrives (host : Host) (desk : Desk) {c : Command} {limit : Option Nat}
    {stream : List Piece} (h : Arrives c limit stream) :
    handleClient host limit desk stream =
      { command := some (.parse c.toMessage)
        desk := (desk.handle host c.toMessage).1
        events := .clientConnected :: (Message.read limit stream).events ++
          (desk.handle host c.toMessage).2.events } := by
  have hlimit : Message.exceeds limit (Message.content stream).length = false := by
    rw [h.content]
    exact Message.exceeds_eq_false_iff.mpr h.fits
  have hhandled := handleClient_eq host desk hlimit
  rwa [h.content, wire, Utf8.decodeLossy_encode] at hhandled

/-- It arrives even if a character is cut in two, and the stream fails in the end. -/
example :
    let bytes := wire (.timeSync "é")
    Arrives (.timeSync "é") none
      [.bytes (bytes.take 15), .pending, .bytes (bytes.drop 15), .failure "reset"] :=
  ⟨by decide, fun _ h => by cases h⟩

end Client

/-! ## 2. A time sync -/

/-- A failure that an attempt leaves in the log is the one it ended with. -/
theorem Host.outcome_of_actionFailed {host : Host} {a : Attempt} {title : String}
    {error : ActionError} (h : .actionFailed title error ∈ host.account a) :
    a.outcome = .error error := by
  rcases List.mem_append.mp h with hnotice | hreport
  · obtain ⟨i, -, hi⟩ := List.mem_map.mp hnotice
    cases hi
  · have hsame := List.mem_singleton.mp hreport
    unfold Attempt.report at hsame
    split at hsame
    · cases hsame
    · rename_i e he
      rw [he, (Event.actionFailed.inj hsame).2]

/-- A time sync is read as it was sent. -/
theorem parse_timeSync (stamp : String) :
    Command.parse (Command.timeSync stamp).toMessage = .timeSync stamp :=
  (Command.parse_toMessage_iff _).mpr fun raw hraw => by cases hraw

section

variable {stamp : String} (hsome : stamp ≠ "")

include hsome

/-- **A time sync calls for the system clock**, and for nothing else but the hardware clock. -/
theorem carryOut_timeSync (host : Host) (earlier : List Attempt) :
    ∃ rest, host.carryOut earlier (Command.timeSync stamp).agenda =
        host.attempt earlier (.setSystemClock stamp) :: rest ∧
      ∀ a ∈ rest, a.action = .persistHardwareClock := by
  rw [agenda_timeSync hsome, Host.carryOut_cons]
  refine ⟨_, rfl, ?_⟩
  split
  · rw [Host.carryOut_singleton]
    exact fun a ha => List.mem_singleton.mp ha ▸ rfl
  · exact fun a ha => absurd ha List.not_mem_nil

/-- **What is logged about a time sync**: that it came, that the clock is to be set, and what came of
    each call. -/
theorem events_timeSync (host : Host) (desk : Desk) :
    let m := (Command.timeSync stamp).toMessage
    (desk.handle host m).2.events = .messageReceived "time_sync" m :: .settingSystemTime stamp ::
      (desk.handle host m).2.attempts.flatMap host.account := by
  intro m
  have hparse : Command.parse m = .timeSync stamp := parse_timeSync stamp
  simp only [Desk.handle, dispatch, opening, hparse, remarks_timeSync hsome]
  exact List.append_nil _

end

/-! ## 3. A host that runs programs -/

/-- **How a program fails by itself**, whatever it is given: it cannot be started at all, or it was
    started. -/
inductive Host.OwnFailure (programs : Programs) : ActionError → Prop
  | unstartable {program : String} {cause : SystemError}
      (h : programs program = .unstartable cause) : OwnFailure programs (.spawn program cause)
  | ended {program : String} {status : WaitStatus} {stdout stderr : String} :
      OwnFailure programs (.failed program status stdout stderr)

/-- **A program that is given no NUL** fails by itself only. -/
theorem Host.Invocation.ownFailure {programs : Programs} {i : Invocation}
    (hnul : i.hasNul = false) {error : ActionError}
    (h : (i.run programs).outcome = .error error) : OwnFailure programs error := by
  unfold run at h
  rw [hnul] at h
  cases hp : programs i.program with
  | unstartable cause =>
    simp only [hp, Bool.false_eq_true, if_false, Except.error.injEq] at h
    exact h ▸ .unstartable hp
  | ends status stdout stderr =>
    simp only [hp, Bool.false_eq_true, if_false] at h
    split at h
    · cases h
    · exact Except.error.inj h ▸ .ended

namespace Host.Setup

variable (setup : Setup) (programs : Programs)

/-- **The programs of a time sync**: the clock program, if it can be started, and then at most the
    one for the hardware clock. -/
theorem programsOf_timeSync {stamp : String} (hsome : stamp ≠ "")
    (hruns : (clockProgram stamp).Runs programs) :
    ∃ rest, setup.programsOf programs (.timeSync stamp) = clockProgram stamp :: rest ∧
      ∀ i ∈ rest, i = ⟨"hwclock", ["-w"]⟩ := by
  obtain ⟨rest, hmade, hrest⟩ := carryOut_timeSync hsome (system setup programs) []
  have hstarted : (setup.attempt programs (.setSystemClock stamp)).started =
      some (clockProgram stamp) :=
    (setup.started_attempt_iff programs _ _).mpr ⟨setup.invocation?_setSystemClock hsome, hruns⟩
  refine ⟨setup.started programs (rest.map (·.action)), ?_, ?_⟩
  · unfold programsOf started
    rw [hmade, List.map_cons, attempt_action, List.filterMap_cons, hstarted]
  · intro i hi
    obtain ⟨action, haction, hstart⟩ := List.mem_filterMap.mp hi
    obtain ⟨a, ha, rfl⟩ := List.mem_map.mp haction
    rw [hrest a ha] at hstart
    exact (Option.some.inj ((setup.started_attempt_iff programs _ _).mp hstart).1).symm

end Host.Setup

/-! ## 4. Obeyed -/

namespace Client

/-- **What a daemon does with a timestamp that was sent to it**, whatever has happened before, when
    its message arrives. -/
structure Obeyed (stamp : String) : Prop where
  /-- Its message is read as the command that was sent. -/
  command : ∀ host limit desk stream, Arrives (.timeSync stamp) limit stream →
    (handleClient host limit desk stream).command = some (.timeSync stamp)
  /-- The host is asked once to set the system clock, to this timestamp, and is asked for nothing
      else but then the hardware clock. -/
  called : ∀ host limit desk stream, Arrives (.timeSync stamp) limit stream →
    ∃ a rest, (handleClient host limit desk stream).desk.attempts = desk.attempts ++ a :: rest ∧
      a.action = .setSystemClock stamp ∧ ∀ b ∈ rest, b.action = .persistHardwareClock
  /-- The log says so, -/
  noted : ∀ host limit desk stream, Arrives (.timeSync stamp) limit stream →
    .settingSystemTime stamp ∈ (handleClient host limit desk stream).events
  /-- and with a host that runs programs it never says that the timestamp is empty. -/
  notEmpty : ∀ setup programs limit desk stream, Arrives (.timeSync stamp) limit stream →
    ∀ title, .actionFailed title .emptyTimestamp ∉
      (handleClient (system setup programs) limit desk stream).events
  /-- A program that it says could not be started cannot be started at all, whatever it is given: no
      argument held a NUL. -/
  startable : ∀ setup programs limit desk stream, Arrives (.timeSync stamp) limit stream →
    ∀ title program cause, .actionFailed title (.spawn program cause) ∈
      (handleClient (system setup programs) limit desk stream).events →
    programs program = .unstartable cause
  /-- If `date` can be started it is, and the timestamp is its last argument. -/
  started : ∀ setup programs limit desk stream, Arrives (.timeSync stamp) limit stream →
    (∃ status stdout stderr, programs "date" = .ends status stdout stderr) →
    ∃ rest, Host.Setup.launched setup programs limit desk stream =
        ⟨"date", ["+%Y-%m-%dT%H:%M:%S.%3NZ", "-u", "-s", stamp]⟩ :: rest ∧
      ∀ i ∈ rest, i = ⟨"hwclock", ["-w"]⟩

/-- **What the log says to have failed** has failed by itself. -/
theorem ownFailure_of_arrives {stamp : String} (hsome : stamp ≠ "")
    (hnul : (clockProgram stamp).hasNul = false) {setup : Host.Setup} {programs : Host.Programs}
    {limit : Option Nat} {desk : Desk} {stream : List Piece}
    (h : Arrives (.timeSync stamp) limit stream) {title : String} {error : ActionError}
    (hmem : .actionFailed title error ∈
      (handleClient (system setup programs) limit desk stream).events) :
    Host.OwnFailure programs error := by
  rw [handleClient_of_arrives _ desk h, events_timeSync hsome] at hmem
  simp only [List.cons_append, List.mem_cons, List.mem_append, List.mem_flatMap, reduceCtorEq,
    false_or] at hmem
  -- reading has its own failures, so it is one of the two calls
  rcases hmem with hread | ⟨a, ha, haccount⟩
  · rcases Message.readFrom_events limit .empty stream _ hread with ⟨_, heq⟩ | ⟨_, _, heq⟩
    · cases heq
    · cases heq
  · have herror := Host.outcome_of_actionFailed haccount
    rw [Desk.calls_handle, parse_timeSync, agenda_timeSync hsome] at ha
    obtain ⟨before, action, haction, rfl⟩ := (system setup programs).exists_attempt ha
    simp only [Host.attempt, system, Host.Setup.attempt] at herror
    rcases List.mem_cons.mp haction with rfl | haction
    · simp only [setup.invocation?_setSystemClock hsome] at herror
      exact Host.Invocation.ownFailure hnul herror
    · rw [List.mem_singleton.mp haction] at herror
      exact Host.Invocation.ownFailure (i := ⟨"hwclock", ["-w"]⟩) (by decide) herror

/-- **A timestamp is obeyed if it is not empty and holds no NUL.** -/
theorem obeyed {stamp : String} (hsome : stamp ≠ "") (hclean : '\x00' ∉ stamp.toList) :
    Obeyed stamp := by
  have hnul : (clockProgram stamp).hasNul = false :=
    Bool.eq_false_iff.mpr fun h => hclean ((Host.Setup.hasNul_clockProgram_iff stamp).mp h)
  have hcommand : ∀ host limit desk stream, Arrives (.timeSync stamp) limit stream →
      (handleClient host limit desk stream).command = some (.timeSync stamp) := by
    intro host limit desk stream h
    rw [handleClient_of_arrives host desk h, parse_timeSync]
  constructor
  case command => exact hcommand
  case called =>
    intro host limit desk stream h
    obtain ⟨rest, hmade, hrest⟩ := carryOut_timeSync hsome host desk.attempts
    refine ⟨host.attempt desk.attempts (.setSystemClock stamp), rest, ?_, rfl, hrest⟩
    rw [handleClient_of_arrives host desk h, Desk.attempts_handle, Desk.calls_handle,
      parse_timeSync, hmade]
  case noted =>
    intro host limit desk stream h
    rw [handleClient_of_arrives host desk h, events_timeSync hsome]
    simp
  case notEmpty =>
    intro setup programs limit desk stream h title hmem
    cases ownFailure_of_arrives hsome hnul h hmem
  case startable =>
    intro setup programs limit desk stream h title program cause hmem
    cases ownFailure_of_arrives hsome hnul h hmem with
    | unstartable hcannot => exact hcannot
  case started =>
    intro setup programs limit desk stream h hdate
    rw [Host.Setup.launched_of_command setup programs (hcommand _ limit desk stream h)]
    exact setup.programsOf_timeSync programs hsome ⟨hnul, hdate⟩

/-! ## 5. The timestamps that are made -/

/-- A date and time holds no NUL. -/
theorem nul_not_mem_of_stamp {cs : List Char} (h : Stamp cs) : '\x00' ∉ cs := by
  intro hnul
  rcases h _ hnul with hdigit | hmark
  · exact absurd hdigit.1 (by decide)
  · exact absurd hmark (by decide)

/-- The day of a timestamp in universal time. -/
theorem days_instant {t : Timestamp} {cs : List Char} (ht : Written t cs) {days : Date → Int}
    (hdays : Date.Counts days) : days t.instant.fields.date = minutesBy days t / 1440 := by
  have hminutes := minutes_instant t
  rw [Instant.minutes_fields, ← ht.minutesBy_eq hdays] at hminutes
  rw [days_date hdays, ← hminutes]
  omega

/-- **Every timestamp that the client makes is obeyed.** It is not empty, it consists of digits and a
    few marks, and it ends for universal time. It has twenty-four characters if its date in universal
    time has a year of four digits, and otherwise more. -/
theorem timeSync_safe {now : Instant} {text : String} {c : Command}
    (h : timeSync now (some text) = .ok c) :
    ∃ t stamp d, Written t (Text.trim text.toList) ∧ c = .timeSync stamp ∧
      stamp ≠ "" ∧ Stamp stamp.toList ∧ stamp.toList.getLast? = some 'Z' ∧ Obeyed stamp ∧
      d.Exists ∧ (∀ days, Date.Counts days → days d = minutesBy days t / 1440) ∧
      (0 ≤ d.year ∧ d.year ≤ 9999 → stamp.length = 24) ∧
      (¬ (0 ≤ d.year ∧ d.year ≤ 9999) → 24 < stamp.length) := by
  obtain ⟨t, ht, hc⟩ := timeSync_eq_ok_iff.mp h
  have hshown : Shown t.instant.fields t.instant.text.toList := by
    rw [Instant.text, String.toList_ofList]
    exact shown_chars (Instant.sound_fields (regular_instant ht))
  have hlast := hshown.getLast?_eq
  have hsome : t.instant.text ≠ "" := by
    intro hempty
    rw [hempty] at hlast
    cases hlast
  refine ⟨t, t.instant.text, t.instant.fields.date, ht, hc, hsome, hshown.stamp, hlast, ?_,
    Date.exists_ofDayNumber _, fun days hdays => days_instant ht hdays, ?_, ?_⟩
  · exact obeyed hsome (nul_not_mem_of_stamp hshown.stamp)
  · exact fun hplain => String.length_toList.symm.trans (hshown.length_eq hplain)
  · intro hfar
    rw [← String.length_toList]
    exact hshown.lt_length hfar

/-- The year before the year zero takes a sign, and the timestamp a place more. -/
theorem timeSync_safe_early :
    timeSync ⟨0, 0⟩ (some "0000-01-01T00:00:00+00:01") =
        .ok (.timeSync "-0001-12-31T23:59:00.000Z") ∧
      Obeyed "-0001-12-31T23:59:00.000Z" := by
  have hmade : timeSync ⟨0, 0⟩ (some "0000-01-01T00:00:00+00:01") =
      .ok (.timeSync "-0001-12-31T23:59:00.000Z") := by decide +kernel
  obtain ⟨_, stamp, _, -, hstamp, -, -, -, hobeyed, -⟩ := timeSync_safe hmade
  obtain rfl := Command.timeSync.inj hstamp
  exact ⟨hmade, hobeyed⟩

end Client

end Steward
