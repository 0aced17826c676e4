import Steward.Host.Programs
import Steward.Proofs.Message.Privilege

/-!
# What a client can make the host run

A daemon that runs programs for anybody who can connect must let nobody choose them. This file says
which programs the bytes of a client have started, whoever came before.

* `started_attempt_iff` -- the program that an action starts; `started_iff_outcome` -- whether it
  starts one can be told from its outcome.
* `CallsFor` -- the table: the programs that some bytes call for, and when.
* `launched_eq` -- what is started for a client is a function of its own bytes.
* `mem_launched_iff` -- they are the programs in the table that can be run.
* `started_served` -- a run starts what its clients start, each as if it were the only one.
* `Confined` -- all of it, and what follows for the arguments; `programs_confined` proves it.
-/

namespace Steward.Host

open Utf8 (encode decodeLossy)

/-! ## 1. One program -/

/-- Whether a program is really run: its arguments can be passed, and it can be started. -/
def Invocation.Runs (programs : Programs) (i : Invocation) : Prop :=
  i.hasNul = false ∧ ∃ status stdout stderr, programs i.program = .ends status stdout stderr

/-- Whether a program is really run, and succeeds. -/
def Invocation.Succeeds (programs : Programs) (i : Invocation) : Prop :=
  i.hasNul = false ∧ ∃ status stdout stderr,
    programs i.program = .ends status stdout stderr ∧ status.succeeded = true

/-- **How an attempt to run a program ends**: it is refused or cannot be started, and no program is
    started; or it is started as it was asked for, and it succeeds or fails. -/
theorem Invocation.run_cases (programs : Programs) (i : Invocation) :
    (∃ error, i.run programs = ⟨none, .error (.spawn i.program error)⟩ ∧ ¬ i.Runs programs) ∨
    (i.run programs = ⟨some i, .ok ()⟩ ∧ i.Succeeds programs) ∨
    (∃ status stdout stderr,
      i.run programs = ⟨some i, .error (.failed i.program status stdout stderr)⟩ ∧
        i.Runs programs ∧ ¬ i.Succeeds programs) := by
  unfold run Runs Succeeds
  cases hnul : i.hasNul with
  | true => exact Or.inl ⟨.nulInArgument, rfl, nofun⟩
  | false =>
    cases hp : programs i.program with
    | unstartable error => exact Or.inl ⟨error, rfl, fun h => by obtain ⟨-, _, _, _, h⟩ := h; cases h⟩
    | ends status stdout stderr =>
      cases hs : status.succeeded with
      | true => exact Or.inr (Or.inl ⟨by simp [hs], rfl, status, stdout, stderr, rfl, hs⟩)
      | false =>
        refine Or.inr (Or.inr ⟨status, clip stdout, clip stderr, by simp [hs],
          ⟨rfl, status, stdout, stderr, rfl⟩, ?_⟩)
        rintro ⟨-, status', _, _, heq, hdone⟩
        rw [← (Behaviour.ends.inj heq).1, hs] at hdone
        cases hdone

theorem Invocation.Succeeds.runs {programs : Programs} {i : Invocation}
    (h : i.Succeeds programs) : i.Runs programs := by
  obtain ⟨hnul, status, stdout, stderr, hends, -⟩ := h
  exact ⟨hnul, status, stdout, stderr, hends⟩

theorem Invocation.run_started_iff (programs : Programs) (i j : Invocation) :
    (i.run programs).started = some j ↔ i = j ∧ i.Runs programs := by
  rcases i.run_cases programs with ⟨error, h, hruns⟩ | ⟨h, hdone⟩ | ⟨status, out, err, h, hruns, -⟩
  · rw [h]
    exact iff_of_false nofun fun h => hruns h.2
  · rw [h, Option.some.injEq]
    exact ⟨fun heq => ⟨heq, hdone.runs⟩, And.left⟩
  · rw [h, Option.some.injEq]
    exact ⟨fun heq => ⟨heq, hruns⟩, And.left⟩

theorem Invocation.run_ok_iff (programs : Programs) (i : Invocation) :
    (i.run programs).outcome = .ok () ↔ i.Succeeds programs := by
  rcases i.run_cases programs with ⟨error, h, hruns⟩ | ⟨h, hdone⟩ | ⟨status, out, err, h, -, hfail⟩
  · rw [h]
    exact iff_of_false nofun fun h => hruns h.runs
  · rw [h]
    exact iff_of_true rfl hdone
  · rw [h]
    exact iff_of_false nofun hfail

theorem Invocation.run_isSome_iff (programs : Programs) (i : Invocation) :
    (i.run programs).started.isSome = true ↔
      (i.run programs).outcome = .ok () ∨ ∃ program status stdout stderr,
        (i.run programs).outcome = .error (.failed program status stdout stderr) := by
  rcases i.run_cases programs with ⟨error, h, -⟩ | ⟨h, -⟩ | ⟨status, out, err, h, -⟩
  · rw [h]
    refine iff_of_false nofun ?_
    rintro (h | ⟨_, _, _, _, h⟩) <;> cases h
  · rw [h]
    exact iff_of_true rfl (Or.inl rfl)
  · rw [h]
    exact iff_of_true rfl (Or.inr ⟨_, _, _, _, rfl⟩)

namespace Setup

variable (setup : Setup) (programs : Programs)

/-! ## 2. One action -/

/-- **The program that an action starts.** -/
theorem started_attempt_iff (action : Action) (i : Invocation) :
    (setup.attempt programs action).started = some i ↔
      setup.invocation? action = some i ∧ i.Runs programs := by
  unfold attempt
  cases h : setup.invocation? action with
  | none => exact iff_of_false nofun fun h => nomatch h.1
  | some j =>
    rw [Invocation.run_started_iff, Option.some.injEq]
    exact and_congr_right fun heq => by rw [heq]

/-- **Whether an action has started a program can be told from its outcome**: it has when it is done
    or when its program failed, and not otherwise. -/
theorem started_iff_outcome (action : Action) :
    (setup.attempt programs action).started.isSome = true ↔
      (setup.attempt programs action).outcome = .ok () ∨ ∃ program status stdout stderr,
        (setup.attempt programs action).outcome =
          .error (.failed program status stdout stderr) := by
  unfold attempt
  cases setup.invocation? action with
  | none =>
    refine iff_of_false nofun ?_
    rintro (h | ⟨_, _, _, _, h⟩) <;> cases h
  | some i => exact i.run_isSome_iff programs

/-- The program that sets the clock: the timestamp is one of its arguments, whatever it holds. -/
def clockProgram (timestamp : String) : Invocation :=
  ⟨"date", ["+%Y-%m-%dT%H:%M:%S.%3NZ", "-u", "-s", timestamp]⟩

/-- It can be given a timestamp exactly when this holds no NUL character. -/
theorem hasNul_clockProgram_iff (timestamp : String) :
    (clockProgram timestamp).hasNul = true ↔ '\x00' ∈ timestamp.toList := by
  simp [clockProgram, Invocation.hasNul]

theorem invocation?_setSystemClock {timestamp : String} (h : timestamp ≠ "") :
    setup.invocation? (.setSystemClock timestamp) =
      some (clockProgram timestamp) := by
  have hfull : timestamp.isEmpty = false := by simpa [String.isEmpty_iff] using h
  simp [invocation?, hfull, clockProgram, dateFormat]

/-- The system clock is set when the program for it succeeds. -/
theorem succeeded_setSystemClock_iff (earlier : List Attempt) {timestamp : String}
    (h : timestamp ≠ "") :
    ((system setup programs).attempt earlier (.setSystemClock timestamp)).succeeded = true ↔
      (clockProgram timestamp).Succeeds programs := by
  rw [← Invocation.run_ok_iff, Attempt.succeeded_iff]
  simp only [Host.attempt, system, attempt, setup.invocation?_setSystemClock h]

/-! ## 3. One command -/

/-- The programs that are started for a command. -/
def programsOf (c : Command) : List Invocation :=
  setup.started programs (((system setup programs).carryOut [] c.agenda).map (·.action))

/-- A host that runs programs does not remember what it was asked before. -/
theorem carryOut_system (earlier : List Attempt) (agenda : List Action) :
    (system setup programs).carryOut earlier agenda =
      (system setup programs).carryOut [] agenda := by
  have hall : ∀ earlier earlier' : List Attempt,
      (system setup programs).carryOut earlier agenda =
        (system setup programs).carryOut earlier' agenda := by
    induction agenda with
    | nil => exact fun _ _ => rfl
    | cons action rest ih =>
      intro earlier earlier'
      rw [carryOut_cons, carryOut_cons]
      have hsame : (system setup programs).attempt earlier action =
          (system setup programs).attempt earlier' action := rfl
      rw [hsame]
      split
      · rw [ih]
      · rfl
  exact hall earlier []

theorem mem_programsOf_iff (c : Command) (i : Invocation) :
    i ∈ setup.programsOf programs c ↔
      ∃ action, (∃ a ∈ (system setup programs).carryOut [] c.agenda, a.action = action) ∧
        setup.invocation? action = some i ∧ i.Runs programs := by
  unfold programsOf started
  simp only [List.mem_filterMap, List.mem_map, started_attempt_iff]

/-! ## 4. The table -/

/-- **The programs that some bytes call for**: one for each word that must be met byte for byte; the
    clock program for a time sync, whose timestamp is its last argument, whatever it holds; and the
    hardware clock program, if the clock program succeeds with that timestamp. -/
inductive CallsFor (data : List UInt8) : Invocation → Prop
  | powerOff (h : Asks data .powerOff) : CallsFor data ⟨"poweroff", []⟩
  | reboot (h : Asks data .reboot) : CallsFor data ⟨"reboot", []⟩
  | restartService (h : Asks data .restartService) :
      CallsFor data ⟨"systemctl", ["restart", setup.service]⟩
  | pullImages (h : Asks data .pullImages) :
      CallsFor data ⟨"docker", ["compose", "--env-file", decodeLossy setup.envFile.bytes, "-f",
        decodeLossy setup.composeFile.bytes, "pull"]⟩
  | setSystemClock {timestamp : String} (h : Asks data (.setSystemClock timestamp)) :
      CallsFor data (clockProgram timestamp)
  | persistHardwareClock {timestamp : String} (h : Asks data (.setSystemClock timestamp))
      (hdone : (clockProgram timestamp).Succeeds programs) :
      CallsFor data ⟨"hwclock", ["-w"]⟩

/-- What bytes ask to set the clock to is never empty. -/
theorem ne_empty_of_asks {data : List UInt8} {timestamp : String}
    (h : Asks data (.setSystemClock timestamp)) : timestamp ≠ "" := by
  cases h with
  | setSystemClock before after hword hsplit hfirst hafter =>
    exact mt (Utf8.decodeLossy_eq_empty_iff after).mp hafter

/-- The calls that are made for some bytes are those they ask for. -/
theorem called_iff (data : List UInt8) {action : Action} (hact : action ≠ .persistHardwareClock) :
    (∃ a ∈ (system setup programs).carryOut [] (Command.parse (decodeLossy data)).agenda,
      a.action = action) ↔ Asks data action := by
  rw [attempted_iff _ _ _ hact, asks_iff data hact]

/-- The hardware clock is set when the bytes ask to set the system clock and the program for that
    succeeds. -/
theorem called_persist_iff (data : List UInt8) :
    (∃ a ∈ (system setup programs).carryOut [] (Command.parse (decodeLossy data)).agenda,
      a.action = .persistHardwareClock) ↔
    ∃ timestamp, Asks data (.setSystemClock timestamp) ∧
      (clockProgram timestamp).Succeeds programs := by
  rw [persisted_iff]
  refine exists_congr fun timestamp => ?_
  have hother : Action.setSystemClock timestamp ≠ .persistHardwareClock := nofun
  rw [← asks_iff data hother]
  exact and_congr_right fun hasks =>
    succeeded_setSystemClock_iff setup programs [] (ne_empty_of_asks hasks)

/-- **The programs that are started for some bytes are those they call for**, as far as these can be
    run. -/
theorem mem_programsOf_parse_iff (data : List UInt8) (i : Invocation) :
    i ∈ setup.programsOf programs (.parse (decodeLossy data)) ↔
      CallsFor setup programs data i ∧ i.Runs programs := by
  have hcalled (action : Action) (hact : action ≠ .persistHardwareClock) :=
    setup.called_iff programs data hact
  rw [mem_programsOf_iff]
  constructor
  · rintro ⟨action, hmade, hi, hruns⟩
    refine ⟨?_, hruns⟩
    cases action with
    | powerOff =>
      rw [← Option.some.inj hi]
      exact .powerOff ((hcalled .powerOff nofun).mp hmade)
    | reboot =>
      rw [← Option.some.inj hi]
      exact .reboot ((hcalled .reboot nofun).mp hmade)
    | restartService =>
      rw [← Option.some.inj hi]
      exact .restartService ((hcalled .restartService nofun).mp hmade)
    | pullImages =>
      rw [← Option.some.inj hi]
      exact .pullImages ((hcalled .pullImages nofun).mp hmade)
    | setSystemClock timestamp =>
      have hasks := (hcalled (.setSystemClock timestamp) nofun).mp hmade
      rw [invocation?_setSystemClock setup (ne_empty_of_asks hasks)] at hi
      rw [← Option.some.inj hi]
      exact .setSystemClock hasks
    | persistHardwareClock =>
      obtain ⟨timestamp, hasks, hdone⟩ := (called_persist_iff setup programs data).mp hmade
      rw [← Option.some.inj hi]
      exact .persistHardwareClock hasks hdone
  · rintro ⟨hcalls, hruns⟩
    cases hcalls with
    | powerOff h => exact ⟨.powerOff, (hcalled .powerOff nofun).mpr h, rfl, hruns⟩
    | reboot h => exact ⟨.reboot, (hcalled .reboot nofun).mpr h, rfl, hruns⟩
    | restartService h => exact ⟨.restartService, (hcalled .restartService nofun).mpr h, rfl, hruns⟩
    | pullImages h => exact ⟨.pullImages, (hcalled .pullImages nofun).mpr h, rfl, hruns⟩
    | @setSystemClock timestamp h =>
      exact ⟨.setSystemClock timestamp, (hcalled (.setSystemClock timestamp) nofun).mpr h,
        invocation?_setSystemClock setup (ne_empty_of_asks h), hruns⟩
    | persistHardwareClock h hdone =>
      exact ⟨.persistHardwareClock, (called_persist_iff setup programs data).mpr ⟨_, h, hdone⟩, rfl,
        hruns⟩

/-- The programs that are started with arguments of the daemon's own. -/
def ownPrograms : List Invocation :=
  [⟨"poweroff", []⟩, ⟨"reboot", []⟩, ⟨"systemctl", ["restart", setup.service]⟩,
    ⟨"docker", ["compose", "--env-file", decodeLossy setup.envFile.bytes, "-f",
      decodeLossy setup.composeFile.bytes, "pull"]⟩,
    ⟨"hwclock", ["-w"]⟩]

/-- A program that some bytes call for has the daemon's own arguments, or sets the clock to what
    follows the first `23`. -/
theorem CallsFor.own_or_date {data : List UInt8} {i : Invocation}
    (h : CallsFor setup programs data i) :
    i ∈ setup.ownPrograms ∨
    ∃ before after, data = before ++ 0x23 :: after ∧ 0x23 ∉ before ∧ after ≠ [] ∧
      i = clockProgram (decodeLossy after) := by
  cases h with
  | powerOff h => exact Or.inl (by simp [ownPrograms])
  | reboot h => exact Or.inl (by simp [ownPrograms])
  | restartService h => exact Or.inl (by simp [ownPrograms])
  | pullImages h => exact Or.inl (by simp [ownPrograms])
  | persistHardwareClock h hdone => exact Or.inl (by simp [ownPrograms])
  | setSystemClock h =>
    cases h with
    | setSystemClock before after hword hsplit hfirst hafter =>
      exact Or.inr ⟨before, after, hsplit, hfirst, hafter, rfl⟩

/-- The name of a command, unless it is a time sync, decides what it calls for. -/
theorem agenda_eq_of_name_eq {c c' : Command} (hname : c.name = c'.name)
    (hother : c.name ≠ "time_sync") : c.agenda = c'.agenda := by
  cases c <;> cases c' <;> simp_all [Command.name, Command.agenda]

/-- A timestamp with a NUL character is refused. -/
theorem attempt_setSystemClock_of_nul {timestamp : String} (h : '\x00' ∈ timestamp.toList) :
    setup.attempt programs (.setSystemClock timestamp) =
      ⟨none, .error (.spawn "date" .nulInArgument)⟩ := by
  have hfull : timestamp ≠ "" := by
    rintro rfl
    cases h
  rw [attempt, invocation?_setSystemClock setup hfull]
  exact if_pos ((hasNul_clockProgram_iff timestamp).mpr h)

/-- **No program is started for a timestamp with a NUL character**: the system clock is not set, so
    the hardware clock is left alone as well. -/
theorem programsOf_timeSync_of_nul {timestamp : String} (h : '\x00' ∈ timestamp.toList) :
    setup.programsOf programs (.timeSync timestamp) = [] := by
  have hrefused := setup.attempt_setSystemClock_of_nul programs h
  have hfailed : ((system setup programs).attempt [] (.setSystemClock timestamp)).succeeded =
      false := by
    simp only [Attempt.succeeded, Host.attempt, system, hrefused]
    rfl
  simp only [programsOf, Command.agenda]
  split
  · rfl
  · rw [carryOut_cons, hfailed]
    simp [started, hrefused]

/-! ## 5. One client after another -/

/-- The programs that are started for a client. -/
def launched (limit : Option Nat) (desk : Desk) (stream : List Piece) : List Invocation :=
  setup.started programs
    (((handleClient (system setup programs) limit desk stream).desk.attempts.drop
      desk.attempts.length).map (·.action))

/-- **What is started for a client is a matter of its own bytes**: nothing over the limit, and
    otherwise the programs of the command that the bytes are read as. -/
theorem launched_eq (limit : Option Nat) (desk : Desk) (stream : List Piece) :
    setup.launched programs limit desk stream =
      if Message.exceeds limit (Message.content stream).length then []
      else setup.programsOf programs (.parse (decodeLossy (Message.content stream))) := by
  unfold launched
  cases h : Message.exceeds limit (Message.content stream).length with
  | true =>
    rw [(handleClient_of_exceeds _ desk h).1, List.drop_length]
    rfl
  | false =>
    rw [(handleClient_of_fits _ desk h).1, List.drop_left, carryOut_system]
    rfl

/-- **The programs that are started for a client** are those its bytes call for, as far as these can
    be run, and none at all over the limit. -/
theorem mem_launched_iff (limit : Option Nat) (desk : Desk) (stream : List Piece)
    (i : Invocation) :
    i ∈ setup.launched programs limit desk stream ↔
      Message.exceeds limit (Message.content stream).length = false ∧
        CallsFor setup programs (Message.content stream) i ∧ i.Runs programs := by
  rw [launched_eq, ← mem_programsOf_parse_iff]
  cases Message.exceeds limit (Message.content stream).length <;> simp

/-- What a client is answered with decides what is started for it. -/
theorem launched_of_command {limit : Option Nat} {desk : Desk} {stream : List Piece} {c : Command}
    (h : (handleClient (system setup programs) limit desk stream).command = some c) :
    setup.launched programs limit desk stream = setup.programsOf programs c := by
  rw [launched_eq]
  cases hex : Message.exceeds limit (Message.content stream).length with
  | true =>
    rw [(handleClient_of_exceeds _ desk hex).2.1] at h
    cases h
  | false =>
    rw [(handleClient_of_fits _ desk hex).2] at h
    rw [← Option.some.inj h]
    rfl

/-- What is kept after clients have been handled one after another. -/
def served (host : Host) (limit : Option Nat) (desk : Desk) (streams : List (List Piece)) : Desk :=
  streams.foldl (fun desk stream => (handleClient host limit desk stream).desk) desk

/-- A client takes nothing back of what was attempted for others. -/
theorem attempts_handleClient (host : Host) (limit : Option Nat) (desk : Desk)
    (stream : List Piece) :
    ∃ made, (handleClient host limit desk stream).desk.attempts = desk.attempts ++ made := by
  cases h : Message.exceeds limit (Message.content stream).length with
  | true => exact ⟨[], by rw [(handleClient_of_exceeds host desk h).1, List.append_nil]⟩
  | false => exact ⟨_, (handleClient_of_fits host desk h).1⟩

theorem started_singleton (action : Action) :
    setup.started programs [action] = (setup.attempt programs action).started.toList := by
  cases h : (setup.attempt programs action).started <;> simp [started, h]

theorem started_append (xs ys : List Action) :
    setup.started programs (xs ++ ys) =
      setup.started programs xs ++ setup.started programs ys := by
  simp [started]

/-- A client adds the programs that are started for it. -/
theorem started_handleClient (limit : Option Nat) (desk : Desk) (stream : List Piece) :
    let h := handleClient (system setup programs) limit desk stream
    setup.started programs (h.desk.attempts.map (·.action)) =
      setup.started programs (desk.attempts.map (·.action)) ++
        setup.launched programs limit desk stream := by
  intro h
  obtain ⟨made, hmade⟩ := attempts_handleClient (system setup programs) limit desk stream
  unfold launched
  rw [hmade, List.drop_left, List.map_append, started_append]

/-- **What a run starts is what its clients start**, each of them as if it were the only one. -/
theorem started_served (limit : Option Nat) (desk : Desk) (streams : List (List Piece)) :
    setup.started programs ((served (system setup programs) limit desk streams).attempts.map
        (·.action)) =
      setup.started programs (desk.attempts.map (·.action)) ++
        streams.flatMap (setup.launched programs limit .initial) := by
  induction streams generalizing desk with
  | nil => simp [served]
  | cons stream rest ih =>
    have hsame : setup.launched programs limit desk stream =
        setup.launched programs limit .initial stream := by
      rw [launched_eq, launched_eq]
    have hstep := setup.started_handleClient programs limit desk stream
    rw [hsame] at hstep
    have hrest := ih (handleClient (system setup programs) limit desk stream).desk
    rw [hstep, List.append_assoc] at hrest
    exact hrest

/-! ## 6. Confinement -/

/-- **Clients are confined**: which programs their bytes have started, and with which arguments. -/
structure Confined : Prop where
  /-- What is started for a client, whoever came before, are the programs of the table that can be
      run, and nothing over the limit. -/
  each : ∀ limit desk stream i, i ∈ setup.launched programs limit desk stream ↔
    (∀ n, limit = some n → (Message.content stream).length ≤ n) ∧
      CallsFor setup programs (Message.content stream) i ∧ i.Runs programs
  /-- What is started for clients one after another is what is started for each of them. -/
  all : ∀ limit streams,
    setup.started programs ((served (system setup programs) limit .initial streams).attempts.map
        (·.action)) =
      streams.flatMap (setup.launched programs limit .initial)
  /-- Nobody's bytes get into a program but as one argument of the clock program, which is not
      empty, holds no NUL, and is all that follows the first `23` in the bytes of one client. -/
  one : ∀ limit streams i,
    i ∈ setup.started programs
      ((served (system setup programs) limit .initial streams).attempts.map (·.action)) →
    i ∈ setup.ownPrograms ∨
    ∃ stream ∈ streams, ∃ before after, Message.content stream = before ++ 0x23 :: after ∧
      0x23 ∉ before ∧ decodeLossy after ≠ "" ∧ '\x00' ∉ (decodeLossy after).toList ∧
      i = ⟨"date", ["+%Y-%m-%dT%H:%M:%S.%3NZ", "-u", "-s", decodeLossy after]⟩
  /-- Clients whose commands have the same name have the same programs started, unless they set the
      clock. -/
  alike : ∀ limit limit' desk desk' stream stream' c c',
    (handleClient (system setup programs) limit desk stream).command = some c →
    (handleClient (system setup programs) limit' desk' stream').command = some c' →
    c.name = c'.name → c.name ≠ "time_sync" →
    setup.launched programs limit desk stream = setup.launched programs limit' desk' stream'
  /-- A time sync whose timestamp holds a NUL starts nothing. -/
  nul : ∀ limit desk stream timestamp,
    (handleClient (system setup programs) limit desk stream).command = some (.timeSync timestamp) →
    '\x00' ∈ timestamp.toList → setup.launched programs limit desk stream = []
  /-- An action starts one program or none, and one exactly when it is done or its program failed. -/
  actions : ∀ earlier action,
    (setup.started programs [action]).length ≤ 1 ∧
    (setup.started programs [action] ≠ [] ↔
      (system setup programs).outcome earlier action = .ok () ∨
      ∃ program status stdout stderr, (system setup programs).outcome earlier action =
        .error (.failed program status stdout stderr))

/-- **Clients are confined**, whatever the daemon acts on and however the programs behave. -/
theorem programs_confined : setup.Confined programs where
  each limit desk stream i := by
    rw [mem_launched_iff, Message.exceeds_eq_false_iff]
  all limit streams := setup.started_served programs limit .initial streams
  one limit streams i hi := by
    rw [started_served] at hi
    obtain ⟨stream, hstream, hi⟩ := List.mem_flatMap.mp hi
    obtain ⟨-, hcalls, hruns⟩ := (mem_launched_iff ..).mp hi
    rcases hcalls.own_or_date with hown | ⟨before, after, hsplit, hfirst, hafter, rfl⟩
    · exact Or.inl hown
    · have hfull : decodeLossy after ≠ "" := mt (Utf8.decodeLossy_eq_empty_iff after).mp hafter
      have hclean : '\x00' ∉ (decodeLossy after).toList := by
        rw [← hasNul_clockProgram_iff, hruns.1]
        exact Bool.false_ne_true
      exact Or.inr ⟨stream, hstream, before, after, hsplit, hfirst, hfull, hclean, rfl⟩
  alike limit limit' desk desk' stream stream' c c' hc hc' hname hother := by
    rw [launched_of_command setup programs hc, launched_of_command setup programs hc', programsOf,
      programsOf, agenda_eq_of_name_eq hname hother]
  nul limit desk stream timestamp hc hnul := by
    rw [launched_of_command setup programs hc, programsOf_timeSync_of_nul setup programs hnul]
  actions earlier action := by
    rw [started_singleton, ne_eq, Option.toList_eq_nil_iff, ← ne_eq, ← Option.isSome_iff_ne_none]
    refine ⟨?_, setup.started_iff_outcome programs action⟩
    cases (setup.attempt programs action).started with
    | none => exact Nat.zero_le 1
    | some i => exact Nat.le_refl 1

end Setup

end Steward.Host
