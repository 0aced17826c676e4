import Steward.Proofs.Command.Recognition
import Steward.Proofs.Dispatch.Calls
import Steward.Proofs.Lifecycle.History
import Steward.Proofs.Message.Content

/-!
# Which bytes make the host do what

A client writes bytes, and some bytes make the host do something that the client may not do itself.
This file says of the bytes alone which action they make the host do.

* `Asks` -- the table: the bytes that ask for each action.
* `asks_iff` -- it is the agenda of the command that the bytes are read as.
* `handleClient_asks` -- handling one connection within the limit makes exactly the calls that the
  bytes of the connection ask for, and over the limit it does nothing at all.
-/

namespace Steward

open Utf8 (encode decodeLossy)

/-! ## 1. The table -/

/-- **The bytes that ask for each action.** Four words must be met byte for byte; the clock is set
    by bytes that hold the word for it anywhere, to the text of all that follows the first `23`, if
    anything does. -/
inductive Asks (data : List UInt8) : Action → Prop
  | powerOff (h : data = encode "dotheshutdown") : Asks data .powerOff
  | reboot (h : data = encode "dothereboot") : Asks data .reboot
  | restartService (h : data = encode "dothedockerrestart") : Asks data .restartService
  | pullImages (h : data = encode "dothedockerpull") : Asks data .pullImages
  | setSystemClock (before after : List UInt8) (hword : encode "dothetimesync" <:+: data)
      (hsplit : data = before ++ 0x23 :: after) (hfirst : 0x23 ∉ before) (hafter : after ≠ []) :
      Asks data (.setSystemClock (decodeLossy after))

theorem mem_agenda_of_asks {data : List UInt8} {action : Action} (h : Asks data action) :
    action ∈ (Command.parse (decodeLossy data)).agenda := by
  obtain ⟨p1, p2, p3, p4, p5⟩ := Command.plain_words
  cases h with
  | powerOff h => rw [(Utf8.decodeLossy_eq_iff p1 data).mpr h]; decide
  | reboot h => rw [(Utf8.decodeLossy_eq_iff p2 data).mpr h]; decide
  | restartService h => rw [(Utf8.decodeLossy_eq_iff p3 data).mpr h]; decide
  | pullImages h => rw [(Utf8.decodeLossy_eq_iff p4 data).mpr h]; decide
  | setSystemClock before after hin hsplit hfirst hafter =>
    have hrest : Command.afterFirst 0x23 data = after :=
      (Command.afterFirst_eq_iff hafter).mpr ⟨before, hsplit, hfirst⟩
    have hts : Command.timestampOf (decodeLossy data) = decodeLossy after := by
      rw [Command.timestampOf_decodeLossy, hrest]
    have hsome : decodeLossy after ≠ "" := mt (Utf8.decodeLossy_eq_empty_iff after).mp hafter
    refine (setSystemClock_mem_agenda_iff _ _).mpr ⟨?_, hsome⟩
    refine (Command.parse_eq_iff _ _).mpr ⟨?_, hts.symm⟩
    exact (Utf8.infix_decodeLossy_iff p5 (by decide) data).mpr hin

theorem asks_of_mem_agenda {data : List UInt8} {action : Action}
    (hact : action ≠ .persistHardwareClock)
    (h : action ∈ (Command.parse (decodeLossy data)).agenda) : Asks data action := by
  obtain ⟨p1, p2, p3, p4, p5⟩ := Command.plain_words
  generalize hc : Command.parse (decodeLossy data) = c at h
  have hread := (Command.parse_eq_iff _ _).mp hc
  cases c with
  | shutdown =>
    rw [List.mem_singleton.mp h]
    exact .powerOff ((Utf8.decodeLossy_eq_iff p1 data).mp hread)
  | reboot =>
    rw [List.mem_singleton.mp h]
    exact .reboot ((Utf8.decodeLossy_eq_iff p2 data).mp hread)
  | serviceRestart =>
    rw [List.mem_singleton.mp h]
    exact .restartService ((Utf8.decodeLossy_eq_iff p3 data).mp hread)
  | servicePull =>
    rw [List.mem_singleton.mp h]
    exact .pullImages ((Utf8.decodeLossy_eq_iff p4 data).mp hread)
  | timeSync timestamp =>
    obtain ⟨hin, hts⟩ := hread
    obtain rfl : action = .setSystemClock timestamp :=
      (mem_agenda_timeSync h).resolve_right hact
    rw [setSystemClock_mem_agenda_iff] at h
    rw [Command.timestampOf_decodeLossy] at hts
    have hafter : Command.afterFirst 0x23 data ≠ [] := by
      rw [ne_eq, ← Utf8.decodeLossy_eq_empty_iff, ← hts]
      exact h.2
    obtain ⟨before, hsplit, hfirst⟩ := (Command.afterFirst_eq_iff hafter).mp rfl
    rw [hts]
    exact .setSystemClock before _ ((Utf8.infix_decodeLossy_iff p5 (by decide) data).mp hin)
      hsplit hfirst hafter
  | unrecognized raw => cases h

/-- **The bytes ask for what stands on the agenda of the command they are read as.** -/
theorem asks_iff (data : List UInt8) {action : Action} (hact : action ≠ .persistHardwareClock) :
    Asks data action ↔ action ∈ (Command.parse (decodeLossy data)).agenda :=
  ⟨mem_agenda_of_asks, asks_of_mem_agenda hact⟩

/-! ## 2. One connection -/

/-- Reading asks for no teardown. -/
theorem answers_readFrom (limit : Option Nat) (m : Message) (stream : List Piece) :
    Event.answers (Message.readFrom limit m stream).events = [] :=
  Message.filter_readFrom (fun _ => rfl) (fun _ _ => rfl) limit m stream

/-- A connection over the limit leaves calls and lifecycle as they were. -/
theorem handleClient_of_exceeds (host : Host) {limit : Option Nat} (desk : Desk)
    {stream : List Piece} (h : Message.exceeds limit (Message.content stream).length = true) :
    (handleClient host limit desk stream).desk = desk ∧
      (handleClient host limit desk stream).command = none ∧
      Event.answers (handleClient host limit desk stream).events = [] := by
  have hover : (Message.read limit stream).message.exceeded = true := by
    rw [Message.read_message, Message.of_exceeded, h]
  have hread : Event.answers (Message.read limit stream).events = [] :=
    answers_readFrom limit .empty stream
  unfold handleClient
  rw [if_pos hover]
  refine ⟨rfl, rfl, ?_⟩
  rw [Event.answers_append, ← List.singleton_append, Event.answers_append, hread]
  rfl

/-- A connection within the limit is dispatched: its bytes are read as a command, and the calls of
    that command's agenda are made. -/
theorem handleClient_of_fits (host : Host) {limit : Option Nat} (desk : Desk)
    {stream : List Piece} (h : Message.exceeds limit (Message.content stream).length = false) :
    let command := Command.parse (decodeLossy (Message.content stream))
    (handleClient host limit desk stream).desk.attempts =
        desk.attempts ++ host.carryOut desk.attempts command.agenda ∧
      (handleClient host limit desk stream).command = some command := by
  intro command
  rw [handleClient_eq host desk h]
  exact ⟨rfl, rfl⟩

/-- **Handling one connection.** Whatever a client writes before its stream ends or fails, and
    however it is cut into pieces: when the limit is absent or at least the number of bytes, the
    host is asked for exactly what the bytes ask for, each call once, and the hardware clock is set
    behind a system clock that was set and not otherwise; when the limit is smaller, no call is made, no
    command comes of it and no teardown is asked for. -/
theorem handleClient_asks (host : Host) (limit : Option Nat) (desk : Desk)
    (stream : List Piece) :
    let data := Message.content stream
    let h := handleClient host limit desk stream
    ∃ made, h.desk.attempts = desk.attempts ++ made ∧
      ((∀ n, limit = some n → data.length ≤ n) →
        (∀ action, action ≠ .persistHardwareClock →
          ((∃ a ∈ made, a.action = action) ↔ Asks data action)) ∧
        Paired made ∧ h.command = some (Command.parse (decodeLossy data))) ∧
      ((∃ n, limit = some n ∧ n < data.length) →
        made = [] ∧ h.command = none ∧ h.desk.lifecycle = desk.lifecycle ∧
        Event.answers h.events = []) := by
  intro data h
  cases hex : Message.exceeds limit data.length with
  | true =>
    obtain ⟨hdesk, hcommand, hanswers⟩ := handleClient_of_exceeds host desk hex
    refine ⟨[], by rw [List.append_nil]; exact congrArg Desk.attempts hdesk, fun hfits => ?_,
      fun _ => ⟨rfl, hcommand, congrArg Desk.lifecycle hdesk, hanswers⟩⟩
    rw [Message.exceeds_eq_false_iff.mpr hfits] at hex
    cases hex
  | false =>
    obtain ⟨hattempts, hcommand⟩ := handleClient_of_fits host desk hex
    refine ⟨_, hattempts, fun _ => ⟨fun action haction => ?_, ?_, hcommand⟩, ?_⟩
    · rw [attempted_iff host desk.attempts _ haction]
      exact (asks_iff data haction).symm
    · exact paired_carryOut host desk.attempts _
    · rintro ⟨n, rfl, hn⟩
      exact absurd (Message.exceeds_eq_false_iff.mp hex n rfl) (by omega)

end Steward
