import Steward.CommandLine.Send
import Steward.Proofs.Command.RoundTrip
import Steward.Proofs.Daemon.Journal
import Steward.Proofs.Except
import Steward.Proofs.Message.Content

/-!
# A command, from the client to the daemon

The client writes the bytes of a command's message, the daemon reads them in any number of reads,
which may cut a character in two, and dispatches the text. This file follows a command all the way.

* `content_reads` -- reads that are not empty deliver all their bytes.
* `verdicts_handle` -- a message that is handled is judged once, as the command it is read as.
* `send_eq_ok` -- whatever the client delivers is the message of its command.
* `Received` -- what becomes of a command that was sent; `received_as_sent` proves it for every
  command and every way of cutting its bytes.
-/

namespace Steward

/-! ## 1. Reading what was sent -/

/-- **Reads that are not empty deliver all their bytes.** -/
theorem Message.content_reads {reads : List (List UInt8)} (h : [] ∉ reads) :
    content (reads.map .bytes) = reads.flatten := by
  induction reads with
  | nil => rfl
  | cons chunk reads ih =>
    have hrest : [] ∉ reads := fun hm => h (List.mem_cons_of_mem chunk hm)
    cases chunk with
    | nil => exact absurd List.mem_cons_self h
    | cons b bs => rw [List.map_cons, content, ih hrest, List.flatten_cons]

theorem Message.verdicts_read (limit : Option Nat) (stream : List Piece) :
    (Message.read limit stream).events.filter Event.isVerdict = [] :=
  filter_readFrom (fun _ => rfl) (fun _ _ => rfl) limit .empty stream

/-- A message that is handled is judged once, as the command it is read as. -/
theorem Desk.verdicts_handle (host : Host) (desk : Desk) (m : String) :
    (desk.handle host m).2.events.filter Event.isVerdict =
      [.messageReceived (Command.parse m).name m] := by
  have haccounts : ∀ made : List Attempt,
      (made.flatMap host.account).filter Event.isVerdict = [] := by
    intro made
    refine verdicts_of_apart fun e he => ?_
    obtain ⟨a, -, ha⟩ := List.mem_flatMap.mp he
    exact (quiet_account host a).apart e ha
  simp only [handle, dispatch]
  rw [List.filter_append, List.filter_append, verdicts_opening, haccounts]
  cases (Command.parse m).request? with
  | none => rfl
  | some reason =>
    rw [verdicts_of_apart (apart_request desk.lifecycle reason)]
    rfl

/-! ## 2. Sending -/

/-- What comes of a delivery is up to whoever is behind the socket. -/
theorem Client.send_of_reach {files : Filesystem} {path : Path} {number : Nat}
    (h : reach files path = .ok number) (peers : Nat → Peer) (c : Command) :
    send files peers path c = match peers number with
      | .nobody => .error (.connect path .connectionRefused)
      | .reader => .ok (wire c)
      | .deserter => if (wire c).isEmpty then .ok [] else .error (.broken .connectionReset) := by
  unfold send
  rw [h]
  rfl

/-- **Whatever the client delivers is the message of its command.** -/
theorem Client.send_eq_ok {files : Filesystem} {peers : Nat → Peer} {path : Path} {c : Command}
    {bytes : List UInt8} (h : send files peers path c = .ok bytes) : bytes = wire c := by
  obtain ⟨number, hreach, -⟩ := bind_eq_ok_iff.mp h
  rw [send_of_reach hreach] at h
  split at h
  · cases h
  · exact (Except.ok.inj h).symm
  · split at h
    · rename_i hempty
      rw [← Except.ok.inj h, List.isEmpty_iff.mp hempty]
    · cases h

/-- An order that is carried out delivers the message of the command it asks for, and logs that
    command. -/
theorem CommandLine.Send.run_of_carryOut {now : Instant} {files : Filesystem}
    {peers : Nat → Client.Peer} {args : List Arg} {order : Order} {c : Command}
    {bytes : List UInt8} (hread : Order.read args = .ok order)
    (hout : order.carryOut now files peers = .ok (c, bytes)) :
    (run now files peers args).delivered = [Client.wire c] ∧
      (run now files peers args).logged = some (Client.loggedName c) := by
  have hrun : run now files peers args = ⟨0, [bytes], some (Client.loggedName c), none⟩ := by
    simp only [run, hread, hout]
  obtain ⟨_, -, hsend⟩ := bind_eq_ok_iff.mp hout
  obtain ⟨_, hsent, heq⟩ := bind_eq_ok_iff.mp hsend
  obtain ⟨rfl, rfl⟩ := Prod.mk.inj (Except.ok.inj heq)
  rw [hrun, Client.send_eq_ok hsent]
  exact ⟨rfl, rfl⟩

/-! ## 3. All the way -/

/-- **What becomes of a command** whose message is cut into some reads. -/
structure Received (host : Host) (limit : Option Nat) (desk : Desk) (c : Command)
    (reads : List (List UInt8)) : Prop where
  /-- The reads are what the client delivers to whom it finds reading, -/
  delivers : ∀ files peers path number, Client.reach files path = .ok number →
    peers number = .reader → Client.send files peers path c = .ok reads.flatten
  /-- and nothing else is ever delivered for the command. -/
  nothingElse : ∀ files peers path bytes, Client.send files peers path c = .ok bytes →
    bytes = reads.flatten
  /-- The daemon dispatches the command that the message reads as, -/
  command : (handleClient host limit desk (reads.map .bytes)).command = some (.parse c.toMessage)
  /-- and does so once: it handles that one message, -/
  handled : (handleClient host limit desk (reads.map .bytes)).desk =
    (desk.handle host c.toMessage).1
  /-- and judges no other. -/
  judged : (handleClient host limit desk (reads.map .bytes)).events.filter Event.isVerdict =
    [.messageReceived (Command.parse c.toMessage).name c.toMessage]
  /-- That is the command that was sent, unless it is a text that is sent as it is, -/
  same : (∀ raw, c ≠ .unrecognized raw) → Command.parse c.toMessage = c
  /-- which is read as any text is. -/
  text : ∀ raw, c = .unrecognized raw → Command.parse c.toMessage = .parse raw
  /-- The client ends its log with the name under which the daemon logs the command. -/
  logged : ∀ now files peers args order bytes, CommandLine.Send.Order.read args = .ok order →
    order.carryOut now files peers = .ok (c, bytes) →
    (CommandLine.Send.run now files peers args).delivered = [reads.flatten] ∧
      (CommandLine.Send.run now files peers args).logged = some (Command.parse c.toMessage).name

/-- **A command is received as it was sent**, however its bytes are cut into reads, as long as none
    is empty and the limit, if there is one, is at least their number. -/
theorem received_as_sent (host : Host) (limit : Option Nat) (desk : Desk) (c : Command)
    (reads : List (List UInt8)) (hreads : [] ∉ reads)
    (hbytes : reads.flatten = Utf8.encode c.toMessage)
    (hfits : ∀ n, limit = some n → (Utf8.encode c.toMessage).length ≤ n) :
    Received host limit desk c reads := by
  have hcontent : Message.content (reads.map .bytes) = Utf8.encode c.toMessage := by
    rw [Message.content_reads hreads, hbytes]
  have hlimit : Message.exceeds limit (Message.content (reads.map .bytes)).length = false := by
    rw [hcontent]
    exact Message.exceeds_eq_false_iff.mpr hfits
  have hhandled := handleClient_eq host desk hlimit
  rw [hcontent, Utf8.decodeLossy_encode] at hhandled
  constructor
  case delivers =>
    intro files peers path number hreach hreader
    rw [Client.send_of_reach hreach, hreader, hbytes]
    rfl
  case nothingElse =>
    intro files peers path bytes hsend
    rw [Client.send_eq_ok hsend, hbytes]
    rfl
  case command => rw [hhandled]
  case handled => rw [hhandled]
  case judged =>
    rw [hhandled, List.cons_append, List.filter_cons_of_neg Bool.false_ne_true,
      List.filter_append, Message.verdicts_read, Desk.verdicts_handle]
    rfl
  case same =>
    intro hnot
    exact (Command.parse_toMessage_iff c).mpr fun raw hraw => absurd hraw (hnot raw)
  case text =>
    rintro raw rfl
    rfl
  case logged =>
    intro now files peers args order bytes hread hout
    rw [hbytes]
    exact CommandLine.Send.run_of_carryOut hread hout

/-- A time sync whose text holds a delimiter and a word, cut within its first character. -/
theorem received_as_sent_cut :
    let c : Command := .timeSync "é#dothereboot"
    let reads := [(Utf8.encode c.toMessage).take 15, (Utf8.encode c.toMessage).drop 15]
    ([] ∉ reads ∧ reads.flatten = Utf8.encode c.toMessage ∧
      ∀ n, some 28 = some n → (Utf8.encode c.toMessage).length ≤ n) ∧
      Received (.recording []) (some 28) .initial c reads := by
  intro c reads
  have hreads : [] ∉ reads := by decide
  have hbytes : reads.flatten = Utf8.encode c.toMessage := by decide
  have hfits : ∀ n, some 28 = some n → (Utf8.encode c.toMessage).length ≤ n := by
    rintro n hn
    rw [← Option.some.inj hn]
    decide
  exact ⟨⟨hreads, hbytes, hfits⟩,
    received_as_sent (.recording []) (some 28) .initial c reads hreads hbytes hfits⟩

end Steward
