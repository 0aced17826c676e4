import Steward.Host.Programs
import Steward.Proofs.Text.Truncation

/-!
# What is kept of a failed program's output

When a program fails, what it printed on its two streams goes into the report. A stream may hold any
bytes and any number of them, and only the first of them are kept.

* `Fails` -- a program that was run for an action, and failed; `outcome_of_fails` is the report.
* `Kept` -- what is promised of the text that is kept of a stream: for any bytes, and for those of a
  text, which may be cut inside a character. `kept_clip` says that `clip` keeps it.
* `clip_congr` -- the text depends on the bytes that are kept and on whether there are more.
* `Reported` -- all that is promised of a report; `failure_reported` says that it is kept.
-/

namespace Steward.Host

open Utf8 (encode decodeLossy decodeFrom encodeChars replacement size Longest Straddled)

/-! ## 1. One stream -/

/-- **What is kept of a stream.** -/
structure Kept (printed : List UInt8) (text : String) : Prop where
  /-- As many as 8192 bytes are all read, and no mark is set; -/
  whole : printed.length ≤ 8192 → text = decodeLossy printed
  /-- of more, just as many are read, and the mark follows. -/
  cut : 8192 < printed.length →
    text = decodeLossy (printed.take 8192) ++ "\n[truncated]\n" ∧
      (decodeLossy (printed.take 8192)).length ≤ 8192
  /-- A text that has room is kept as it is. -/
  text_whole : ∀ t, printed = encode t → printed.length ≤ 8192 → text = t
  /-- Of a longer one its longest beginning of whole characters is kept, and one replacement for the
      character that lies across the cut, if one does. -/
  text_cut : ∀ t, printed = encode t → 8192 < printed.length →
    ∃ front, Longest 8192 t.toList front ∧
      (Straddled t.toList 8192 →
        text = String.ofList (front ++ [replacement]) ++ "\n[truncated]\n") ∧
      (¬ Straddled t.toList 8192 → text = String.ofList front ++ "\n[truncated]\n")

theorem clip_of_le {printed : List UInt8} (h : printed.length ≤ 8192) :
    clip printed = decodeLossy printed := if_pos h

theorem clip_of_lt {printed : List UInt8} (h : 8192 < printed.length) :
    clip printed = decodeLossy (printed.take 8192) ++ "\n[truncated]\n" :=
  if_neg (Nat.not_le.mpr h)

/-- A text that is cut is read up to the last whole character, and one replacement for the rest. -/
theorem decodeLossy_take_encode {t : String} {front : List Char} (h : Longest 8192 t.toList front)
    (hlong : 8192 < (encode t).length) :
    (Straddled t.toList 8192 →
      decodeLossy ((encode t).take 8192) = String.ofList (front ++ [replacement])) ∧
    (¬ Straddled t.toList 8192 → decodeLossy ((encode t).take 8192) = String.ofList front) := by
  have hread := h.decodeFrom_take hlong
  rw [h.straddled_iff hlong]
  constructor
  · intro hroom
    rw [if_pos hroom] at hread
    exact congrArg String.ofList hread
  · intro hfull
    rw [if_neg hfull, List.append_nil] at hread
    exact congrArg String.ofList hread

/-- **A stream is kept as promised.** -/
theorem kept_clip (printed : List UInt8) : Kept printed (clip printed) where
  whole := clip_of_le
  cut h := by
    refine ⟨clip_of_lt h, ?_⟩
    have hlength := Utf8.length_decodeFrom_le .boundary (printed.take 8192)
    have htake : (printed.take 8192).length ≤ 8192 := List.length_take_le _ _
    rw [decodeLossy, String.length_ofList]
    exact Nat.le_trans hlength htake
  text_whole t ht h := by
    rw [clip_of_le h, ht, Utf8.decodeLossy_encode]
  text_cut t ht h := by
    obtain ⟨front, hfront⟩ := Utf8.exists_longest 8192 t.toList
    subst ht
    obtain ⟨hacross, hbetween⟩ := decodeLossy_take_encode hfront h
    rw [clip_of_lt h]
    exact ⟨front, hfront, fun hs => by rw [hacross hs], fun hs => by rw [hbetween hs]⟩

/-- Two streams are the same as far as they are kept. -/
def Alike (printed printed' : List UInt8) : Prop :=
  printed'.take 8192 = printed.take 8192 ∧ (8192 < printed'.length ↔ 8192 < printed.length)

/-- **The text depends on no later byte**, but for whether there is one. -/
theorem clip_congr {printed printed' : List UInt8} (h : Alike printed printed') :
    clip printed' = clip printed := by
  obtain ⟨htake, hlonger⟩ := h
  by_cases hlong : 8192 < printed.length
  · rw [clip_of_lt hlong, clip_of_lt (hlonger.mpr hlong), htake]
  · have hshort' : ¬ 8192 < printed'.length := fun h => hlong (hlonger.mp h)
    rw [List.take_of_length_le (Nat.le_of_not_lt hlong),
      List.take_of_length_le (Nat.le_of_not_lt hshort')] at htake
    rw [htake]

/-! ## 2. Two streams -/

/-- **A program that was run for an action, and failed**: it printed on its two streams, and ended
    with a status that is no success. -/
structure Fails (setup : Setup) (programs : Programs) (action : Action) (i : Invocation)
    (status : WaitStatus) (stdout stderr : List UInt8) : Prop where
  invoked : setup.invocation? action = some i
  passed : i.hasNul = false
  ended : programs i.program = .ends status stdout stderr
  failed : status.succeeded = false

section

variable {setup : Setup} {programs : Programs} {action : Action} {i : Invocation}
  {status : WaitStatus} {stdout stderr : List UInt8}

/-- The report of a failure. -/
theorem outcome_of_fails (h : Fails setup programs action i status stdout stderr)
    (earlier : List Action) :
    (system setup programs).outcome earlier action =
      .error (.failed i.program status (clip stdout) (clip stderr)) := by
  show (setup.attempt programs action).outcome = _
  simp only [Setup.attempt, h.invoked, Invocation.run, h.passed, h.ended, h.failed,
    Bool.false_eq_true, if_false]

/-- **What is promised of the report of a failure**, with the texts that are kept of the streams. -/
structure Reported (outcome : Outcome) (i : Invocation) (status : WaitStatus)
    (stdout stderr : List UInt8) (out err : String) : Prop where
  report : outcome = .error (.failed i.program status out err)
  stdout_kept : Kept stdout out
  stderr_kept : Kept stderr err
  /-- Whatever program fails after it has printed the same on the one stream, as far as it is kept,
      has the same reported of it, whatever it has printed on the other. -/
  stdout_alone : ∀ setup' programs' action' i' status' stdout' stderr' earlier' out' err',
    Fails setup' programs' action' i' status' stdout' stderr' → Alike stdout stdout' →
    (system setup' programs').outcome earlier' action' =
      .error (.failed i'.program status' out' err') → out' = out
  stderr_alone : ∀ setup' programs' action' i' status' stdout' stderr' earlier' out' err',
    Fails setup' programs' action' i' status' stdout' stderr' → Alike stderr stderr' →
    (system setup' programs').outcome earlier' action' =
      .error (.failed i'.program status' out' err') → err' = err

/-- **Every failure is reported as promised**: of either stream its first bytes are kept, and the cut
    spoils one character at most. -/
theorem failure_reported (h : Fails setup programs action i status stdout stderr)
    (earlier : List Action) :
    ∃ out err, Reported ((system setup programs).outcome earlier action) i status stdout stderr
      out err := by
  refine ⟨clip stdout, clip stderr, outcome_of_fails h earlier, kept_clip stdout, kept_clip stderr,
    ?_, ?_⟩
  · intro _ _ _ _ _ stdout' stderr' earlier' out' err' hfails halike hreport
    rw [outcome_of_fails hfails earlier'] at hreport
    cases hreport
    exact clip_congr halike
  · intro _ _ _ _ _ stdout' stderr' earlier' out' err' hfails halike hreport
    rw [outcome_of_fails hfails earlier'] at hreport
    cases hreport
    exact clip_congr halike

end

/-- So it is where the cut falls inside a character. -/
theorem failure_reported_across :
    let printed := List.replicate 8191 0x61 ++ encode "é."
    let programs : Programs := fun _ => .ends (.exited 1) printed []
    Fails .standard programs .powerOff ⟨"poweroff", []⟩ (.exited 1) printed [] ∧
      ∃ out err, Reported ((system .standard programs).outcome [] .powerOff) ⟨"poweroff", []⟩
        (.exited 1) printed [] out err := by
  intro printed programs
  have hfails : Fails .standard programs .powerOff ⟨"poweroff", []⟩ (.exited 1) printed [] :=
    ⟨rfl, rfl, rfl, by decide⟩
  exact ⟨hfails, failure_reported hfails []⟩

end Steward.Host
