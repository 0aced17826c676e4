import Steward.Proofs.Client.TimeSync
import Steward.Proofs.Text.Blank

/-!
# Which texts are taken for a time

The client reads the text it is given for a time in stages, and some stages check what an earlier
one has read. What it accepts in the end is one form, with blanks around it.

* `timeSync_ok_iff` -- a text is accepted exactly when a timestamp is left of it without the blanks.
* `timeSync_refuses` -- what is not accepted is refused, and the refusal names the text.
* `timeSync_cut` -- a timestamp that has lost its end is refused.
* `timeSync_accepts` -- all of it.
-/

namespace Steward.Client

open Timestamp

/-- **A text is accepted exactly when a timestamp is left of it** without the blanks around it. -/
theorem timeSync_ok_iff (now : Instant) (text : String) :
    (∃ c, timeSync now (some text) = .ok c) ↔
      ∃ core t, Text.Stripped text.toList core ∧ Written t core := by
  constructor
  · intro ⟨c, h⟩
    obtain ⟨t, ht, -⟩ := timeSync_eq_ok_iff.mp h
    exact ⟨_, t, Text.stripped_iff.mpr rfl, ht⟩
  · intro ⟨core, t, hcore, ht⟩
    rw [← Text.stripped_iff.mp hcore] at ht
    exact ⟨setClock t.instant, timeSync_eq_ok_iff.mpr ⟨t, ht, rfl⟩⟩

/-- **What is not accepted is refused**, and the refusal names the text. -/
theorem timeSync_refuses {now : Instant} {text : String}
    (h : ¬ ∃ c, timeSync now (some text) = .ok c) :
    ∃ cause, timeSync now (some text) = .error (.timestamp text cause) := by
  cases hread : read (Text.trim text.toList) with
  | ok t =>
    have haccepted : timeSync now (some text) = .ok (setClock t.instant) :=
      timeSync_eq_ok_iff.mpr ⟨t, read_eq_ok_iff.mp hread, rfl⟩
    exact absurd ⟨_, haccepted⟩ h
  | error cause =>
    refine ⟨cause, ?_⟩
    simp only [timeSync, hread]

/-- **A timestamp that has lost its end is not accepted.** -/
theorem timeSync_cut {now now' : Instant} {text : String} {c : Command} {core front : List Char}
    (h : timeSync now (some text) = .ok c) (hcore : Text.Stripped text.toList core)
    (hfront : front <+: core) (hshort : front ≠ core) :
    ¬ ∃ c', timeSync now' (some (.ofList front)) = .ok c' := by
  rw [timeSync_ok_iff, String.toList_ofList]
  intro ⟨rest, t', hrest, ht'⟩
  obtain ⟨t, ht, -⟩ := timeSync_eq_ok_iff.mp h
  rw [hcore.trim_eq] at ht
  have hpart : rest <+: front := hcore.cut hfront hrest
  -- what is left of the first part is a timestamp, so nothing follows it in the whole text
  obtain ⟨tail, rfl⟩ := hpart.trans hfront
  have hnone : tail = [] := ht'.eq_nil_of_append ht
  rw [hnone, List.append_nil] at hfront hshort
  exact hshort (hfront.eq_of_length (Nat.le_antisymm hfront.length_le hpart.length_le))

/-- **The texts that are accepted** are those of which a timestamp is left without the blanks around
    them: `YYYY-MM-DD`, a separator, `HH:MM:SS`, maybe a fraction, and an offset. Every other text is
    refused. So is every timestamp that has lost its end: no part of it is taken for another time. -/
theorem timeSync_accepts :
    (∀ now text, (∃ c, timeSync now (some text) = .ok c) ↔
      ∃ core t, Text.Stripped text.toList core ∧ Written t core) ∧
    (∀ now text, (¬ ∃ core t, Text.Stripped text.toList core ∧ Written t core) →
      ∃ cause, timeSync now (some text) = .error (.timestamp text cause)) ∧
    (∀ now text c core front, timeSync now (some text) = .ok c →
      Text.Stripped text.toList core → front <+: core → front ≠ core →
      ∃ cause, timeSync now (some (.ofList front)) =
        .error (.timestamp (.ofList front) cause)) := by
  refine ⟨timeSync_ok_iff, fun now text h => ?_, fun now text c core front h hcore hfront hshort => ?_⟩
  · rw [← timeSync_ok_iff now] at h
    exact timeSync_refuses h
  · exact timeSync_refuses (timeSync_cut h hcore hfront hshort)

/-- A no-break space is blank, and an offset may have a minus sign. Without its last digit the
    timestamp is too short, where it might have been one of another offset. -/
example :
    timeSync ⟨0, 0⟩ (some "\u00a02024-02-29 23:59:60.5\u221200:30") =
      .ok (.timeSync "2024-03-01T00:29:60.500Z") ∧
    timeSync ⟨0, 0⟩ (some "2024-02-29 23:59:60.5\u221200:3") =
      .error (.timestamp "2024-02-29 23:59:60.5\u221200:3" .short) := by decide +kernel

end Steward.Client
