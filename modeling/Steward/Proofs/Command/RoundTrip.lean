import Steward.Proofs.Command.Recognition

/-!
# Commands written and read again

Messages are written by `toMessage` and read by `parse`. The two are inverse to each other only on a
part of the commands and a part of the messages: a text that is sent as it is may read as one of the
other commands, and a time sync may be asked for in many ways.

* `Behind` -- what stands behind the first mark of a list, said without looking for it.
* `parse_toMessage_iff` -- the commands that are read as they were written.
* `toMessage_parse_iff` -- the messages that are written as they were read.
* `parse_eq_parse_iff` -- the messages that are read as the same command.
* `reads_back` -- all three, and that what was read once is read the same way for ever.
-/

namespace Steward.Command

/-! ## 1. Behind the first mark -/

/-- **What stands behind the first `mark` of a list**: all that follows it, and nothing where there
    is no `mark`. -/
inductive Behind {α : Type} (mark : α) : List α → List α → Prop
  | first {before after : List α} (h : mark ∉ before) : Behind mark (before ++ mark :: after) after
  | absent {xs : List α} (h : mark ∉ xs) : Behind mark xs []

theorem afterFirst_of_behind {α : Type} [DecidableEq α] {mark : α} {xs rest : List α}
    (h : Behind mark xs rest) : afterFirst mark xs = rest := by
  cases h with
  | first h =>
    rw [Utf8.afterFirst_append_of_not_mem h]
    simp [afterFirst]
  | absent h =>
    rw [← List.append_nil xs, Utf8.afterFirst_append_of_not_mem h]
    rfl

theorem behind_afterFirst {α : Type} [DecidableEq α] (mark : α) (xs : List α) :
    Behind mark xs (afterFirst mark xs) := by
  by_cases hm : mark ∈ xs
  · obtain ⟨before, after, rfl, hbefore⟩ := List.eq_append_cons_of_mem hm
    have hfirst : Behind mark (before ++ mark :: after) after := .first hbefore
    rwa [afterFirst_of_behind hfirst]
  · have habsent : Behind mark xs [] := .absent hm
    rwa [afterFirst_of_behind habsent]

/-- **What is read from the first mark on is what stands behind it.** -/
theorem behind_iff {α : Type} [DecidableEq α] {mark : α} {xs rest : List α} :
    Behind mark xs rest ↔ afterFirst mark xs = rest :=
  ⟨afterFirst_of_behind, fun h => h ▸ behind_afterFirst mark xs⟩

/-! ## 2. Time syncs -/

/-- Whether a message holds the word that asks to set the clock. -/
def HoldsTimeSync (m : String) : Prop := timeSyncWord.toList <:+: m.toList

theorem toList_toMessage_timeSync (timestamp : String) :
    (timeSync timestamp).toMessage.toList =
      timeSyncWord.toList ++ delimiter :: timestamp.toList := by
  simp [toMessage]

/-- There is no delimiter in the word, so the first one in the message of a time sync is the one
    that was written behind it. -/
theorem timestampOf_toMessage (timestamp : String) :
    timestampOf (timeSync timestamp).toMessage = timestamp := by
  have hword : delimiter ∉ timeSyncWord.toList := by decide
  have hbehind : Behind delimiter (timeSync timestamp).toMessage.toList timestamp.toList := by
    rw [toList_toMessage_timeSync]
    exact .first hword
  simp [timestampOf, afterFirst_of_behind hbehind]

theorem holdsTimeSync_toMessage (timestamp : String) :
    HoldsTimeSync (timeSync timestamp).toMessage := by
  unfold HoldsTimeSync
  rw [toList_toMessage_timeSync]
  exact List.infix_append_of_infix_left (List.infix_refl _)

/-- **Two messages have the same timestamp when the same text stands behind their first
    delimiters**, wherever these are. -/
theorem timestampOf_eq_iff (m n : String) :
    timestampOf m = timestampOf n ↔
      ∃ t, Behind delimiter m.toList t ∧ Behind delimiter n.toList t := by
  constructor
  · intro h
    have hlist : afterFirst delimiter m.toList = afterFirst delimiter n.toList :=
      String.ofList_injective h
    exact ⟨_, behind_iff.mpr hlist, behind_afterFirst _ _⟩
  · rintro ⟨t, hm, hn⟩
    rw [timestampOf, timestampOf, afterFirst_of_behind hm, afterFirst_of_behind hn]

/-! ## 3. Back and forth -/

/-- **A command is read as it was written**, unless it is a text that is sent as it is and that
    means something else. -/
theorem parse_toMessage_iff (c : Command) :
    parse c.toMessage = c ↔
      ∀ raw, c = .unrecognized raw → raw ∉ exactWords ∧ ¬ HoldsTimeSync raw := by
  rw [parse_eq_iff]
  cases c with
  | shutdown => simp [ReadFrom, toMessage]
  | reboot => simp [ReadFrom, toMessage]
  | serviceRestart => simp [ReadFrom, toMessage]
  | servicePull => simp [ReadFrom, toMessage]
  | timeSync timestamp =>
    have hread : ReadFrom (timeSync timestamp).toMessage (timeSync timestamp) :=
      ⟨holdsTimeSync_toMessage timestamp, (timestampOf_toMessage timestamp).symm⟩
    refine iff_of_true hread fun raw hraw => ?_
    cases hraw
  | unrecognized raw => simp [ReadFrom, toMessage, HoldsTimeSync]

/-- **What was read once is read the same way again.** -/
theorem parse_toMessage_parse (m : String) : parse (parse m).toMessage = parse m := by
  rw [parse_toMessage_iff]
  intro raw hraw
  obtain ⟨rfl, hwords, hout⟩ := (parse_eq_iff _ _).mp hraw
  exact ⟨hwords, hout⟩

/-- A message that is no time sync is written as it was read. -/
theorem toMessage_of_readFrom {m : String} {c : Command} (h : ReadFrom m c)
    (hout : ¬ HoldsTimeSync m) : c.toMessage = m := by
  cases c with
  | shutdown => exact h.symm
  | reboot => exact h.symm
  | serviceRestart => exact h.symm
  | servicePull => exact h.symm
  | timeSync timestamp => exact absurd h.1 hout
  | unrecognized raw => exact h.1

/-- A message that holds the word is read as a time sync. -/
theorem parse_of_holdsTimeSync {m : String} (h : HoldsTimeSync m) :
    parse m = .timeSync (timestampOf m) :=
  (parse_eq_iff _ _).mpr ⟨h, rfl⟩

/-- **A message is written as it was read**, unless it asks for a time sync in another way than the
    word, the delimiter, and the timestamp. -/
theorem toMessage_parse_iff (m : String) :
    (parse m).toMessage = m ↔
      ¬ HoldsTimeSync m ∨ timeSyncWord.toList ++ [delimiter] <+: m.toList := by
  by_cases hin : HoldsTimeSync m
  · rw [parse_of_holdsTimeSync hin]
    constructor
    · intro h
      refine Or.inr ⟨(timestampOf m).toList, ?_⟩
      rw [← congrArg String.toList h, toList_toMessage_timeSync]
      simp
    · rintro (hout | ⟨rest, hrest⟩)
      · exact absurd hin hout
      -- the message is the one that is written for `rest`
      · have hm : m = (timeSync (.ofList rest)).toMessage := by
          refine String.toList_injective ?_
          rw [toList_toMessage_timeSync, ← hrest]
          simp
        rw [hm, timestampOf_toMessage]
  · exact iff_of_true (toMessage_of_readFrom (readFrom_parse m) hin) (Or.inl hin)

/-- **Two messages are read as the same command** only if they are the same message, or both ask to
    set the clock to the same text. -/
theorem parse_eq_parse_iff (m n : String) :
    parse m = parse n ↔
      m = n ∨ HoldsTimeSync m ∧ HoldsTimeSync n ∧ timestampOf m = timestampOf n := by
  constructor
  · intro h
    by_cases hm : HoldsTimeSync m
    · rw [parse_of_holdsTimeSync hm] at h
      obtain ⟨hn, ht⟩ := (parse_eq_iff _ _).mp h.symm
      exact Or.inr ⟨hm, hn, ht⟩
    · have hn : ¬ HoldsTimeSync n := by
        intro hn
        rw [parse_of_holdsTimeSync hn] at h
        exact hm ((parse_eq_iff _ _).mp h).1
      have hback := toMessage_of_readFrom (readFrom_parse m) hm
      rw [h, toMessage_of_readFrom (readFrom_parse n) hn] at hback
      exact Or.inl hback.symm
  · rintro (rfl | ⟨hm, hn, ht⟩)
    · rfl
    · rw [parse_of_holdsTimeSync hm, parse_of_holdsTimeSync hn, ht]

/-- **Messages as a code for commands.** Exactly the texts that are sent as they are and mean
    something else are not read as they were written; reading, writing and reading again changes
    nothing; exactly the time syncs that do not begin with the word and the delimiter are not
    written as they were read; and two different messages are read as the same command exactly when
    both hold the word and the same text stands behind their first delimiters, wherever these
    stand, or nothing where there is none. -/
theorem reads_back :
    (∀ c : Command, parse c.toMessage = c ↔
      ¬ ∃ raw, c = .unrecognized raw ∧
        (raw ∈ ["dotheshutdown", "dothereboot", "dothedockerrestart", "dothedockerpull"] ∨
          "dothetimesync".toList <:+: raw.toList)) ∧
    (∀ m : String, parse (parse m).toMessage = parse m) ∧
    (∀ m : String, (parse m).toMessage = m ↔
      ¬ "dothetimesync".toList <:+: m.toList ∨ "dothetimesync#".toList <+: m.toList) ∧
    (∀ m n : String, parse m = parse n ↔ m = n ∨
      "dothetimesync".toList <:+: m.toList ∧ "dothetimesync".toList <:+: n.toList ∧
        ∃ t, Behind '#' m.toList t ∧ Behind '#' n.toList t) := by
  refine ⟨fun c => ?_, parse_toMessage_parse, toMessage_parse_iff, fun m n => ?_⟩
  · rw [parse_toMessage_iff]
    constructor
    · rintro h ⟨raw, hc, hraw⟩
      obtain ⟨hwords, hout⟩ := h raw hc
      exact hraw.elim hwords hout
    · intro h raw hc
      exact ⟨fun hword => h ⟨raw, hc, Or.inl hword⟩, fun hin => h ⟨raw, hc, Or.inr hin⟩⟩
  · have hsame := timestampOf_eq_iff m n
    rw [parse_eq_parse_iff, hsame]
    rfl

end Steward.Command
