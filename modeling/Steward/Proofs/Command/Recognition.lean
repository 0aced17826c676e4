import Steward.Proofs.Text.Ascii

/-!
# Which bytes are which command

A command is recognized in the text that was read from some bytes, and that text may hold
replacements. Nothing is repaired into a command, and no byte of a command is swallowed: this file
says of the bytes themselves which command they are.

* `decodeLossy_eq_iff` -- the text is an ASCII word exactly when the bytes are the word's.
* `parse_eq_iff` -- a message is read as the one command that it reads as (`ReadFrom`): it asks to set
  the clock when it holds the word for it, and for anything else when it is the word for that.
* `timestampOf_decodeLossy` -- the timestamp is read from the bytes behind the first `23`.
-/

namespace Steward

namespace Utf8

theorem decodeLossy_eq_iff {word : String} (hw : Plain word.toList) (bytes : List UInt8) :
    decodeLossy bytes = word ↔ bytes = encode word := by
  rw [show encode word = encodeChars word.toList from rfl, ← decodeFrom_eq_iff hw]
  constructor
  · rintro rfl
    simp [decodeLossy]
  · intro h
    simp [decodeLossy, h]

theorem infix_decodeLossy_iff {word : String} (hw : Plain word.toList) (hne : word.toList ≠ [])
    (bytes : List UInt8) :
    word.toList <:+: (decodeLossy bytes).toList ↔ encode word <:+: bytes := by
  have h := infix_decodeFrom_iff hw hne (s := .boundary) trivial bytes
  simpa [decodeLossy, encode] using h

theorem decodeLossy_eq_empty_iff (bytes : List UInt8) : decodeLossy bytes = "" ↔ bytes = [] := by
  have hnone : Plain "".toList := fun c hc => by simp at hc
  have h := decodeLossy_eq_iff hnone bytes
  rwa [show encode "" = [] from rfl] at h

end Utf8

namespace Command

/-! ## 1. Words -/

theorem occursIn_iff (word cs : List Char) : occursIn word cs = true ↔ word <:+: cs := by
  induction cs with
  | nil => simp [occursIn]
  | cons c cs ih =>
    rw [occursIn, Bool.or_eq_true_iff, ih, List.isPrefixOf_iff_prefix, List.infix_cons_iff]

theorem plain_words : Utf8.Plain shutdownWord.toList ∧ Utf8.Plain rebootWord.toList ∧
    Utf8.Plain serviceRestartWord.toList ∧ Utf8.Plain servicePullWord.toList ∧
    Utf8.Plain timeSyncWord.toList := by
  simp [Utf8.Plain, shutdownWord, rebootWord, serviceRestartWord, servicePullWord, timeSyncWord]

/-- **What is read from the first `mark` on**: all that follows it, and nothing where there is
    none. -/
theorem afterFirst_eq_iff {α : Type} [DecidableEq α] {mark : α} {xs rest : List α}
    (hrest : rest ≠ []) :
    afterFirst mark xs = rest ↔ ∃ before, xs = before ++ mark :: rest ∧ mark ∉ before := by
  constructor
  · intro h
    have hm : mark ∈ xs := by
      refine Classical.byContradiction fun hm => hrest ?_
      rw [← h, ← List.append_nil xs, Utf8.afterFirst_append_of_not_mem hm]
      rfl
    obtain ⟨before, after, rfl, hbefore⟩ := List.eq_append_cons_of_mem hm
    rw [Utf8.afterFirst_append_of_not_mem hbefore] at h
    simp only [afterFirst, if_true] at h
    exact ⟨before, by rw [h], hbefore⟩
  · rintro ⟨before, rfl, hbefore⟩
    rw [Utf8.afterFirst_append_of_not_mem hbefore]
    simp [afterFirst]

/-! ## 2. Messages -/

/-- The messages that must match exactly. -/
def exactWords : List String := [shutdownWord, rebootWord, serviceRestartWord, servicePullWord]

/-- **Which messages a command is read from**, said of the message as a whole. -/
def ReadFrom (m : String) : Command → Prop
  | .shutdown => m = shutdownWord
  | .reboot => m = rebootWord
  | .serviceRestart => m = serviceRestartWord
  | .servicePull => m = servicePullWord
  | .timeSync timestamp => timeSyncWord.toList <:+: m.toList ∧ timestamp = timestampOf m
  | .unrecognized raw => raw = m ∧ m ∉ exactWords ∧ ¬ timeSyncWord.toList <:+: m.toList

/-- No exact word asks to set the clock. -/
theorem not_infix_exactWords : ∀ m ∈ exactWords, ¬ timeSyncWord.toList <:+: m.toList := by
  intro m hm
  rw [← occursIn_iff]
  revert m
  decide

/-- Every message reads as what it is read as. -/
theorem readFrom_parse (m : String) : ReadFrom m (parse m) := by
  unfold parse
  split
  · assumption
  split
  · assumption
  split
  · assumption
  split
  · assumption
  split
  · rename_i h
    exact ⟨(occursIn_iff _ _).mp h, rfl⟩
  · rename_i h1 h2 h3 h4 h5
    exact ⟨rfl, by simp [exactWords, h1, h2, h3, h4], fun h => h5 ((occursIn_iff _ _).mpr h)⟩

theorem parse_of_not_mem {m : String} (hm : m ∉ exactWords) :
    parse m = if occursIn timeSyncWord.toList m.toList then .timeSync (timestampOf m)
      else .unrecognized m := by
  simp only [exactWords, List.mem_cons, List.not_mem_nil, or_false, not_or] at hm
  obtain ⟨h1, h2, h3, h4⟩ := hm
  rw [parse, if_neg h1, if_neg h2, if_neg h3, if_neg h4]

/-- **A message is read as the one command it reads as.** -/
theorem parse_eq_iff (m : String) (c : Command) : parse m = c ↔ ReadFrom m c := by
  constructor
  · rintro rfl
    exact readFrom_parse m
  · intro h
    cases c with
    | shutdown => rw [show m = shutdownWord from h]; decide
    | reboot => rw [show m = rebootWord from h]; decide
    | serviceRestart => rw [show m = serviceRestartWord from h]; decide
    | servicePull => rw [show m = servicePullWord from h]; decide
    | timeSync timestamp =>
      obtain ⟨hin, rfl⟩ := h
      have hm : m ∉ exactWords := fun hm => not_infix_exactWords m hm hin
      rw [parse_of_not_mem hm, if_pos ((occursIn_iff _ _).mpr hin)]
    | unrecognized raw =>
      obtain ⟨rfl, hm, hout⟩ := h
      rw [parse_of_not_mem hm, if_neg fun hin => hout ((occursIn_iff _ _).mp hin)]

/-! ## 3. Bytes -/

/-- **The timestamp is what the bytes behind the first `23` read as.** -/
theorem timestampOf_decodeLossy (bytes : List UInt8) :
    timestampOf (Utf8.decodeLossy bytes) = Utf8.decodeLossy (afterFirst 0x23 bytes) := by
  have hmark : delimiter.toNat < 0x80 := by decide
  have h := Utf8.afterFirst_decodeFrom hmark (s := .boundary) trivial bytes
  simp only [timestampOf, Utf8.decodeLossy, String.toList_ofList, h]
  rfl

end Command

end Steward
