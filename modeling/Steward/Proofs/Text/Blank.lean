import Steward.Text.Blank

/-!
# A text without the blanks around it

* `Stripped` -- what is left of a text without the blanks at its ends, said without taking any away.
* `stripped_iff` -- it is what `trim` leaves, and nothing else is.
* `Stripped.cut` -- a first part of such a text has blanks at its end only.
-/

namespace Steward.Text

/-- **What is left of a text without the blanks around it**: nothing but blanks stands before it or
    behind it, and it neither begins nor ends with one. -/
inductive Stripped : (cs core : List Char) → Prop
  | mk {before core after : List Char} (hbefore : ∀ c ∈ before, isBlank c = true)
      (hafter : ∀ c ∈ after, isBlank c = true) (hfirst : ∀ c ∈ core.head?, isBlank c = false)
      (hlast : ∀ c ∈ core.getLast?, isBlank c = false) : Stripped (before ++ core ++ after) core

/-- A text that does not begin with a blank loses none at its beginning. -/
theorem dropWhile_isBlank {cs : List Char} (h : ∀ c ∈ cs.head?, isBlank c = false) :
    cs.dropWhile isBlank = cs := by
  cases cs with
  | nil => rfl
  | cons c cs =>
    have hc : ¬ isBlank c = true := Bool.eq_false_iff.mp (h c rfl)
    exact List.dropWhile_cons_of_neg hc

/-- What is left of a text does not begin with a blank. -/
theorem head?_dropWhile_isBlank (cs : List Char) :
    ∀ c ∈ (cs.dropWhile isBlank).head?, isBlank c = false := by
  intro c hc
  have hhead := List.head?_dropWhile_not isBlank cs
  rw [Option.mem_def.mp hc] at hhead
  exact hhead

theorem isBlank_of_mem_takeWhile (cs : List Char) :
    ∀ c ∈ cs.takeWhile isBlank, isBlank c = true :=
  fun _ hc => List.all_eq_true.mp List.all_takeWhile _ hc

/-- **What is trimmed is stripped.** -/
theorem stripped_trim (cs : List Char) : Stripped cs (trim cs) := by
  have hcs : cs.takeWhile isBlank ++ cs.dropWhile isBlank = cs := List.takeWhile_append_dropWhile
  have hfirst := head?_dropWhile_isBlank cs
  unfold trim
  generalize cs.dropWhile isBlank = rest at hcs hfirst ⊢
  -- the blanks at the end are those that `rest` begins with when it is turned round
  have hrest : (rest.reverse.dropWhile isBlank).reverse ++ (rest.reverse.takeWhile isBlank).reverse
      = rest := by
    rw [← List.reverse_append, List.takeWhile_append_dropWhile, List.reverse_reverse]
  have hcore : ∀ c ∈ (rest.reverse.dropWhile isBlank).reverse.head?, isBlank c = false := by
    intro c hc
    refine hfirst c ?_
    rw [← hrest, List.head?_append, Option.mem_def.mp hc]
    rfl
  have hlast : ∀ c ∈ (rest.reverse.dropWhile isBlank).reverse.getLast?, isBlank c = false := by
    rw [List.getLast?_reverse]
    exact head?_dropWhile_isBlank rest.reverse
  have hafter : ∀ c ∈ (rest.reverse.takeWhile isBlank).reverse, isBlank c = true :=
    fun c hc => isBlank_of_mem_takeWhile _ c (List.mem_reverse.mp hc)
  have hstripped := Stripped.mk (isBlank_of_mem_takeWhile cs) hafter hcore hlast
  rwa [List.append_assoc, hrest, hcs] at hstripped

theorem Stripped.trim_eq {cs core : List Char} (h : Stripped cs core) : trim cs = core := by
  cases h with
  | @mk before _ after hbefore hafter hfirst hlast =>
    unfold trim
    rw [List.append_assoc, List.dropWhile_append_of_pos hbefore]
    have hback : ∀ c ∈ after.reverse, isBlank c = true :=
      fun c hc => hafter c (List.mem_reverse.mp hc)
    have hend : ∀ c ∈ core.reverse.head?, isBlank c = false := by
      rw [List.head?_reverse]
      exact hlast
    cases core with
    | nil =>
      have hnone : (after ++ []).dropWhile isBlank = [] := List.dropWhile_append_of_pos hafter
      rw [List.append_nil] at hnone
      rw [List.nil_append, hnone]
      rfl
    | cons c core =>
      have hwhole : (c :: core ++ after).dropWhile isBlank = c :: core ++ after :=
        dropWhile_isBlank hfirst
      rw [hwhole, List.reverse_append, List.dropWhile_append_of_pos hback, dropWhile_isBlank hend,
        List.reverse_reverse]

/-- **What is left of a text without the blanks around it is what `trim` leaves.** -/
theorem stripped_iff {cs core : List Char} : Stripped cs core ↔ trim cs = core :=
  ⟨Stripped.trim_eq, fun h => h ▸ stripped_trim cs⟩

/-- **A first part of a text that has no blanks around it** has blanks at its end only. -/
theorem Stripped.cut {cs core front rest : List Char} (h : Stripped cs core)
    (hfront : front <+: core) (hrest : Stripped front rest) : rest <+: front := by
  cases hrest with
  | @mk before _ after hbefore _ _ _ =>
    cases before with
    | nil => exact List.prefix_append rest after
    | cons c before =>
      have hblank : isBlank c = true := hbefore c List.mem_cons_self
      obtain ⟨tail, rfl⟩ := hfront
      cases h with
      | mk _ _ hfirst _ =>
        rw [hfirst c rfl] at hblank
        cases hblank

end Steward.Text
