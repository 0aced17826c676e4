import Mathlib.Tactic.ByContra
import Steward.Proofs.Filesystem.Removal

/-!
# Listening at a path, in place of whatever stands there

To listen, the daemon removes what stands at its path and then makes a socket there. The path is
looked up for each of the two, and either can fail, so there are several states in which the file
system may be left.

* `Cleared` -- what the removal leaves to the second step: nothing at the path, and everything else
  as it was.
* `bind_cases`, `bindFree_cases` -- what each step does, and what the file system is then.
* `bind_of_none` -- both together where nothing stands yet, and `connect_of_none`: the socket is
  reached by its path.
* `Replaces` -- what is promised of the two together; `bind_replaces` says that it is kept in every
  file system and for every path.
* `link_on_its_own_way` -- what is not: a link that its own path leads over is removed, and then
  there is no way to make the socket.
-/

namespace Steward.Listener

open Filesystem

variable {fs free : Filesystem} {path : Path} {place : Location} {number : Nat}

/-! ## 1. The two steps -/

/-- **A file system with the entry at a path out of the way.** -/
structure Cleared (fs free : Filesystem) (path : Path) : Prop where
  gone : free.hasEntry path = false
  others : ∀ other, fs.entry? path ≠ .ok (.named other) → free.node other = fs.node other
  named : ∀ {place}, free.entry? path = .ok (.named place) →
    fs.entry? path = .ok (.named place) ∧ free.node place = none

theorem cleared_of_removed (h : fs.entry? path = .ok (.named place)) :
    Cleared fs (fs.put place none) path where
  gone := hasEntry_of_removed h
  others _ hother := put_of_ne fs none fun heq => hother (heq ▸ h)
  named hl := ⟨entry_of_put_none hl, (node_of_removed h hl).2⟩

theorem cleared_of_noEntry (h : fs.unlink path = .error .noEntry) : Cleared fs fs path where
  gone := hasEntry_of_unlink_noEntry h
  others _ _ := rfl
  named hl := ⟨hl, node_of_unlink_noEntry h hl⟩

/-- **What becomes of the removal**: something is removed, there was nothing to remove, or it
    fails. -/
theorem bind_cases (fs : Filesystem) (number : Nat) (path : Path) :
    (∃ place n, fs.Stands path place n ∧ n ≠ .directory ∧
      bind fs number path = bindFree (fs.put place none) number path [.staleRemoved path]) ∨
    (fs.unlink path = .error .noEntry ∧ bind fs number path = bindFree fs number path []) ∨
    (∃ cause, fs.unlink path = .error cause ∧
      bind fs number path = ⟨.error (.staleEntry path cause), fs, []⟩) := by
  unfold bind
  cases hunlink : fs.unlink path with
  | ok free =>
    obtain ⟨-, place, n, hstands, hdirectory, rfl⟩ := unlink_ok_iff.mp hunlink
    exact Or.inl ⟨place, n, hstands, hdirectory, rfl⟩
  | error cause =>
    by_cases hnone : cause = .noEntry
    · subst hnone
      exact Or.inr (Or.inl ⟨rfl, rfl⟩)
    · exact Or.inr (Or.inr ⟨cause, rfl, if_neg hnone⟩)

/-- **What becomes of the second step**: a socket without a place is made, or one at the place that
    the path names, or it fails. -/
theorem bindFree_cases (free : Filesystem) (number : Nat) (path : Path) (events : List Event) :
    (path.bytes = [] ∧ bindFree free number path events =
      ⟨.ok ⟨path, number, true⟩, free, events ++ [.listening path]⟩) ∨
    (∃ place, checkSocketPath path = .ok () ∧ path.endsInSlash = false ∧
      free.entry? path = .ok (.named place) ∧ free.node place = none ∧
      bindFree free number path events = ⟨.ok ⟨path, number, true⟩,
        free.put place (some (.socket number)), events ++ [.listening path]⟩) ∨
    (∃ cause, free.bindSocket number path = .error cause ∧
      bindFree free number path events = ⟨.error (.bind path cause), free, events⟩) := by
  unfold bindFree
  cases hmade : free.bindSocket number path with
  | error cause => exact Or.inr (Or.inr ⟨cause, rfl, rfl⟩)
  | ok made =>
    obtain ⟨hcheck, ⟨hempty, rfl⟩ | ⟨place, hslash, hnamed, hnode, rfl⟩⟩ :=
      bindSocket_ok_iff.mp hmade
    · exact Or.inl ⟨hempty, rfl⟩
    · exact Or.inr (Or.inl ⟨place, hcheck, hslash, hnamed, hnode, rfl⟩)

/-! ## 2. The socket -/

/-- A path that has room in a socket address can be looked up, if it is not empty. -/
theorem checkPath_of_checkSocketPath (h : checkSocketPath path = .ok ()) (hne : path.bytes ≠ []) :
    checkPath path = .ok () := by
  unfold checkSocketPath at h
  unfold checkPath
  split at h
  · cases h
  rename_i hnul
  split at h
  · cases h
  rename_i hshort
  have hfits : ¬pathBytesLimit ≤ path.bytes.length := by
    simp only [pathBytesLimit, socketPathBytesLimit] at hshort ⊢
    omega
  rw [if_neg hnul, if_neg (fun hempty => hne (List.isEmpty_iff.mp hempty)), if_neg hfits]

/-- What stands anywhere stays there when something else is put in the place of something else. -/
theorem node_put_of_node {l : Location} {n : Node} (h : fs.node l = some n)
    (hplace : fs.node place ≠ some n) (other : Option Node) :
    (fs.put place other).node l = some n := by
  have hne : l ≠ place := by
    rintro rfl
    exact hplace h
  rw [put_of_ne fs other hne, h]

/-- Where a socket was made, the path names its place, and it stands there. -/
theorem stands_of_made (hslash : path.endsInSlash = false)
    (hnamed : free.entry? path = .ok (.named place)) (hnode : free.node place = none) :
    (free.put place (some (.socket number))).Stands path place (.socket number) where
  whole := hslash
  named := by
    have hkept : ∀ l n, free.node l = some n → n.leadsOn = true →
        (free.put place (some (.socket number))).node l = some n := by
      intro l n hn _
      exact node_put_of_node hn (by simp [hnode]) _
    exact entry_of_kept hkept rfl hnamed
  node := put_self ..

/-- **The path of a socket leads to it**: a connection reaches its listener. -/
theorem connect_of_stands (hcheck : checkSocketPath path = .ok ())
    (h : fs.Stands path place (.socket number)) :
    connect ⟨path, number, true⟩ fs path = .ok () := by
  have hne : path.bytes ≠ [] := bytes_ne_nil_of_named h.named
  have hfollow := (follow_of_named h.named (checkPath_of_checkSocketPath hcheck hne)).2 _ h.node rfl
    h.whole
  have hconnect : fs.connect path = .ok number := by
    unfold Filesystem.connect
    rw [hcheck, hfollow]
    exact if_neg (fun hempty => hne (List.isEmpty_iff.mp hempty))
  unfold connect
  rw [hconnect]
  exact if_pos ⟨rfl, rfl⟩

/-! ## 3. Paths that can be bound -/

/-- **A path at which a socket can be made**: it has room in a socket address, and names a place
    where nothing stands. -/
theorem bindFree_ok_iff {events : List Event} (hcheck : checkSocketPath path = .ok ())
    (hne : path.bytes ≠ []) (hslash : path.endsInSlash = false) :
    (∃ l, (bindFree free number path events).result = .ok l) ↔
      ∃ place, free.entry? path = .ok (.named place) ∧ free.node place = none := by
  constructor
  · rintro ⟨l, hl⟩
    rcases bindFree_cases free number path events with ⟨hempty, -⟩ |
      ⟨place, -, -, hnamed, hnode, -⟩ | ⟨cause, -, hfails⟩
    · exact absurd hempty hne
    · exact ⟨place, hnamed, hnode⟩
    · rw [hfails] at hl
      cases hl
  · rintro ⟨place, hnamed, hnode⟩
    have hmade := bindSocket_ok_iff.mpr ⟨hcheck, Or.inr ⟨place, hslash, hnamed, hnode,
      (rfl : free.put place (some (.socket number)) = _)⟩⟩
    refine ⟨⟨path, number, true⟩, ?_⟩
    unfold bindFree
    rw [hmade]

/-- A path without NUL that is short enough has room in a socket address. -/
theorem checkSocketPath_ok (hnul : path.hasNul = false)
    (hshort : path.bytes.length < socketPathBytesLimit) : checkSocketPath path = .ok () := by
  unfold checkSocketPath
  rw [hnul, if_neg (Nat.not_le.mpr hshort)]
  rfl

section

-- a path where nothing stands yet, and which has room in a socket address
variable (hnamed : fs.entry? path = .ok (.named place)) (hnode : fs.node place = none)
  (hslash : path.endsInSlash = false) (hnul : path.hasNul = false)
  (hshort : path.bytes.length < socketPathBytesLimit)

include hnamed hnode hslash hnul hshort

/-- **Where nothing stands yet, a socket is made**, and nothing else is done. -/
theorem bind_of_none :
    bind fs number path =
      ⟨.ok ⟨path, number, true⟩, fs.put place (some (.socket number)), [.listening path]⟩ := by
  have hne : path.bytes ≠ [] := bytes_ne_nil_of_named hnamed
  have hcheck := checkSocketPath_ok hnul hshort
  have hunlink : fs.unlink path = .error .noEntry :=
    unlink_of_none (checkPath_of_checkSocketPath hcheck hne) hnamed hnode
  have hmade : fs.bindSocket number path = .ok (fs.put place (some (.socket number))) :=
    bindSocket_ok_iff.mpr ⟨hcheck, Or.inr ⟨place, hslash, hnamed, hnode, rfl⟩⟩
  have hbind : bind fs number path = bindFree fs number path [] := by
    unfold bind
    rw [hunlink]
    exact if_pos rfl
  rw [hbind]
  unfold bindFree
  rw [hmade]
  rfl

theorem bind_ok_of_none : ∃ l, (bind fs number path).result = .ok l :=
  ⟨_, congrArg Bound.result (bind_of_none hnamed hnode hslash hnul hshort)⟩

/-- Connections to the path reach the listener then. -/
theorem connect_of_none :
    connect ⟨path, number, true⟩ (fs.put place (some (.socket number))) path = .ok () :=
  connect_of_stands (checkSocketPath_ok hnul hshort) (stands_of_made hslash hnamed hnode)

end

/-- **What stands at a path is replaced exactly if the path names its place without it as well.** -/
theorem bind_ok_iff {n : Node} (h : fs.Stands path place n) (hdirectory : n ≠ .directory)
    (hnul : path.hasNul = false) (hshort : path.bytes.length < socketPathBytesLimit) :
    (∃ l, (bind fs number path).result = .ok l) ↔
      Filesystem.entry? (fs.put place none) path = .ok (.named place) := by
  have hne : path.bytes ≠ [] := bytes_ne_nil_of_named h.named
  have hcheck := checkSocketPath_ok hnul hshort
  have hunlink : fs.unlink path = .ok (fs.put place none) :=
    unlink_ok_iff.mpr ⟨checkPath_of_checkSocketPath hcheck hne, place, n, h, hdirectory, rfl⟩
  have hbind : bind fs number path =
      bindFree (fs.put place none) number path [.staleRemoved path] := by
    unfold bind
    rw [hunlink]
  rw [hbind, bindFree_ok_iff hcheck hne h.whole]
  constructor
  · rintro ⟨place', hnamed, -⟩
    obtain ⟨rfl, -⟩ := node_of_removed h.named hnamed
    exact hnamed
  · exact fun hnamed => ⟨place, hnamed, put_self fs place none⟩

/-- No way leads over a file or a socket, so their paths are the same without them. -/
theorem entry_without {n : Node} (h : fs.Stands path place n) (hn : n.leadsOn = false) :
    Filesystem.entry? (fs.put place none) path = .ok (.named place) := by
  have hkept : ∀ l m, fs.node l = some m → m.leadsOn = true →
      (fs.put place none).node l = some m := by
    intro l m hm hway
    refine node_put_of_node hm (fun hplace => ?_) none
    rw [h.node] at hplace
    cases hplace
    rw [hn] at hway
    cases hway
  exact entry_of_kept hkept rfl h.named

/-- So a file or a socket is replaced. -/
theorem bind_ok_of_stands {n : Node} (h : fs.Stands path place n) (hn : n.leadsOn = false)
    (hnul : path.hasNul = false) (hshort : path.bytes.length < socketPathBytesLimit) :
    ∃ l, (bind fs number path).result = .ok l := by
  have hdirectory : n ≠ .directory := by
    rintro rfl
    cases hn
  exact (bind_ok_iff h hdirectory hnul hshort).mpr (entry_without h hn)

/-! ## 4. Listening -/

/-- **What came of listening at a path**, with a socket that is known by a new number. -/
structure Replaces (fs : Filesystem) (number : Nat) (path : Path) (b : Bound) : Prop where
  /-- Nothing changes but the entry at the path, -/
  others : ∀ other, fs.entry? path ≠ .ok (.named other) → b.files.node other = fs.node other
  /-- and if that was a link, what it led to is still there. -/
  target_kept : ∀ place target found n, fs.Stands path place (.link target) →
    fs.follow path = .ok (found, n) → fs.node found = some n → b.files.node found = some n
  /-- On success the new socket stands at the path and nowhere else, and connections to the path
      reach it. Only an empty path makes a socket without a place. -/
  bound : ∀ l, b.result = .ok l → path.bytes ≠ [] →
    ∃ place, fs.entry? path = .ok (.named place) ∧ b.files.Stands path place (.socket number) ∧
      (∀ other, b.files.node other = some (.socket number) → other = place) ∧
      l.connect b.files path = .ok ()
  /-- Only the two steps can fail. -/
  failures : ∀ e, b.result = .error e → ∃ cause, e = .staleEntry path cause ∨ e = .bind path cause
  /-- When the removal fails, everything is as it was, and nothing is logged. -/
  removal_failed : ∀ cause, b.result = .error (.staleEntry path cause) →
    b.files = fs ∧ b.events = []
  /-- When no socket can be made, there is nothing at the path. -/
  socket_failed : ∀ cause, b.result = .error (.bind path cause) → b.files.hasEntry path = false
  /-- A removal is logged exactly when what stood at the path does not stand there any more,
      whatever became of the socket. -/
  removal_logged : .staleRemoved path ∈ b.events ↔
    ∃ place n, fs.entry? path = .ok (.named place) ∧ fs.node place = some n ∧
      b.files.node place ≠ some n
  /-- Where nothing stands at the place that the path names, a socket is made, if the path has room
      in a socket address; -/
  made : ∀ place, fs.entry? path = .ok (.named place) → fs.node place = none →
    path.endsInSlash = false → path.hasNul = false → path.bytes.length < socketPathBytesLimit →
    ∃ l, b.result = .ok l
  /-- a file or a socket is replaced likewise, -/
  replaced : ∀ place n, fs.Stands path place n → n.leadsOn = false → path.hasNul = false →
    path.bytes.length < socketPathBytesLimit → ∃ l, b.result = .ok l
  /-- and a link is, wherever it leads, exactly if the directory in which it stands is found by the
      path without it as well. -/
  link_replaced_iff : ∀ place target, fs.Stands path place (.link target) → path.hasNul = false →
    path.bytes.length < socketPathBytesLimit →
    ((∃ l, b.result = .ok l) ↔ Filesystem.entry? (fs.put place none) path = .ok (.named place))

section

variable {events : List Event}

theorem others_bindFree (h : Cleared fs free path) {other : Location}
    (hother : fs.entry? path ≠ .ok (.named other)) :
    (bindFree free number path events).files.node other = fs.node other := by
  rcases bindFree_cases free number path events with ⟨-, hb⟩ | ⟨place, -, -, hnamed, -, hb⟩ |
    ⟨cause, -, hb⟩
  · rw [hb]
    exact h.others other hother
  · have hne : other ≠ place := by
      rintro rfl
      exact hother (h.named hnamed).1
    rw [hb]
    exact (put_of_ne free _ hne).trans (h.others other hother)
  · rw [hb]
    exact h.others other hother

theorem bound_bindFree (h : Cleared fs free path) (hfresh : ∀ l, free.node l ≠ some (.socket number))
    {l : Listener} (hl : (bindFree free number path events).result = .ok l)
    (hne : path.bytes ≠ []) :
    ∃ place, fs.entry? path = .ok (.named place) ∧
      (bindFree free number path events).files.Stands path place (.socket number) ∧
      (∀ other, (bindFree free number path events).files.node other = some (.socket number) →
        other = place) ∧
      l.connect (bindFree free number path events).files path = .ok () := by
  rcases bindFree_cases free number path events with ⟨hempty, -⟩ |
    ⟨place, hcheck, hslash, hnamed, hnode, hb⟩ | ⟨cause, -, hb⟩
  · exact absurd hempty hne
  · have hsocket : (free.put place (some (.socket number))).Stands path place (.socket number) :=
      stands_of_made hslash hnamed hnode
    rw [hb] at hl ⊢
    cases hl
    refine ⟨place, (h.named hnamed).1, hsocket, fun other hother => ?_,
      connect_of_stands hcheck hsocket⟩
    by_contra hne
    exact hfresh other ((put_of_ne free _ hne).symm.trans hother)
  · rw [hb] at hl
    cases hl

theorem failed_bindFree (h : Cleared fs free path) {e : Failure}
    (he : (bindFree free number path events).result = .error e) :
    (∃ cause, e = .bind path cause) ∧
      (bindFree free number path events).files.hasEntry path = false := by
  rcases bindFree_cases free number path events with ⟨-, hb⟩ | ⟨place, -, -, -, -, hb⟩ |
    ⟨cause, -, hb⟩
  · rw [hb] at he
    cases he
  · rw [hb] at he
    cases he
  · rw [hb] at he ⊢
    cases he
    exact ⟨⟨cause, rfl⟩, h.gone⟩

theorem staleRemoved_mem_bindFree :
    .staleRemoved path ∈ (bindFree free number path events).events ↔
      .staleRemoved path ∈ events := by
  rcases bindFree_cases free number path events with ⟨-, hb⟩ | ⟨place, -, -, -, -, hb⟩ |
    ⟨cause, -, hb⟩ <;> rw [hb] <;> simp

/-- A place that the path names holds nothing afterwards but the new socket. -/
theorem node_bindFree (h : Cleared fs free path) (hplace : fs.entry? path = .ok (.named place))
    (hnode : free.node place = none) :
    (bindFree free number path events).files.node place = none ∨
      (bindFree free number path events).files.node place = some (.socket number) := by
  rcases bindFree_cases free number path events with ⟨-, hb⟩ | ⟨place', -, -, hnamed, -, hb⟩ |
    ⟨cause, -, hb⟩
  · rw [hb]
    exact Or.inl hnode
  · have hsame := (h.named hnamed).1
    rw [hplace] at hsame
    cases hsame
    rw [hb]
    exact Or.inr (put_self ..)
  · rw [hb]
    exact Or.inl hnode

end

/-- **When the removal succeeds or finds nothing, the two steps together keep what is promised.** -/
theorem Replaces.of_cleared {events : List Event} (h : Cleared fs free path)
    (hfresh : ∀ l, free.node l ≠ some (.socket number))
    (hbind : bind fs number path = bindFree free number path events)
    (hlogged : .staleRemoved path ∈ events ↔
      ∃ place n, fs.entry? path = .ok (.named place) ∧ fs.node place = some n ∧
        (bindFree free number path events).files.node place ≠ some n) :
    Replaces fs number path (bind fs number path) where
  others other hother := by
    rw [hbind]
    exact others_bindFree h hother
  target_kept place target found n hstands hfollow hnode := by
    have hother : fs.entry? path ≠ .ok (.named found) := by
      intro hnamed
      rw [hstands.named] at hnamed
      cases hnamed
      rw [hstands.node] at hnode
      cases hnode
      exact follow_ne_link hfollow
    rw [hbind, others_bindFree h hother, hnode]
  bound l hl hne := by
    rw [hbind] at hl ⊢
    exact bound_bindFree h hfresh hl hne
  failures e he := by
    rw [hbind] at he
    obtain ⟨⟨cause, hcause⟩, -⟩ := failed_bindFree h he
    exact ⟨cause, Or.inr hcause⟩
  removal_failed cause he := by
    rw [hbind] at he
    obtain ⟨⟨cause', hcause⟩, -⟩ := failed_bindFree h he
    cases hcause
  socket_failed cause he := by
    rw [hbind] at he ⊢
    exact (failed_bindFree h he).2
  removal_logged := by
    rw [hbind, staleRemoved_mem_bindFree]
    exact hlogged
  made place hnamed hnode hslash hnul hshort := bind_ok_of_none hnamed hnode hslash hnul hshort
  replaced place n hstands hn hnul hshort := bind_ok_of_stands hstands hn hnul hshort
  link_replaced_iff place target hstands hnul hshort :=
    bind_ok_iff hstands (by simp) hnul hshort

/-- **When the removal fails, it is promised that nothing happened.** -/
theorem Replaces.of_failed {cause : SystemError}
    (hbind : bind fs number path = ⟨.error (.staleEntry path cause), fs, []⟩) :
    Replaces fs number path (bind fs number path) where
  others other _ := by rw [hbind]
  target_kept place target found n _ _ hnode := by
    rw [hbind]
    exact hnode
  bound l hl := by
    rw [hbind] at hl
    cases hl
  failures e he := by
    rw [hbind] at he
    cases he
    exact ⟨cause, Or.inl rfl⟩
  removal_failed cause' _ := by
    rw [hbind]
    exact ⟨rfl, rfl⟩
  socket_failed cause' he := by
    rw [hbind] at he
    cases he
  removal_logged := by
    rw [hbind]
    refine iff_of_false (by simp) ?_
    rintro ⟨place, n, -, hnode, hchanged⟩
    exact hchanged hnode
  made place hnamed hnode hslash hnul hshort := bind_ok_of_none hnamed hnode hslash hnul hshort
  replaced place n hstands hn hnul hshort := bind_ok_of_stands hstands hn hnul hshort
  link_replaced_iff place target hstands hnul hshort :=
    bind_ok_iff hstands (by simp) hnul hshort

/-- **Listening replaces whatever stands at the path**, or leaves the file system in one of the two
    states it may be left in, in every file system and for every path. -/
theorem bind_replaces (fs : Filesystem) (number : Nat) (path : Path)
    (hfresh : ∀ l, fs.node l ≠ some (.socket number)) :
    Replaces fs number path (bind fs number path) := by
  rcases bind_cases fs number path with ⟨place, n, hstands, -, hbind⟩ | ⟨hnone, hbind⟩ |
    ⟨cause, -, hbind⟩
  · have hcleared := cleared_of_removed hstands.named
    refine .of_cleared hcleared (fun l hl => hfresh l (node_of_put_none hl)) hbind
      (iff_of_true (by simp) ⟨place, n, hstands.named, hstands.node, ?_⟩)
    rcases node_bindFree hcleared hstands.named (put_self fs place none) with hnode | hnode
    · rw [hnode]
      simp
    · rw [hnode]
      intro hn
      exact hfresh place (hstands.node.trans hn.symm)
  · refine .of_cleared (cleared_of_noEntry hnone) hfresh hbind (iff_of_false (by simp) ?_)
    rintro ⟨place, n, hnamed, hnode, -⟩
    rw [node_of_unlink_noEntry hnone hnamed] at hnode
    cases hnode
  · exact .of_failed hbind

/-- So it does where a file is in the way. -/
theorem bind_replaces_file :
    let path := Path.ofString "h.sock"
    let fs := blank.put (Utf8.encode "h.sock" :: blank.workingDirectory) (some .file)
    (∀ l, fs.node l ≠ some (.socket 1)) ∧ Replaces fs 1 path (bind fs 1 path) := by
  intro path fs
  have hfresh : ∀ l, fs.node l ≠ some (.socket 1) := by
    intro l hl
    by_cases hfile : l = Utf8.encode "h.sock" :: blank.workingDirectory
    · rw [hfile, put_self] at hl
      cases hl
    · rw [put_of_ne _ _ hfile] at hl
      unfold blank at hl
      simp only at hl
      split at hl <;> cases hl
  exact ⟨hfresh, bind_replaces fs 1 path hfresh⟩

/-- **A link that its own path leads over is removed, and nothing can be put in its place**: the
    directory in which it stands is there, but without it the path does not find it any more. -/
theorem link_on_its_own_way :
    let work := blank.workingDirectory
    let fs := (blank.add (.ofString "d") .directory).add (.ofString "l") (.link (.ofString "d"))
    let path := Path.ofString "l/../l"
    fs.Stands path (Utf8.encode "l" :: work) (.link (.ofString "d")) ∧
      fs.follow (.ofString "l/..") = .ok (work, .directory) ∧
      path.hasNul = false ∧ path.bytes.length < socketPathBytesLimit ∧
      (bind fs 1 path).result = .error (.bind path .noEntry) := by
  intro work fs path
  let d : Name := Utf8.encode "d"
  let l : Name := Utf8.encode "l"
  have hd : d.Proper := ⟨by decide, by decide, by decide⟩
  have hl : l.Proper := ⟨by decide, by decide, by decide⟩
  have hfs : fs = (blank.put (d :: work) (some .directory)).put (l :: work)
      (some (.link (.ofString "d"))) := by
    have hmade : blank.add (.ofString "d") .directory = blank.put (d :: work) (some .directory) :=
      add_of_named (entry_of_single (by decide) hd (by decide)) _
    show (blank.add (.ofString "d") .directory).add (.ofString "l") _ = _
    rw [hmade]
    exact add_of_named (entry_of_single (by decide) hl (by decide)) _
  have hlink : fs.node (l :: work) = some (.link (.ofString "d")) := by
    rw [hfs]
    exact put_self ..
  have hdirectory : fs.node (d :: work) = some .directory := by
    rw [hfs, put_of_ne _ _ (by decide)]
    exact put_self ..
  have hworking : fs.workingDirectory = work := by
    rw [hfs]
    rfl
  have hway : ∀ asDirectory,
      fs.resolve maxLinks asDirectory work [l, .parent] = .ok (work, .directory) :=
    fun _ => resolve_detour hl hlink (by decide) (by decide) hd hdirectory
  have hreverse : path.names.reverse = [l, .parent, l] := by decide
  have hstart : startFrom fs.workingDirectory path = work := by
    rw [hworking]
    decide
  have hstands : fs.Stands path (l :: work) (.link (.ofString "d")) := by
    refine ⟨by decide, ?_, hlink⟩
    refine entry_eq_named_iff.mpr ⟨l, [.parent, l], work, .directory, hreverse, hl, ?_, rfl⟩
    rw [hstart]
    exact hway true
  have hfollow : fs.follow (.ofString "l/..") = .ok (work, .directory) := by
    have hnames : Path.names (.ofString "l/..") = [l, .parent] := by decide
    have hcheck : checkPath (.ofString "l/..") = .ok () := rfl
    unfold follow
    rw [hcheck, ok_bind, hnames, hworking]
    exact hway _
  have hremoved : fs.unlink path = .ok (fs.put (l :: work) none) :=
    unlink_ok_iff.mpr ⟨rfl, _, _, hstands, nofun, rfl⟩
  -- without the link the path leads nowhere
  have hlost : Filesystem.entry? (fs.put (l :: work) none) path = .error .noEntry := by
    refine entry_of_error hreverse ?_
    rw [put_workingDirectory, hstart]
    exact resolve_missing hl (put_self ..)
  have hfails : (fs.put (l :: work) none).bindSocket 1 path = .error .noEntry :=
    bindSocket_of_error rfl (by decide) hlost
  refine ⟨hstands, hfollow, by decide, by decide, ?_⟩
  unfold bind bindFree
  simp only [hremoved, hfails]

end Steward.Listener
