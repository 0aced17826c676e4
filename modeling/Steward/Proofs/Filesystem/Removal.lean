import Steward.Listener
import Steward.Proofs.Filesystem.Resolution

/-!
# Removing the entry of a socket

The daemon removes what stands at its path by name, whatever has become of the file system since it
listened there.

* `Filesystem.Stands` -- what stands at a path; `unlink_ok_iff` says that it is removed if it is no
  directory.
* `hasEntry_of_removed`, `hasEntry_of_unlink_noEntry` -- there is nothing at a path where
  something was removed, or where nothing was found to be removed.
* `bindSocket_ok_iff` -- where a socket can be made, and what becomes of the file system then.
* `Filesystem.Free` -- there is no entry at a path, or a directory, which is not removed.
* `free_of_bound` -- a path at which a listener could be bound is free once its entry was removed.
-/

namespace Steward

namespace Filesystem

variable {fs fs' : Filesystem} {path : Path} {place : Location}

/-! ## 1. What is removed -/

/-- **Something stands at a path**: at the place that the last name of the path denotes. A path that
    ends in a slash asks for more than that. -/
structure Stands (fs : Filesystem) (path : Path) (place : Location) (n : Node) : Prop where
  whole : path.endsInSlash = false
  named : fs.entry? path = .ok (.named place)
  node : fs.node place = some n

/-- What stands at a location after something was removed stood there before. -/
theorem node_of_put_none {l : Location} {n : Node} (h : (fs.put place none).node l = some n) :
    fs.node l = some n := by
  by_cases hl : l = place
  · rw [hl, put_self] at h
    cases h
  · rwa [put_of_ne fs none hl] at h

/-- Where something was removed, a path names the place that it named before, or none. -/
theorem entry_of_put_none {l : Location}
    (h : Filesystem.entry? (fs.put l none) path = .ok (.named place)) :
    fs.entry? path = .ok (.named place) :=
  entry_of_kept (fun _ _ hnode _ => node_of_put_none hnode) rfl h

/-- **What stands at a path is removed, if it is no directory.** -/
theorem unlink_ok_iff :
    fs.unlink path = .ok fs' ↔
      checkPath path = .ok () ∧
      ∃ place n, fs.Stands path place n ∧ n ≠ .directory ∧ fs' = fs.put place none := by
  unfold unlink
  constructor
  · intro h
    obtain ⟨⟨⟩, hcheck, h⟩ := bind_eq_ok_iff.mp h
    obtain ⟨entry, hentry, h⟩ := bind_eq_ok_iff.mp h
    cases entry with
    | directory => cases h
    | named place =>
      simp only at h
      split at h
      · cases h
      · cases h
      · rename_i n hdirectory hnode
        split at h
        · cases h
        · rename_i hslash
          cases h
          exact ⟨hcheck, place, n, ⟨Bool.eq_false_iff.mpr hslash, hentry, hnode⟩, hdirectory, rfl⟩
  · intro ⟨hcheck, place, n, hstands, hdirectory, hremoved⟩
    rw [hcheck, ok_bind, hstands.named, ok_bind, hremoved]
    simp only [hstands.node, hstands.whole]
    cases n with
    | directory => exact absurd rfl hdirectory
    | file => rfl
    | socket number => rfl
    | link target => rfl

/-- Where nothing stands at the place that a path names, nothing is found to be removed. -/
theorem unlink_of_none (hcheck : checkPath path = .ok ())
    (hnamed : fs.entry? path = .ok (.named place)) (hnode : fs.node place = none) :
    fs.unlink path = .error .noEntry := by
  unfold unlink
  rw [hcheck, ok_bind, hnamed, ok_bind]
  simp only [hnode]

/-- A directory is found, and not removed. -/
theorem unlink_of_directory (hcheck : checkPath path = .ok ())
    (hnamed : fs.entry? path = .ok (.named place)) (hnode : fs.node place = some .directory) :
    fs.unlink path = .error .isDirectory := by
  unfold unlink
  rw [hcheck, ok_bind, hnamed, ok_bind]
  simp only [hnode]

/-- Where nothing is found to be removed, the path names no place where something stands. -/
theorem unlink_noEntry (h : fs.unlink path = .error .noEntry) (hcheck : checkPath path = .ok ()) :
    fs.entry? path ≠ .ok .directory ∧
      ∀ place, fs.entry? path = .ok (.named place) → fs.node place = none := by
  unfold unlink at h
  rw [hcheck, ok_bind] at h
  refine ⟨fun hdirectory => ?_, fun place hnamed => ?_⟩
  · rw [hdirectory] at h
    cases h
  · rw [hnamed, ok_bind] at h
    simp only at h
    split at h
    · assumption
    · cases h
    · split at h <;> cases h

/-- Where nothing is found to be removed, nothing stands at the place that the path names. -/
theorem node_of_unlink_noEntry (h : fs.unlink path = .error .noEntry)
    (hnamed : fs.entry? path = .ok (.named place)) : fs.node place = none := by
  cases hcheck : checkPath path with
  | ok u => exact (unlink_noEntry h hcheck).2 place hnamed
  | error e =>
    -- the only path that may not be looked up and yet is said not to be there is the empty one
    unfold unlink at h
    rw [hcheck] at h
    cases h
    unfold checkPath at hcheck
    split at hcheck
    · cases hcheck
    split at hcheck
    · rename_i hempty
      exact absurd (List.isEmpty_iff.mp hempty) (bytes_ne_nil_of_named hnamed)
    split at hcheck <;> cases hcheck

/-- **There is nothing at a path where nothing is found to be removed.** -/
theorem hasEntry_of_unlink_noEntry (h : fs.unlink path = .error .noEntry) :
    fs.hasEntry path = false := by
  cases hcheck : checkPath path with
  | error e => exact hasEntry_of_check hcheck fs
  | ok u =>
    obtain ⟨hdirectory, hnamed⟩ := unlink_noEntry h hcheck
    exact hasEntry_eq_false hdirectory hnamed

/-- Where something was removed, the path names the place of it, where nothing stands any more, or
    none. -/
theorem node_of_removed (h : fs.entry? path = .ok (.named place)) {l : Location}
    (hl : Filesystem.entry? (fs.put place none) path = .ok (.named l)) :
    l = place ∧ (fs.put place none).node l = none := by
  have hsame := entry_of_put_none hl
  rw [h] at hsame
  cases hsame
  exact ⟨rfl, put_self fs place none⟩

/-- **There is nothing at a path where something was removed.** -/
theorem hasEntry_of_removed (h : fs.entry? path = .ok (.named place)) :
    (fs.put place none).hasEntry path = false :=
  hasEntry_eq_false (entry_ne_directory h) fun _ hl => (node_of_removed h hl).2

/-! ## 2. Free paths -/

/-- **A path is free**: there is no entry at it, or one that cannot be removed, which is a
    directory. -/
def Free (fs : Filesystem) (path : Path) : Prop :=
  fs.hasEntry path = false ∨
    ∃ place, fs.entry? path = .ok (.named place) ∧ fs.node place = some .directory

/-- An empty path has no entry. -/
theorem free_of_empty (hempty : path.bytes = []) (fs : Filesystem) : fs.Free path := by
  have hcheck : ∃ e, checkPath path = .error e := by
    unfold checkPath
    rw [hempty]
    split <;> exact ⟨_, rfl⟩
  obtain ⟨e, hcheck⟩ := hcheck
  exact Or.inl (hasEntry_of_check hcheck fs)

/-- Where nothing can be removed, there is nothing but perhaps a directory. -/
theorem free_of_unlink_error {e : SystemError} (h : fs.unlink path = .error e)
    (hslash : path.endsInSlash = false) (hproper : fs.entry? path ≠ .ok .directory) :
    fs.Free path := by
  cases hcheck : checkPath path with
  | error e => exact Or.inl (hasEntry_of_check hcheck fs)
  | ok u =>
    by_cases hdirectory : ∃ place, fs.entry? path = .ok (.named place) ∧
        fs.node place = some .directory
    · exact Or.inr hdirectory
    · refine Or.inl (hasEntry_eq_false hproper fun place hnamed => ?_)
      cases hnode : fs.node place with
      | none => rfl
      | some n =>
        have hn : n ≠ .directory := fun hn => hdirectory ⟨place, hnamed, hn ▸ hnode⟩
        have hok := unlink_ok_iff.mpr ⟨hcheck, place, n, ⟨hslash, hnamed, hnode⟩, hn, rfl⟩
        rw [h] at hok
        cases hok

/-- **Removing the entry of a path leaves it free**, if the path can name a place. -/
theorem free_removeEntry (hslash : path.endsInSlash = false)
    (hproper : ∀ fs : Filesystem, fs.entry? path ≠ .ok .directory) (fs : Filesystem) :
    (Listener.removeEntry path fs).1.Free path := by
  unfold Listener.removeEntry
  cases hunlink : fs.unlink path with
  | error e => exact free_of_unlink_error hunlink hslash (hproper fs)
  | ok fs' =>
    obtain ⟨-, place, n, hstands, -, rfl⟩ := unlink_ok_iff.mp hunlink
    exact Or.inl (hasEntry_of_removed hstands.named)

/-! ## 3. Paths of sockets -/

/-- **A socket is made at a path that has room in a socket address, where nothing stands yet**; an
    empty path makes one without a place. -/
theorem bindSocket_ok_iff {number : Nat} :
    fs.bindSocket number path = .ok fs' ↔
      checkSocketPath path = .ok () ∧
      ((path.bytes = [] ∧ fs' = fs) ∨
        ∃ place, path.endsInSlash = false ∧ fs.entry? path = .ok (.named place) ∧
          fs.node place = none ∧ fs' = fs.put place (some (.socket number))) := by
  unfold bindSocket
  constructor
  · intro h
    obtain ⟨⟨⟩, hcheck, h⟩ := bind_eq_ok_iff.mp h
    refine ⟨hcheck, ?_⟩
    split at h
    · rename_i hempty
      cases h
      exact Or.inl ⟨List.isEmpty_iff.mp hempty, rfl⟩
    · obtain ⟨entry, hentry, h⟩ := bind_eq_ok_iff.mp h
      cases entry with
      | directory => cases h
      | named place =>
        cases hnode : fs.node place with
        | some n => simp [hnode] at h
        | none =>
          simp only [hnode] at h
          split at h
          · cases h
          · rename_i hslash
            cases h
            exact Or.inr ⟨place, Bool.eq_false_iff.mpr hslash, hentry, hnode, rfl⟩
  · intro ⟨hcheck, hcase⟩
    rw [hcheck, ok_bind]
    rcases hcase with ⟨hempty, rfl⟩ | ⟨place, hslash, hnamed, hnode, rfl⟩
    · rw [if_pos (List.isEmpty_iff.mpr hempty)]
    · have hne : path.bytes ≠ [] := bytes_ne_nil_of_named hnamed
      rw [if_neg (fun hempty => hne (List.isEmpty_iff.mp hempty)), hnamed, ok_bind]
      simp only [hnode, hslash]
      rfl

/-- No socket is made at a path whose last name cannot be looked up. -/
theorem bindSocket_of_error {number : Nat} {e : SystemError}
    (hcheck : checkSocketPath path = .ok ()) (hne : path.bytes ≠ [])
    (h : fs.entry? path = .error e) : fs.bindSocket number path = .error e := by
  unfold bindSocket
  rw [hcheck, ok_bind, if_neg (fun hempty => hne (List.isEmpty_iff.mp hempty)), h, error_bind]

/-- **A path at which a listener could be bound is free once its entry was removed**, in whatever
    file system that is done. -/
theorem free_of_bound {number : Nat} {l : Listener}
    (h : (Listener.bind fs number path).result = .ok l) (now : Filesystem) :
    (Listener.removeEntry path now).1.Free path := by
  have hmade : ∃ free made : Filesystem, free.bindSocket number path = .ok made := by
    have hfree : ∀ (free : Filesystem) (events : List Event),
        (Listener.bindFree free number path events).result = .ok l →
        ∃ made, free.bindSocket number path = .ok made := by
      intro free events hbound
      unfold Listener.bindFree at hbound
      split at hbound
      · cases hbound
      · rename_i made hmade
        exact ⟨made, hmade⟩
    unfold Listener.bind at h
    split at h
    · exact ⟨_, hfree _ _ h⟩
    split at h
    · exact ⟨_, hfree _ _ h⟩
    · cases h
  obtain ⟨free, made, hmade⟩ := hmade
  rcases bindSocket_ok_iff.mp hmade with ⟨-, ⟨hempty, -⟩ | ⟨place, hslash, hplace, -⟩⟩
  · exact free_of_empty hempty _
  · exact free_removeEntry hslash (fun _ => entry_ne_directory hplace) now

end Filesystem

end Steward
