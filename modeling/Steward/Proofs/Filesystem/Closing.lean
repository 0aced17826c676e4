import Mathlib.Data.List.Induction
import Steward.Proofs.Filesystem.Binding

/-!
# Closing a listener

The socket of a listener has several owners: the listener, and every closer made from it. Each may
shut it, in any order and any number of times. In the end the entry at the path is removed by name,
whatever stands there by then.

* `Shared` -- a listener, the closers made from it and the file system; `Use` is what is done with
  them meanwhile. `held_run` says what any number of uses leave behind.
* `stands_of_bound` -- what a listener starts from: its socket stands at the path.
* `removeEntry_cases` -- what becomes of each kind of entry that the last step may find.
* `Closes` -- what is promised of the last step, and `Confined` of the uses before it;
  `closing_confined` says that both are kept for every listener at a path.
-/

namespace Steward.Listener

open Filesystem

variable {fs now : Filesystem} {path : Path} {place : Location} {number : Nat} {l : Listener}

/-! ## 1. Many closers -/

/-- What is done with a listener while it listens. -/
inductive Use
  /-- One more closer is made. -/
  | closer
  /-- A closer shuts the socket. They are counted in the order in which they were made. -/
  | shut (closer : Nat)
deriving DecidableEq

/-- A listener, the closers that were made from it, and the file system in which it listens. -/
structure Shared where
  listener : Listener
  closers : List Closer
  files : Filesystem

namespace Shared

/-- One use. A closer that was not made yet does nothing. -/
def step (s : Shared) : Use → Shared
  | .closer => { s with closers := s.closers ++ [s.listener.closer] }
  | .shut closer => match s.closers[closer]? with
    | some c => { s with listener := s.listener.shutBy c }
    | none => s

/-- Any number of uses, in order. -/
def run (s : Shared) (uses : List Use) : Shared := uses.foldl step s

theorem run_snoc (s : Shared) (uses : List Use) (u : Use) :
    s.run (uses ++ [u]) = (s.run uses).step u := by
  simp [run]

end Shared

/-- **Some closer has shut the socket**: one that had been made by then. -/
def Shuts (uses : List Use) : Prop :=
  ∃ before closer after, uses = before ++ .shut closer :: after ∧ closer < before.count .closer

theorem shuts_snoc {uses : List Use} {u : Use} :
    Shuts (uses ++ [u]) ↔ Shuts uses ∨ ∃ closer, u = .shut closer ∧ closer < uses.count .closer := by
  constructor
  · intro h
    obtain ⟨before, closer, after, heq, hmade⟩ := h
    rcases List.eq_nil_or_concat after with rfl | ⟨after, last, rfl⟩
    · obtain ⟨rfl, hu⟩ := List.append_inj' heq rfl
      cases hu
      exact Or.inr ⟨closer, rfl, hmade⟩
    · rw [List.concat_eq_append, ← List.cons_append, ← List.append_assoc] at heq
      obtain ⟨rfl, -⟩ := List.append_inj' heq rfl
      exact Or.inl ⟨before, closer, after, rfl, hmade⟩
  · intro h
    rcases h with ⟨before, closer, after, rfl, hmade⟩ | ⟨closer, rfl, hmade⟩
    · exact ⟨before, closer, after ++ [u], by simp, hmade⟩
    · exact ⟨uses, closer, [], rfl, hmade⟩

/-- **What uses leave behind**: closers of the one socket, which is shut if one of them was used, and
    the same file system. -/
structure Held (l : Listener) (files : Filesystem) (uses : List Use) (s : Shared) : Prop where
  closers : s.closers = List.replicate (uses.count .closer) l.closer
  shut : Shuts uses → s.listener = l.shut
  untouched : ¬ Shuts uses → s.listener = l
  files : s.files = files

section

variable {files : Filesystem} {uses : List Use} {u : Use} {s s' : Shared}

/-- Shut or not, it is the same socket. -/
theorem Held.socket (h : Held l files uses s) :
    s.listener.closer = l.closer ∧ s.listener.shut = l.shut := by
  by_cases hshuts : Shuts uses
  · rw [h.shut hshuts]
    exact ⟨closer_shut l, shut_shut l⟩
  · rw [h.untouched hshuts]
    exact ⟨rfl, rfl⟩

/-- A use that shuts nothing leaves the listener as it is. -/
theorem Held.quiet (h : Held l files uses s)
    (hquiet : ¬ ∃ closer, u = .shut closer ∧ closer < uses.count .closer)
    (hclosers : s'.closers = List.replicate ((uses ++ [u]).count .closer) l.closer)
    (hlistener : s'.listener = s.listener) (hfiles : s'.files = s.files) :
    Held l files (uses ++ [u]) s' := by
  have hsame : Shuts (uses ++ [u]) ↔ Shuts uses := by
    rw [shuts_snoc]
    exact or_iff_left hquiet
  exact {
    closers := hclosers
    shut := fun hs => hlistener.trans (h.shut (hsame.mp hs))
    untouched := fun hs => hlistener.trans (h.untouched fun hu => hs (hsame.mpr hu))
    files := hfiles.trans h.files }

/-- **One more use keeps what was said of those before it.** -/
theorem Held.step (h : Held l files uses s) (u : Use) : Held l files (uses ++ [u]) (s.step u) := by
  obtain ⟨hsocket, hshut⟩ := h.socket
  cases u with
  | closer =>
    have hclosers : (s.step .closer).closers =
        List.replicate ((uses ++ [Use.closer]).count .closer) l.closer := by
      simp [Shared.step, h.closers, hsocket, List.replicate_succ']
    exact h.quiet (fun ⟨_, hu, _⟩ => by cases hu) hclosers rfl rfl
  | shut closer =>
    have hcount : (uses ++ [Use.shut closer]).count .closer = uses.count .closer := by simp
    have hclosers : s.closers =
        List.replicate ((uses ++ [Use.shut closer]).count .closer) l.closer := by
      rw [hcount, h.closers]
    by_cases hmade : closer < uses.count .closer
    · have hfound : s.closers[closer]? = some l.closer := by
        rw [h.closers, List.getElem?_replicate, if_pos hmade]
      have hstep : s.step (.shut closer) = { s with listener := l.shut } := by
        simp only [Shared.step, hfound]
        rw [← hsocket, shutBy_closer, hshut]
      rw [hstep]
      exact {
        closers := hclosers
        shut := fun _ => rfl
        untouched := fun hs => absurd (shuts_snoc.mpr (Or.inr ⟨closer, rfl, hmade⟩)) hs
        files := h.files }
    · have hfound : s.closers[closer]? = none := by
        rw [h.closers, List.getElem?_replicate, if_neg hmade]
      have hstep : s.step (.shut closer) = s := by
        simp only [Shared.step, hfound]
      have hquiet : ¬ ∃ closer', Use.shut closer = .shut closer' ∧
          closer' < uses.count .closer := by
        intro ⟨closer', hu, hmade'⟩
        cases hu
        exact hmade hmade'
      rw [hstep]
      exact h.quiet hquiet hclosers rfl rfl

end

/-- **What any number of uses leave behind.** -/
theorem held_run (l : Listener) (files : Filesystem) (uses : List Use) :
    Held l files uses (Shared.run ⟨l, [], files⟩ uses) := by
  induction uses using List.reverseRecOn with
  | nil =>
    have hnone : ¬ Shuts [] := by
      intro ⟨before, closer, after, heq, _⟩
      simp at heq
    exact ⟨rfl, fun hs => absurd hs hnone, fun _ => rfl, rfl⟩
  | append_singleton uses u ih =>
    rw [Shared.run_snoc]
    exact ih.step u

/-! ## 2. Connections -/

/-- **A socket that is shut takes no connection**, and refuses those that it would have taken. -/
theorem connect_shut (l : Listener) (files : Filesystem) (p : Path) :
    l.shut.connect files p ≠ .ok () ∧
      (l.connect files p = .ok () → l.shut.connect files p = .error .connectionRefused) := by
  have hshut : ∀ number, ¬ (number = l.shut.number ∧ l.shut.isOpen = true) :=
    fun number h => Bool.false_ne_true h.2
  unfold connect
  cases files.connect p with
  | error e => exact ⟨nofun, nofun⟩
  | ok number =>
    rw [ok_bind, ok_bind, if_neg (hshut number)]
    exact ⟨nofun, fun _ => rfl⟩

/-- What a listener starts from once the path was free. -/
theorem stands_of_boundFree {free : Filesystem} {events : List Event}
    (h : (bindFree free number path events).result = .ok l) (hne : path.bytes ≠ []) :
    l = ⟨path, number, true⟩ ∧ checkSocketPath path = .ok () ∧
      ∃ place, (bindFree free number path events).files.Stands path place (.socket number) := by
  rcases bindFree_cases free number path events with ⟨hempty, -⟩ |
    ⟨place, hcheck, hslash, hnamed, hnode, hb⟩ | ⟨cause, -, hb⟩
  · exact absurd hempty hne
  · rw [hb] at h ⊢
    cases h
    exact ⟨rfl, hcheck, place, stands_of_made hslash hnamed hnode⟩
  · rw [hb] at h
    cases h

/-- **What a listener starts from**: its socket stands at the path. -/
theorem stands_of_bound (h : (bind fs number path).result = .ok l) (hne : path.bytes ≠ []) :
    l = ⟨path, number, true⟩ ∧ checkSocketPath path = .ok () ∧
      ∃ place, (bind fs number path).files.Stands path place (.socket number) := by
  rcases bind_cases fs number path with ⟨place, n, -, -, hb⟩ | ⟨-, hb⟩ | ⟨cause, -, hb⟩
  · rw [hb] at h ⊢
    exact stands_of_boundFree h hne
  · rw [hb] at h ⊢
    exact stands_of_boundFree h hne
  · rw [hb] at h
    cases h

/-! ## 3. The entry -/

/-- **What becomes of each kind of entry**: there is none, it is a directory and stays, or it is
    removed. -/
theorem removeEntry_cases (hcheck : checkPath path = .ok ()) (hslash : path.endsInSlash = false)
    (hnamed : now.entry? path = .ok (.named place)) :
    (now.node place = none ∧ removeEntry path now = (now, [])) ∨
    (now.node place = some .directory ∧
      removeEntry path now = (now, [.socketNotRemoved path .isDirectory])) ∨
    (now.node place ≠ some .directory ∧
      removeEntry path now = (now.put place none, [.socketRemoved path])) := by
  unfold removeEntry
  cases hnode : now.node place with
  | none =>
    rw [unlink_of_none hcheck hnamed hnode]
    exact Or.inl ⟨rfl, rfl⟩
  | some n =>
    by_cases hdirectory : n = .directory
    · subst hdirectory
      rw [unlink_of_directory hcheck hnamed hnode]
      exact Or.inr (Or.inl ⟨rfl, rfl⟩)
    · rw [unlink_ok_iff.mpr ⟨hcheck, place, n, ⟨hslash, hnamed, hnode⟩, hdirectory, rfl⟩]
      exact Or.inr (Or.inr ⟨fun h => hdirectory (Option.some.inj h), rfl⟩)

/-- **What came of closing a listener** in some file system: the listener, the file system and the
    log afterwards. -/
structure Closes (l : Listener) (place : Location) (now : Filesystem)
    (outcome : Listener × Filesystem × List Event) : Prop where
  /-- The socket takes no connections any more. -/
  shut : outcome.1 = l.shut
  /-- There is no entry at the path, whatever stood there but a directory; -/
  gone : now.node place ≠ some .directory →
    outcome.2.1.hasEntry l.path = false ∧ outcome.2.1.node place = none
  /-- a directory is left as it was, and all else with it. -/
  kept : now.node place = some .directory → outcome.2.1 = now
  /-- No other entry is touched. -/
  others : ∀ other, other ≠ place → outcome.2.1.node other = now.node other
  workingDirectory : outcome.2.1.workingDirectory = now.workingDirectory
  /-- The log warns once of a directory, -/
  warned : now.node place = some .directory →
    outcome.2.2.filter (fun e => e.level = .warn) = [.socketNotRemoved l.path .isDirectory]
  /-- and never otherwise. -/
  silent : now.node place ≠ some .directory →
    outcome.2.2.filter (fun e => e.level = .warn) = []

/-- **Closing keeps it** wherever the path names a place. -/
theorem closes_of_named (hcheck : checkPath l.path = .ok ()) (hslash : l.path.endsInSlash = false)
    (hnamed : now.entry? l.path = .ok (.named place)) : Closes l place now (l.close now) := by
  rcases removeEntry_cases hcheck hslash hnamed with ⟨hnode, hremoved⟩ | ⟨hnode, hremoved⟩ |
    ⟨hnode, hremoved⟩
  · have hclose : l.close now = (l.shut, now, []) := congrArg (l.shut, ·) hremoved
    have hother : now.node place ≠ some .directory := by
      rw [hnode]
      nofun
    have hgone : now.hasEntry l.path = false :=
      hasEntry_of_unlink_noEntry (unlink_of_none hcheck hnamed hnode)
    rw [hclose]
    exact {
      shut := rfl
      gone := fun _ => ⟨hgone, hnode⟩
      kept := fun h => absurd h hother
      others := fun _ _ => rfl
      workingDirectory := rfl
      warned := fun h => absurd h hother
      silent := fun _ => rfl }
  · have hclose : l.close now = (l.shut, now, [.socketNotRemoved l.path .isDirectory]) :=
      congrArg (l.shut, ·) hremoved
    rw [hclose]
    exact {
      shut := rfl
      gone := fun h => absurd hnode h
      kept := fun _ => rfl
      others := fun _ _ => rfl
      workingDirectory := rfl
      warned := fun _ => rfl
      silent := fun h => absurd hnode h }
  · have hclose : l.close now = (l.shut, now.put place none, [.socketRemoved l.path]) :=
      congrArg (l.shut, ·) hremoved
    rw [hclose]
    exact {
      shut := rfl
      gone := fun _ => ⟨hasEntry_of_removed hnamed, put_self now place none⟩
      kept := fun h => absurd h hnode
      others := fun other hother => put_of_ne now none hother
      workingDirectory := rfl
      warned := fun h => absurd h hnode
      silent := fun _ => rfl }

/-! ## 4. The whole -/

/-- **What is promised of a listener whose socket was made at a place**, until it is closed and when
    it is. -/
structure Confined (l : Listener) (place : Location) (made : Filesystem) : Prop where
  /-- Its socket stands at the path, and connections to the path reach it. -/
  stands : made.Stands l.path place (.socket l.number)
  reached : l.connect made l.path = .ok ()
  /-- Closers may be made and used in any order and number: the file system is as it was, -/
  files_kept : ∀ uses, (Shared.run ⟨l, [], made⟩ uses).files = made
  /-- and the listener is as if one closer had been used once, if any was used. -/
  shut_once : ∀ uses, Shuts uses →
    (Shared.run ⟨l, [], made⟩ uses).listener = l.shutBy l.closer
  untouched : ∀ uses, ¬ Shuts uses → (Shared.run ⟨l, [], made⟩ uses).listener = l
  /-- From then on no connection is taken, to whatever path and in whatever file system, -/
  none_taken : ∀ uses, Shuts uses → ∀ later p,
    (Shared.run ⟨l, [], made⟩ uses).listener.connect later p ≠ .ok ()
  /-- and each that would have been is refused, the first ones of them those to the path. -/
  refused : ∀ uses, Shuts uses → ∀ later p, l.connect later p = .ok () →
    (Shared.run ⟨l, [], made⟩ uses).listener.connect later p = .error .connectionRefused
  /-- The path names the same place as long as all directories and links are there that were there
      when the socket was made, whatever else has changed, and whatever stands at the place. -/
  named : ∀ now : Filesystem,
    (∀ d n, made.node d = some n → n.leadsOn = true → now.node d = some n) →
    now.workingDirectory = made.workingDirectory → now.entry? l.path = .ok (.named place)
  /-- Wherever the path names this place, closing does the same whether closers were used or not. -/
  closes : ∀ uses now, now.entry? l.path = .ok (.named place) →
    Closes l place now ((Shared.run ⟨l, [], made⟩ uses).listener.close now)

/-- Shut already or not, a listener is closed alike. -/
theorem close_of_shut_eq {l' : Listener} (h : l'.shut = l.shut) (now : Filesystem) :
    l'.close now = l.close now := by
  have hpath : l'.shut.path = l.shut.path := by rw [h]
  unfold close
  rw [h, show l'.path = l.path from hpath]

/-- **Closing a listener is confined to its socket and the entry at its path**, and shutting it any
    number of times is shutting it once. -/
theorem closing_confined (fs : Filesystem) (number : Nat) (path : Path) (l : Listener)
    (hbound : (bind fs number path).result = .ok l) (hne : path.bytes ≠ []) :
    l.path = path ∧ l.number = number ∧
      ∃ place, Confined l place (bind fs number path).files := by
  obtain ⟨rfl, hcheck, place, hstands⟩ := stands_of_bound hbound hne
  have hlookup : checkPath path = .ok () := checkPath_of_checkSocketPath hcheck hne
  have hheld := held_run ⟨path, number, true⟩ (bind fs number path).files
  exact ⟨rfl, rfl, place, {
    stands := hstands
    reached := connect_of_stands hcheck hstands
    files_kept := fun uses => (hheld uses).files
    shut_once := fun uses hs => by
      rw [(hheld uses).shut hs, shutBy_closer]
    untouched := fun uses hs => (hheld uses).untouched hs
    none_taken := fun uses hs later p => by
      rw [(hheld uses).shut hs]
      exact (connect_shut _ later p).1
    refused := fun uses hs later p htaken => by
      rw [(hheld uses).shut hs]
      exact (connect_shut _ later p).2 htaken
    named := fun now hway hworking => entry_of_kept hway hworking hstands.named
    closes := fun uses now hnamed => by
      rw [close_of_shut_eq (hheld uses).socket.2]
      exact closes_of_named hlookup hstands.whole hnamed }⟩

/-- So it is for a socket in the working directory. -/
theorem closing_confined_work :
    let path := Path.ofString "h.sock"
    let l : Listener := ⟨path, 1, true⟩
    (bind blank 1 path).result = .ok l ∧ path.bytes ≠ [] ∧
      l.path = path ∧ l.number = 1 ∧ ∃ place, Confined l place (bind blank 1 path).files := by
  intro path l
  have hname : Name.Proper (Utf8.encode "h.sock") := ⟨by decide, by decide, by decide⟩
  have hnamed : blank.entry? path = .ok (.named (Utf8.encode "h.sock" :: blank.workingDirectory)) :=
    entry_of_single (by decide) hname (by decide)
  have hbound : (bind blank 1 path).result = .ok l :=
    congrArg Bound.result (bind_of_none hnamed (by decide) (by decide) (by decide) (by decide))
  have hne : path.bytes ≠ [] := by decide
  exact ⟨hbound, hne, closing_confined blank 1 path l hbound hne⟩

end Steward.Listener
