import Steward.Filesystem
import Steward.Proofs.Except

/-!
# Where paths lead

A path is resolved name by name, so where it leads depends on the names before its last one only as
far as they lead to a directory, and on the file system only as far as the way goes over it.

* `Name.Proper` -- a name that is looked up in its directory; the lemmas beside it say what one step
  of a resolution does (`resolve_directory`, `resolve_link` and the like).
* `resolve_of_kept` -- where everything is kept that a way may lead over, it leads to the same.
* `resolve_append` -- a way goes on from where its first part leads as a directory, and ends where
  that part leads nowhere.
* `entry_eq_named_iff` -- which place the last name of a path denotes; `follow_of_named` and
  `follow_of_error` say what the whole path leads to then.
* `hasEntry_eq_false` -- there is nothing at a path that names no place where something stands.
-/

namespace Steward

/-- Whether a way can lead on from what stands somewhere: into a directory, or along a link. -/
def Node.leadsOn : Node → Bool
  | .directory | .link _ => true
  | .file | .socket _ => false

/-- It cannot from anything but a directory or a link. -/
theorem Node.leadsOn_eq_false {n : Node} (hdirectory : n ≠ .directory)
    (hlink : ∀ target, n ≠ .link target) : n.leadsOn = false := by
  cases n with
  | directory => exact absurd rfl hdirectory
  | link target => exact absurd rfl (hlink target)
  | file => rfl
  | socket number => rfl

/-- **A name that is looked up** in the directory where it is met: it is neither `.` nor `..`, and
    not too long. -/
structure Name.Proper (name : Name) : Prop where
  not_here : name ≠ .here
  not_parent : name ≠ .parent
  fits : name.length ≤ Filesystem.maxNameBytes

namespace Filesystem

variable {fs fs' : Filesystem} {path : Path} {place : Location}

/-! ## 1. Names one by one -/

section

variable {links : Nat} {asDirectory : Bool} {dir : Location} {name : Name} {rest : List Name}

theorem resolve_nil : fs.resolve links asDirectory dir [] = .ok (dir, .directory) := by
  rw [Filesystem.resolve]

theorem resolve_here :
    fs.resolve links asDirectory dir (.here :: rest) = fs.resolve links asDirectory dir rest := by
  rw [Filesystem.resolve, if_pos rfl]

theorem resolve_parent :
    fs.resolve links asDirectory dir (.parent :: rest) =
      fs.resolve links asDirectory dir.tail rest := by
  rw [Filesystem.resolve, if_neg (by decide), if_pos rfl]

theorem resolve_long (hhere : name ≠ .here) (hparent : name ≠ .parent)
    (hlong : maxNameBytes < name.length) :
    fs.resolve links asDirectory dir (name :: rest) = .error .nameTooLong := by
  rw [Filesystem.resolve, if_neg hhere, if_neg hparent, if_pos hlong]

theorem resolve_missing (h : name.Proper) (hnode : fs.node (name :: dir) = none) :
    fs.resolve links asDirectory dir (name :: rest) = .error .noEntry := by
  rw [Filesystem.resolve, if_neg h.not_here, if_neg h.not_parent, if_neg (Nat.not_lt.mpr h.fits),
    hnode]

theorem resolve_directory (h : name.Proper) (hnode : fs.node (name :: dir) = some .directory) :
    fs.resolve links asDirectory dir (name :: rest) =
      fs.resolve links asDirectory (name :: dir) rest := by
  rw [Filesystem.resolve, if_neg h.not_here, if_neg h.not_parent, if_neg (Nat.not_lt.mpr h.fits),
    hnode]

theorem resolve_link {target : Path} (h : name.Proper)
    (hnode : fs.node (name :: dir) = some (.link target)) :
    fs.resolve (links + 1) asDirectory dir (name :: rest) =
      fs.resolve links (asDirectory || (rest.isEmpty && target.endsInSlash)) (startFrom dir target)
        (target.names ++ rest) := by
  rw [Filesystem.resolve, if_neg h.not_here, if_neg h.not_parent, if_neg (Nat.not_lt.mpr h.fits),
    hnode]

theorem resolve_link_zero {target : Path} (h : name.Proper)
    (hnode : fs.node (name :: dir) = some (.link target)) :
    fs.resolve 0 asDirectory dir (name :: rest) = .error .tooManyLinks := by
  rw [Filesystem.resolve, if_neg h.not_here, if_neg h.not_parent, if_neg (Nat.not_lt.mpr h.fits),
    hnode]

/-- A file or a socket ends a way. -/
theorem resolve_end {n : Node} (h : name.Proper) (hnode : fs.node (name :: dir) = some n)
    (hn : n.leadsOn = false) :
    fs.resolve links asDirectory dir (name :: rest) =
      if rest.isEmpty && !asDirectory then .ok (name :: dir, n) else .error .notDirectory := by
  rw [Filesystem.resolve, if_neg h.not_here, if_neg h.not_parent, if_neg (Nat.not_lt.mpr h.fits),
    hnode]
  cases n with
  | directory => cases hn
  | link target => cases hn
  | file => rfl
  | socket number => rfl

/-- A way along a link into a directory beside it, and out of that directory again, leads back. -/
theorem resolve_detour {target : Path} {inner : Name} (hname : name.Proper)
    (hlink : fs.node (name :: dir) = some (.link target)) (htarget : target.names = [inner])
    (hrelative : target.isAbsolute = false) (hinner : inner.Proper)
    (hdirectory : fs.node (inner :: dir) = some .directory) :
    fs.resolve (links + 1) asDirectory dir [name, .parent] = .ok (dir, .directory) := by
  have hstart : startFrom dir target = dir := by
    rw [startFrom, hrelative]
    rfl
  rw [resolve_link hname hlink, hstart, htarget, List.singleton_append,
    resolve_directory hinner hdirectory, resolve_parent]
  exact resolve_nil

end

/-- **Where everything is kept that a way may lead over, it leads to the same.** Files and sockets
    matter at its end only, and not at all when that is to be a directory. -/
theorem resolve_of_kept {links : Nat} {asDirectory : Bool} {dir : Location} {names : List Name}
    {found : Location × Node}
    (hway : ∀ l n, fs.node l = some n → n.leadsOn = true → fs'.node l = some n)
    (hend : asDirectory = true ∨ ∀ l n, fs.node l = some n → fs'.node l = some n)
    (h : fs.resolve links asDirectory dir names = .ok found) :
    fs'.resolve links asDirectory dir names = .ok found := by
  fun_induction Filesystem.resolve fs links asDirectory dir names with
  | case1 links asDirectory dir =>
    rw [resolve_nil]
    exact h
  | case2 links asDirectory dir rest ih =>
    rw [resolve_here]
    exact ih hend h
  | case3 links asDirectory dir rest hhere ih =>
    rw [resolve_parent]
    exact ih hend h
  | case4 => cases h
  | case5 => cases h
  | case6 links asDirectory dir name rest hhere hparent hfits hnode ih =>
    rw [resolve_directory ⟨hhere, hparent, Nat.not_lt.mp hfits⟩ (hway _ _ hnode rfl)]
    exact ih hend h
  | case7 => cases h
  | case8 asDirectory dir name rest hhere hparent hfits target hnode links ih =>
    rw [resolve_link ⟨hhere, hparent, Nat.not_lt.mp hfits⟩ (hway _ _ hnode rfl)]
    exact ih (hend.imp_left fun hd => by rw [hd, Bool.true_or]) h
  | case9 links asDirectory dir name rest hhere hparent hfits n hdirectory hlink hnode hlast =>
    have hall : ∀ l n, fs.node l = some n → fs'.node l = some n := by
      rcases hend with rfl | hall
      · simp at hlast
      · exact hall
    have hn : n.leadsOn = false := Node.leadsOn_eq_false hdirectory hlink
    rw [resolve_end ⟨hhere, hparent, Nat.not_lt.mp hfits⟩ (hall _ _ hnode) hn, if_pos hlast]
    exact h
  | case10 => cases h

/-- **A way goes on from where its first part leads as a directory**, with the links that are still
    left, and leads nowhere if that part does not. -/
theorem resolve_append (fs : Filesystem) (links : Nat) (asDirectory : Bool) (dir : Location)
    (names : List Name) {rest : List Name} (hrest : rest ≠ []) :
    (∀ e, fs.resolve links true dir names = .error e →
      fs.resolve links asDirectory dir (names ++ rest) = .error e) ∧
    (∀ found, fs.resolve links true dir names = .ok found →
      ∃ links', fs.resolve links asDirectory dir (names ++ rest) =
        fs.resolve links' asDirectory found.1 rest) := by
  generalize htrue : true = first
  -- no name of the first part is the last one, so a link there asks for no directory by its slash
  have hmore : ∀ names : List Name, (names ++ rest).isEmpty = false := fun names => by
    cases names with
    | nil => exact List.isEmpty_eq_false_iff.mpr hrest
    | cons name names => rfl
  fun_induction Filesystem.resolve fs links first dir names with
  | case1 links first dir =>
    refine ⟨fun e h => absurd h (by simp), fun found h => ?_⟩
    cases h
    exact ⟨links, rfl⟩
  | case2 links first dir names ih =>
    rw [List.cons_append, resolve_here]
    exact ih htrue
  | case3 links first dir names hhere ih =>
    rw [List.cons_append, resolve_parent]
    exact ih htrue
  | case4 links first dir name names hhere hparent hlong =>
    rw [List.cons_append, resolve_long hhere hparent hlong]
    exact ⟨fun e h => h, fun found h => absurd h (by simp)⟩
  | case5 links first dir name names hhere hparent hfits hnode =>
    rw [List.cons_append, resolve_missing ⟨hhere, hparent, Nat.not_lt.mp hfits⟩ hnode]
    exact ⟨fun e h => h, fun found h => absurd h (by simp)⟩
  | case6 links first dir name names hhere hparent hfits hnode ih =>
    rw [List.cons_append, resolve_directory ⟨hhere, hparent, Nat.not_lt.mp hfits⟩ hnode]
    exact ih htrue
  | case7 first dir name names hhere hparent hfits target hnode =>
    rw [List.cons_append, resolve_link_zero ⟨hhere, hparent, Nat.not_lt.mp hfits⟩ hnode]
    exact ⟨fun e h => h, fun found h => absurd h (by simp)⟩
  | case8 first dir name names hhere hparent hfits target hnode links ih =>
    rw [List.cons_append, resolve_link ⟨hhere, hparent, Nat.not_lt.mp hfits⟩ hnode]
    have hfollowed := ih (by rw [← htrue, Bool.true_or])
    rw [List.append_assoc] at hfollowed
    simpa only [hmore, Bool.false_and, Bool.or_false] using hfollowed
  | case9 links first dir name names hhere hparent hfits n hdirectory hlink hnode hlast =>
    rw [← htrue] at hlast
    simp at hlast
  | case10 links first dir name names hhere hparent hfits n hdirectory hlink hnode hlast =>
    have hn : n.leadsOn = false := Node.leadsOn_eq_false hdirectory hlink
    rw [List.cons_append, resolve_end ⟨hhere, hparent, Nat.not_lt.mp hfits⟩ hnode hn, hmore,
      Bool.false_and, if_neg Bool.false_ne_true]
    exact ⟨fun e h => h, fun found h => absurd h (by simp)⟩

/-- A way ends at no link. -/
theorem resolve_ne_link {links : Nat} {asDirectory : Bool} {dir : Location} {names : List Name}
    {l : Location} {target : Path} :
    fs.resolve links asDirectory dir names ≠ .ok (l, .link target) := by
  intro h
  fun_induction Filesystem.resolve fs links asDirectory dir names with
  | case1 => cases h
  | case2 links asDirectory dir rest ih => exact ih h
  | case3 links asDirectory dir rest hhere ih => exact ih h
  | case4 => cases h
  | case5 => cases h
  | case6 links asDirectory dir name rest hhere hparent hfits hnode ih => exact ih h
  | case7 => cases h
  | case8 asDirectory dir name rest hhere hparent hfits target' hnode links ih => exact ih h
  | case9 links asDirectory dir name rest hhere hparent hfits n hdirectory hlink hnode hlast =>
    cases h
    exact hlink target rfl
  | case10 => cases h

/-- A path leads to no link. -/
theorem follow_ne_link {l : Location} {target : Path} : fs.follow path ≠ .ok (l, .link target) := by
  unfold follow
  cases checkPath path with
  | error e => exact fun h => by cases h
  | ok u => exact resolve_ne_link

/-! ## 2. The last name of a path -/

/-- **A path names a place** when its last name is looked up in a directory that the names before it
    lead to. -/
theorem entry_eq_named_iff :
    fs.entry? path = .ok (.named place) ↔
      ∃ last parents directory n, path.names.reverse = last :: parents ∧ last.Proper ∧
        fs.resolve maxLinks true (startFrom fs.workingDirectory path) parents.reverse =
          .ok (directory, n) ∧
        place = last :: directory := by
  unfold entry?
  cases hnames : path.names.reverse with
  | nil => simp
  | cons last parents =>
    constructor
    · intro h
      obtain ⟨⟨directory, n⟩, hparents, h⟩ := bind_eq_ok_iff.mp h
      simp only at h
      split at h
      · cases h
      rename_i hname
      obtain ⟨hhere, hparent⟩ := not_or.mp hname
      split at h
      · cases h
      rename_i hfits
      cases h
      exact ⟨last, parents, directory, n, rfl, ⟨hhere, hparent, Nat.not_lt.mp hfits⟩, hparents, rfl⟩
    · intro ⟨last', parents', directory, n, heq, hlast, hfound, hplace⟩
      cases heq
      subst hplace
      simp only [hfound, ok_bind]
      rw [if_neg (not_or.mpr ⟨hlast.not_here, hlast.not_parent⟩),
        if_neg (Nat.not_lt.mpr hlast.fits)]

/-- A path whose names before the last one lead nowhere names no place. -/
theorem entry_of_error {last : Name} {parents : List Name} {e : SystemError}
    (hnames : path.names.reverse = last :: parents)
    (h : fs.resolve maxLinks true (startFrom fs.workingDirectory path) parents.reverse = .error e) :
    fs.entry? path = .error e := by
  unfold entry?
  rw [hnames]
  simp only [h, error_bind]

/-- **A single name denotes a place in the working directory**, unless it stands behind a slash. -/
theorem entry_of_single {name : Name} (hnames : path.names = [name]) (hname : name.Proper)
    (hrelative : path.isAbsolute = false) :
    fs.entry? path = .ok (.named (name :: fs.workingDirectory)) := by
  have hreverse : path.names.reverse = [name] := by rw [hnames]; rfl
  have hstart : startFrom fs.workingDirectory path = fs.workingDirectory := by
    rw [startFrom, hrelative]
    rfl
  refine entry_eq_named_iff.mpr ⟨name, [], _, .directory, hreverse, hname, ?_, rfl⟩
  rw [hstart]
  exact resolve_nil

/-- What is put at a path that names a place is put there. -/
theorem add_of_named (h : fs.entry? path = .ok (.named place)) (n : Node) :
    fs.add path n = fs.put place (some n) := by
  unfold add replace
  rw [h]

/-- A path that names a place in one file system is never the root or `.` or `..` in another. -/
theorem entry_ne_directory (h : fs.entry? path = .ok (.named place)) :
    Filesystem.entry? fs' path ≠ .ok .directory := by
  obtain ⟨last, parents, -, -, hnames, hlast, -⟩ := entry_eq_named_iff.mp h
  intro hdirectory
  unfold entry? at hdirectory
  rw [hnames] at hdirectory
  obtain ⟨found, -, hdirectory⟩ := bind_eq_ok_iff.mp hdirectory
  simp only at hdirectory
  rw [if_neg (not_or.mpr ⟨hlast.not_here, hlast.not_parent⟩),
    if_neg (Nat.not_lt.mpr hlast.fits)] at hdirectory
  cases hdirectory

/-- **Where all directories and links are kept, a path names the place that it named before.** -/
theorem entry_of_kept (hway : ∀ l n, fs.node l = some n → n.leadsOn = true → fs'.node l = some n)
    (hworking : fs'.workingDirectory = fs.workingDirectory)
    (h : fs.entry? path = .ok (.named place)) : fs'.entry? path = .ok (.named place) := by
  obtain ⟨last, parents, directory, n, hnames, hlast, hfound, hplace⟩ := entry_eq_named_iff.mp h
  refine entry_eq_named_iff.mpr ⟨last, parents, directory, n, hnames, hlast, ?_, hplace⟩
  rw [hworking]
  exact resolve_of_kept hway (Or.inl rfl) hfound

/-- A path that names a place has names, and so is not empty. -/
theorem bytes_ne_nil_of_named (h : fs.entry? path = .ok (.named place)) : path.bytes ≠ [] := by
  intro hnil
  unfold entry? Path.names at h
  rw [hnil] at h
  cases h

/-- **Where a path leads that names a place**: nowhere if nothing stands there, and to what stands
    there if that leads no further. -/
theorem follow_of_named (h : fs.entry? path = .ok (.named place)) (hcheck : checkPath path = .ok ()) :
    (fs.node place = none → fs.follow path = .error .noEntry) ∧
    (∀ n, fs.node place = some n → n.leadsOn = false → path.endsInSlash = false →
      fs.follow path = .ok (place, n)) := by
  obtain ⟨last, parents, directory, found, hnames, hproper, hfound, rfl⟩ :=
    entry_eq_named_iff.mp h
  have hsplit : path.names = parents.reverse ++ [last] := List.reverse_eq_cons_iff.mp hnames
  obtain ⟨links, hlast⟩ := (resolve_append fs maxLinks path.endsInSlash
    (startFrom fs.workingDirectory path) parents.reverse (List.cons_ne_nil last [])).2 _ hfound
  have hfollow : fs.follow path = fs.resolve links path.endsInSlash directory [last] := by
    unfold follow
    rw [hcheck, hsplit]
    exact hlast
  rw [hfollow]
  constructor
  · intro hnone
    exact resolve_missing hproper hnone
  · intro n hnode hend hslash
    rw [resolve_end hproper hnode hend, hslash]
    rfl

/-- **A path whose last name cannot be looked up leads nowhere.** -/
theorem follow_of_error {e : SystemError} (h : fs.entry? path = .error e) :
    ∃ e', fs.follow path = .error e' := by
  unfold follow
  cases checkPath path with
  | error e' => exact ⟨e', rfl⟩
  | ok u =>
    unfold entry? at h
    cases hnames : path.names.reverse with
    | nil => rw [hnames] at h; cases h
    | cons last parents =>
      rw [hnames] at h
      have hsplit : path.names = parents.reverse ++ [last] := List.reverse_eq_cons_iff.mp hnames
      obtain ⟨hnowhere, hgoes⟩ := resolve_append fs maxLinks path.endsInSlash
        (startFrom fs.workingDirectory path) parents.reverse (List.cons_ne_nil last [])
      show ∃ e', fs.resolve maxLinks path.endsInSlash _ path.names = .error e'
      rw [hsplit]
      cases hparents : fs.resolve maxLinks true (startFrom fs.workingDirectory path)
          parents.reverse with
      | error e' => exact ⟨e', hnowhere e' hparents⟩
      | ok found =>
        simp only [hparents, ok_bind] at h
        obtain ⟨links, hlast⟩ := hgoes found hparents
        split at h
        · cases h
        rename_i hname
        obtain ⟨hhere, hparent⟩ := not_or.mp hname
        split at h
        · rename_i hlong
          exact ⟨.nameTooLong, hlast.trans (resolve_long hhere hparent hlong)⟩
        · cases h

/-! ## 3. Entries -/

/-- There is nothing at a path that may not even be looked up. -/
theorem hasEntry_of_check {e : SystemError} (h : checkPath path = .error e) (fs : Filesystem) :
    fs.hasEntry path = false := by
  unfold hasEntry leadsSomewhere follow
  rw [h]
  split <;> rfl

/-- **There is nothing at a path that names no place where something stands**, whether it asks for a
    directory or not. -/
theorem hasEntry_eq_false (hdirectory : fs.entry? path ≠ .ok .directory)
    (hnamed : ∀ place, fs.entry? path = .ok (.named place) → fs.node place = none) :
    fs.hasEntry path = false := by
  cases hcheck : checkPath path with
  | error e => exact hasEntry_of_check hcheck fs
  | ok u =>
    unfold hasEntry leadsSomewhere
    rw [hcheck]
    cases hentry : fs.entry? path with
    | error e =>
      obtain ⟨e', hfollow⟩ := follow_of_error hentry
      rw [hfollow]
      split <;> rfl
    | ok entry =>
      cases entry with
      | directory => exact absurd hentry hdirectory
      | named place =>
        have hnone := hnamed place hentry
        rw [(follow_of_named hentry hcheck).1 hnone]
        split
        · rfl
        · simp only [hnone, Option.isSome_none]

end Filesystem

end Steward
