import Steward.Filesystem.Path
import Steward.SystemError

/-!
# The file system

A file system says what stands at each location below the root. A path is resolved name by name:
every name but the last must lead to a directory, and a symbolic link leads on to its target.

* `resolve` follows a path to what it denotes; `entry?` finds the place of its last name, without
  following a link there.
* `unlink` removes an entry that is no directory. `bindSocket` makes a socket where there is no
  entry, and `connect` finds the socket that a path leads to.
* Every change concerns one location: `put_of_ne` says that all others are as before.
-/

namespace Steward

/-- A place below the root: the names on the way to it, the innermost one first. -/
abbrev Location := List Name

/-- What can stand at a location. -/
inductive Node
  | file
  | directory
  /-- A socket, by the number under which its listener is known. -/
  | socket (number : Nat)
  | link (target : Path)
deriving DecidableEq

/-- What stands where, and where a relative path starts. -/
structure Filesystem where
  node : Location → Option Node
  workingDirectory : Location

namespace Filesystem

/-! ## 1. Entries -/

/-- Makes something, or nothing, stand at a location. -/
def put (fs : Filesystem) (place : Location) (n : Option Node) : Filesystem :=
  { fs with node := fun l => if l = place then n else fs.node l }

@[simp] theorem put_self (fs : Filesystem) (place : Location) (n : Option Node) :
    (fs.put place n).node place = n := by simp [put]

theorem put_of_ne (fs : Filesystem) {place l : Location} (n : Option Node) (h : l ≠ place) :
    (fs.put place n).node l = fs.node l := by simp [put, h]

@[simp] theorem put_workingDirectory (fs : Filesystem) (place : Location) (n : Option Node) :
    (fs.put place n).workingDirectory = fs.workingDirectory := rfl

/-- A root, a directory for temporary files, and an empty working directory in it. -/
def blank : Filesystem :=
  let temporary : Location := [Utf8.encode "tmp"]
  let work : Location := Utf8.encode "work" :: temporary
  { node := fun l => if l = [] ∨ l = temporary ∨ l = work then some .directory else none
    workingDirectory := work }

/-! ## 2. Limits -/

/-- How many bytes a name may take. -/
def maxNameBytes : Nat := 255

/-- A path that takes this many bytes is too long. -/
def pathBytesLimit : Nat := 4096

/-- A socket path that takes this many bytes is too long. -/
def socketPathBytesLimit : Nat := 108

/-- How many symbolic links are followed on one way. -/
def maxLinks : Nat := 40

/-- What must hold of the bytes of a path before it is looked up. -/
def checkPath (p : Path) : Except SystemError Unit :=
  if p.hasNul then .error .nulInFileName
  else if p.bytes.isEmpty then .error .noEntry
  else if pathBytesLimit ≤ p.bytes.length then .error .nameTooLong
  else .ok ()

/-! ## 3. Resolution -/

/-- Where the names of a path start from, when they are met at a location. -/
def startFrom (dir : Location) (p : Path) : Location := if p.isAbsolute then [] else dir

/-- **Follows names from a directory.** `links` bounds the links still to be followed, and
    `asDirectory` asks that the last name be a directory as well. -/
def resolve (fs : Filesystem) (links : Nat) (asDirectory : Bool) (dir : Location) :
    List Name → Except SystemError (Location × Node)
  | [] => .ok (dir, .directory)
  | name :: rest =>
    if name = .here then fs.resolve links asDirectory dir rest
    else if name = .parent then fs.resolve links asDirectory dir.tail rest
    else if maxNameBytes < name.length then .error .nameTooLong
    else match fs.node (name :: dir) with
      | none => .error .noEntry
      | some .directory => fs.resolve links asDirectory (name :: dir) rest
      | some (.link target) =>
        match links with
        | 0 => .error .tooManyLinks
        | links + 1 =>
          fs.resolve links (asDirectory || (rest.isEmpty && target.endsInSlash))
            (startFrom dir target) (target.names ++ rest)
      | some n => if rest.isEmpty && !asDirectory then .ok (name :: dir, n) else .error .notDirectory
termination_by names => (links, names.length)

/-- What a path denotes, links followed. -/
def follow (fs : Filesystem) (p : Path) : Except SystemError (Location × Node) := do
  checkPath p
  fs.resolve maxLinks p.endsInSlash (startFrom fs.workingDirectory p) p.names

/-- The place that the last name of a path denotes. -/
inductive Entry
  /-- A name in a directory. -/
  | named (place : Location)
  /-- The root, or a directory by one of the names `.` and `..`. -/
  | directory

/-- Finds the place of the last name of a path; a link there is not followed. -/
def entry? (fs : Filesystem) (p : Path) : Except SystemError Entry :=
  match p.names.reverse with
  | [] => .ok .directory
  | last :: parents => do
    let (directory, _) ←
      fs.resolve maxLinks true (startFrom fs.workingDirectory p) parents.reverse
    if last = .here ∨ last = .parent then .ok .directory
    else if maxNameBytes < last.length then .error .nameTooLong
    else .ok (.named (last :: directory))

/-! ## 4. Operations -/

/-- Whether a path leads to anything. -/
def leadsSomewhere (fs : Filesystem) (p : Path) : Bool :=
  match fs.follow p with
  | .ok _ => true
  | .error _ => false

/-- Whether there is an entry at a path, be it a link that leads nowhere. -/
def hasEntry (fs : Filesystem) (p : Path) : Bool :=
  if p.endsInSlash then fs.leadsSomewhere p
  else match checkPath p, fs.entry? p with
    | .ok (), .ok (.named place) => (fs.node place).isSome
    | .ok (), .ok .directory => true
    | _, _ => false

/-- Removes the entry at a path. A directory is not removed. -/
def unlink (fs : Filesystem) (p : Path) : Except SystemError Filesystem := do
  checkPath p
  match ← fs.entry? p with
  | .directory => .error .isDirectory
  | .named place => match fs.node place with
    | none => .error .noEntry
    | some .directory => .error .isDirectory
    | some _ => if p.endsInSlash then .error .notDirectory else .ok (fs.put place none)

/-- Whether a path has room in a socket address. -/
def checkSocketPath (p : Path) : Except SystemError Unit :=
  if p.hasNul then .error .nulInFileName
  else if socketPathBytesLimit ≤ p.bytes.length then .error .socketPathTooLong
  else .ok ()

/-- Makes a socket at a path. An empty path makes one that has no place in the file system. -/
def bindSocket (fs : Filesystem) (number : Nat) (p : Path) : Except SystemError Filesystem := do
  checkSocketPath p
  if p.bytes.isEmpty then .ok fs
  else match ← fs.entry? p with
    | .directory => .error .addressInUse
    | .named place => match fs.node place with
      | some _ => .error .addressInUse
      | none => if p.endsInSlash then .error .noEntry else .ok (fs.put place (some (.socket number)))

/-- The number of the socket that a path leads to. -/
def connect (fs : Filesystem) (p : Path) : Except SystemError Nat := do
  checkSocketPath p
  if p.bytes.isEmpty then .error .invalidArgument
  else match ← fs.follow p with
    | (_, .socket number) => .ok number
    | _ => .error .connectionRefused

/-! ## 5. Preparing a file system -/

/-- Makes directories of the locations on the way to one, where nothing stands yet. -/
def ensureParents (fs : Filesystem) : Location → Filesystem
  | [] => fs
  | _ :: parent =>
    let fs := fs.ensureParents parent
    if (fs.node parent).isSome then fs else fs.put parent (some .directory)

/-- The location a path spells, its names taken as they stand. -/
def spelled (fs : Filesystem) (p : Path) : Location :=
  p.names.foldl (fun l name =>
    if name = .here then l else if name = .parent then l.tail else name :: l)
    (startFrom fs.workingDirectory p)

/-- Swaps what stands at a path for something else, or for nothing. Only a name in a directory that
    exists is a place for that. -/
def replace (fs : Filesystem) (p : Path) (n : Option Node) : Filesystem :=
  match fs.entry? p with
  | .ok (.named place) => fs.put place n
  | _ => fs

/-- Puts something at a path, after making the directories on the way to it that are missing. -/
def add (fs : Filesystem) (p : Path) (n : Node) : Filesystem :=
  match fs.entry? p with
  | .ok _ => fs.replace p (some n)
  | .error _ =>
    let place := fs.spelled p
    (fs.ensureParents place).put place (some n)

end Filesystem

end Steward
