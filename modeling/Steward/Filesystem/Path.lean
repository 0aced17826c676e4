import Steward.Text.Utf8

/-!
# Paths

A path is any sequence of bytes. Its names are what stands between its slashes, the empty ones left
out; it starts at the root when it begins with a slash, and it asks for a directory when it ends with
one.
-/

namespace Steward

/-- One name within a directory. -/
abbrev Name := List UInt8

/-- The bytes of a path. -/
structure Path where
  bytes : List UInt8
deriving DecidableEq

namespace Path

/-- The byte between two names. -/
def slash : UInt8 := 0x2F

/-- The path that a text spells. -/
def ofString (text : String) : Path := ⟨Utf8.encode text⟩

/-- A path as a text. -/
def text (p : Path) : String := Utf8.decodeLossy p.bytes

/-- The parts of a sequence of bytes between its slashes. -/
def splitSlashes : List UInt8 → List Name
  | [] => [[]]
  | b :: rest =>
    if b = slash then [] :: splitSlashes rest
    else match splitSlashes rest with
      | [] => [[b]]
      | name :: names => (b :: name) :: names

/-- The names of a path, the outermost one first. -/
def names (p : Path) : List Name := (splitSlashes p.bytes).filter fun name => !name.isEmpty

/-- Whether a path starts at the root. -/
def isAbsolute (p : Path) : Bool := p.bytes.head? == some slash

/-- Whether a path asks for a directory. -/
def endsInSlash (p : Path) : Bool := p.bytes.getLast? == some slash

/-- Whether a path holds a NUL byte, which no file name may. -/
def hasNul (p : Path) : Bool := p.bytes.contains 0

end Path

/-- The name of a directory within itself. -/
def Name.here : Name := [0x2E]

/-- The name of a directory's parent. -/
def Name.parent : Name := [0x2E, 0x2E]

end Steward
