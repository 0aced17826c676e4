import Steward.Text.Decimal
import Steward.Text.Utf8

/-!
# Command lines

Arguments are bytes. A level of a command line has options that take a value, at most one operand,
and either no subcommands or a choice of them; `--help` and `-h` are understood everywhere.

* `Level.scan` reads arguments from the left, and the first one that does not fit decides: it is
  refused, or help is asked for (`Refusal`).
* A value that stands in an argument of its own is looked at only when the next option or operand
  comes, or at the end (`Scan.settle`).
-/

namespace Steward.CommandLine

/-- One argument. -/
abbrev Arg := List UInt8

/-- Why no order came out of a command line. -/
inductive Refusal
  /-- The arguments do not fit. -/
  | usage
  /-- Help was asked for. -/
  | help
deriving DecidableEq

/-- The code with which a program exits that has nothing to do. -/
def Refusal.exitCode : Refusal → Nat
  | .usage => 2
  | .help => 0

/-! ## 1. Values -/

/-- Any text. -/
def isText (a : Arg) : Bool := (Utf8.decode? a).isSome

/-- Any path but the empty one. -/
def isPath (a : Arg) : Bool := !a.isEmpty

/-- The counts that can be given are below this, the 64th power of two. -/
def countBound : Nat := 18446744073709551616

/-- A count in decimal digits, after a plus sign or not. -/
def count? (a : Arg) : Option Nat := do
  let text ← Utf8.decode? a
  let n ← Decimal.read? (match text.toList with
    | '+' :: digits => digits
    | digits => digits)
  if n < countBound then some n else none

/-- A value that may be given, by its name. -/
structure Parameter where
  name : String
  accepts : Arg → Bool

/-- What may be given on one level. -/
structure Level where
  options : List Parameter
  operand : Option Parameter
  subcommands : List String

/-! ## 2. Scanning -/

/-- What has been read on one level. -/
structure Scan where
  values : List (String × Arg)
  /-- A value that was given but not looked at yet. -/
  waiting : Option (Parameter × Arg)
  /-- Whether the operand was given. -/
  operandTaken : Bool

namespace Scan

/-- Nothing read. -/
def empty : Scan := ⟨[], none, false⟩

/-- The value of a parameter. -/
def value? (s : Scan) (name : String) : Option Arg := s.values.lookup name

/-- Looks at the value that waits: it must be acceptable, and given once only. -/
def settle (s : Scan) : Except Refusal Scan :=
  match s.waiting with
  | none => .ok s
  | some (p, v) =>
    if p.accepts v && (s.value? p.name).isNone then
      .ok { s with values := s.values ++ [(p.name, v)], waiting := none }
    else .error .usage

/-- Takes a value to be looked at later. -/
def wait (s : Scan) (p : Parameter) (v : Arg) : Except Refusal Scan := do
  let s ← s.settle
  .ok { s with waiting := some (p, v) }

/-- Asks for help, once all before it fits. -/
def askHelp {α : Type} (s : Scan) : Except Refusal α := do
  let _ ← s.settle
  .error .help

end Scan

/-- The byte that options begin with. -/
def dash : UInt8 := 0x2D

/-- Whether an argument has the look of an option. A dash alone has not. -/
def looksLikeOption : Arg → Bool
  | b :: _ :: _ => b = dash
  | _ => false

/-- The argument after which there are only operands. -/
def endOfOptions : Arg := [dash, dash]

/-- The name of a long option and the value attached to it. -/
def splitLong (a : Arg) : Arg × Option Arg :=
  match (a.drop 2).span (· ≠ 0x3D) with
  | (name, []) => (name, none)
  | (name, _ :: v) => (name, some v)

namespace Level

/-- Takes an operand. -/
def takeOperand (g : Level) (s : Scan) (a : Arg) : Except Refusal Scan :=
  match g.operand with
  | some p => if s.operandTaken then .error .usage else do
    let s ← s.wait p a
    .ok { s with operandTaken := true }
  | none => .error .usage

/-- Takes operands to the end. -/
def takeOperands (g : Level) : Scan → List Arg → Except Refusal Scan
  | s, [] => .ok s
  | s, a :: rest => do g.takeOperands (← g.takeOperand s a) rest

/-- The answer to the subcommand that asks for help about others. -/
def helpAbout (g : Level) : List Arg → Refusal
  | [] => .help
  | [a] => if a ∈ (("help" :: g.subcommands).map Utf8.encode) then .help else .usage
  | _ => .usage

/-- **Reads arguments from the left**: what they give, and the subcommand at which reading stopped
    together with its arguments. -/
def scan (g : Level) : Scan → List Arg → Except Refusal (Scan × Option (String × List Arg))
  | s, [] => .ok (s, none)
  | s, a :: rest =>
    if !g.subcommands.isEmpty && a = Utf8.encode "help" then .error (g.helpAbout rest)
    else match g.subcommands.find? fun name => a = Utf8.encode name with
    | some name => .ok (s, some (name, rest))
    | none =>
      if a = endOfOptions then do .ok (← g.takeOperands s rest, none)
      else if endOfOptions.isPrefixOf a then
        match splitLong a with
        | (name, attached) =>
          if name = Utf8.encode "help" then
            (if attached.isSome then .error .usage else s.askHelp)
          else match g.options.find? fun p => name = Utf8.encode p.name, attached, rest with
          | some p, some v, rest => do g.scan (← (← s.wait p v).settle) rest
          | some p, none, v :: rest =>
            if looksLikeOption v then .error .usage else do g.scan (← s.wait p v) rest
          | _, _, _ => .error .usage
      else if looksLikeOption a then
        (if a[1]? = some 0x68 then s.askHelp else .error .usage)
      else do g.scan (← g.takeOperand s a) rest
termination_by _ args => args.length

/-- What must hold at the end: all values fit, and the operand is there. -/
def complete (g : Level) (s : Scan) : Except Refusal Scan := do
  let s ← s.settle
  if g.operand.isSome && !s.operandTaken then .error .usage else .ok s

end Level

end Steward.CommandLine
