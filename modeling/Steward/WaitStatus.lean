/-!
# How a program ended

A wait status is one word. Its low seven bits are zero when the program exited, and the next byte is
then its exit code; otherwise they hold the signal that ended it, or one of two marks for a program
that was stopped or continued. `WaitStatus.text` says which it was.
-/

namespace Steward

/-- The status word of a program that has ended, stopped or gone on. -/
structure WaitStatus where
  word : UInt32
deriving DecidableEq

namespace WaitStatus

/-- The status of a program that exited with a code. -/
def exited (code : Nat) : WaitStatus := ⟨.ofNat (code % 0x100 * 0x100)⟩

/-- The status of a program that a signal ended. -/
def killed (signal : Nat) : WaitStatus := ⟨.ofNat (signal % 0x80)⟩

/-- The low seven bits: zero, a signal, or the mark `7f`. -/
def cause (s : WaitStatus) : Nat := s.word.toNat % 0x80

/-- The byte above them: an exit code, or the signal that stopped the program. -/
def detail (s : WaitStatus) : Nat := s.word.toNat / 0x100 % 0x100

/-- Whether a memory image was left behind. -/
def dumped (s : WaitStatus) : Bool := s.word.toNat / 0x80 % 2 == 1

/-- A program succeeds when it exits with code zero. -/
def succeeded (s : WaitStatus) : Bool := s.cause == 0 && s.detail == 0

/-- The names of the signals, from one on. -/
def signalNames : List String :=
  ["SIGHUP", "SIGINT", "SIGQUIT", "SIGILL", "SIGTRAP", "SIGABRT", "SIGBUS", "SIGFPE", "SIGKILL",
    "SIGUSR1", "SIGSEGV", "SIGUSR2", "SIGPIPE", "SIGALRM", "SIGTERM", "SIGSTKFLT", "SIGCHLD",
    "SIGCONT", "SIGSTOP", "SIGTSTP", "SIGTTIN", "SIGTTOU", "SIGURG", "SIGXCPU", "SIGXFSZ",
    "SIGVTALRM", "SIGPROF", "SIGWINCH", "SIGIO", "SIGPWR", "SIGSYS"]

/-- A signal's number, and its name when it has one. -/
def signalText (signal : Nat) : String :=
  match signal with
  | 0 => "0"
  | n + 1 => match signalNames[n]? with
    | some name => toString signal ++ " (" ++ name ++ ")"
    | none => toString signal

/-- What a status says about the program. -/
def text (s : WaitStatus) : String :=
  if s.cause = 0 then "exit status: " ++ toString s.detail
  else if s.cause ≠ 0x7F then
    "signal: " ++ signalText s.cause ++ (if s.dumped then " (core dumped)" else "")
  else if !s.dumped then "stopped (not terminated) by signal: " ++ signalText s.detail
  else if s.word = 0xFFFF then "continued (WIFCONTINUED)"
  else "unrecognized wait status: " ++ toString s.word.toInt32.toInt ++ " 0x"
    ++ String.ofList (Nat.toDigits 16 s.word.toNat)

end WaitStatus

end Steward
