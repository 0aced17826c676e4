import Steward.Filesystem.Path
import Steward.SystemError
import Steward.Timestamp

/-!
# Failures of the two programs

* `Failure` is why the daemon or its client gave up. `message` says what it was doing and `causes`
  why that did not work.
* `Failure.report` is what a program writes before it exits with a failure.
-/

namespace Steward

/-- Why a program gave up. -/
inductive Failure
  /-- What stood at the socket path could not be removed. -/
  | staleEntry (path : Path) (cause : SystemError)
  /-- No socket could be made at the path. -/
  | bind (path : Path) (cause : SystemError)
  /-- The client finds nothing at the path. -/
  | noSocket (path : Path)
  | connect (path : Path) (cause : SystemError)
  /-- The connection broke before the daemon closed it. -/
  | broken (cause : SystemError)
  /-- The given time is no timestamp. -/
  | timestamp (text : String) (cause : Timestamp.ReadError)
deriving DecidableEq

namespace Failure

/-- What went wrong. -/
def message : Failure → String
  | .staleEntry path _ => "remove existing socket at " ++ path.text
  | .bind path _ => "bind " ++ path.text
  | .noSocket path => "socket path does not exist: " ++ path.text
  | .connect path _ => "connect " ++ path.text
  | .broken cause => cause.message
  | .timestamp text _ => "timestamp must be RFC 3339: " ++ text

/-- What was behind it. -/
def causes : Failure → List String
  | .staleEntry _ cause | .bind _ cause | .connect _ cause => [cause.message]
  | .timestamp _ cause => [cause.message]
  | .noSocket _ | .broken _ => []

/-- What a program writes about its failure. -/
def report (f : Failure) : String :=
  "Error: " ++ f.message ++ "\n" ++
    (if f.causes.isEmpty then "" else
      "\nCaused by:\n" ++ String.join (f.causes.map fun c => "    " ++ c ++ "\n"))

end Failure

end Steward
