import MailWindow.Sink.Basic

namespace MailWindow

inductive SinkCall where
  | ensure (path : String)
  | exists (path : String)
  | write (id : MessageId) (path : String)
  deriving DecidableEq

/-- A sink that only notes what it is asked, and fails or cancels where it is told to. -/
structure RecordingSink where
  directories : List String := []
  deniesEnsure : Bool := false
  /-- The write that fails, counted from 1. -/
  failAt : Option Nat := none
  cancelAt : Option Nat := none
  writes : Nat := 0
  calls : List SinkCall := []

namespace RecordingSink

def isCancelled (s : RecordingSink) : Bool := s.cancelAt.any fun n ↦ 1 ≤ n && n ≤ s.writes

def log (s : RecordingSink) (call : SinkCall) : RecordingSink :=
  { s with calls := s.calls ++ [call] }

instance : Sink RecordingSink where
  ensureDirectory path s :=
    (if s.deniesEnsure then .error (.config "ensure denied") else .ok (), s.log (.ensure path))
  directoryExists path s := (s.directories.contains path, s.log (.exists path))
  write m path s :=
    let s := { s.log (.write m.id path) with writes := s.writes + 1 }
    (if s.failAt = some s.writes then .error (.io "write failed") else .ok (), s)

end RecordingSink

end MailWindow
