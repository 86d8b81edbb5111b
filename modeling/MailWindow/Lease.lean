import MailWindow.Folder.Basic

namespace MailWindow

/-- Who closes an open folder: the call that opened it, and no other. -/
structure Lease where
  owned : Bool
  deriving DecidableEq

variable {σ : Type} [Folder σ]

/-- Closes the folder and keeps all messages. A failure is only worth a warning. -/
def closeQuietly (f : σ) : List Warning × σ :=
  match Folder.close false f with
  | (.ok (), f) => ([], f)
  | (.error e, f) => ([.closeFailed e], f)

namespace Lease

/-- A lease on the open folder. One that was open already is owned if it was kept from an earlier
call. -/
def acquire (access : Access) (retained : Bool) (f : σ) : Answer σ Lease :=
  if Folder.isOpen f then (.ok ⟨retained⟩, f)
  else match Folder.select access f with
    | (.ok (), f) => (.ok ⟨true⟩, f)
    | (.error e, f) => (.error e, f)

/-- Ends a lease after success: an owned folder is kept open for a pending continuation, and closed
otherwise. Tells whether it is kept. -/
def release (l : Lease) (pending : Bool) (f : σ) : Bool × List Warning × σ :=
  if !l.owned then (false, [], f)
  else if pending then (true, [], f)
  else (false, closeQuietly f)

/-- Ends a lease after a failure: an owned folder is closed if it is still open. -/
def abandon (l : Lease) (f : σ) : List Warning × σ :=
  if l.owned && Folder.isOpen f then closeQuietly f else ([], f)

end Lease

end MailWindow
