import MailWindow.Folder.Memory

namespace MailWindow

inductive Operation where
  | select
  | close
  | fetch
  | search
  | read
  deriving DecidableEq

structure Misconduct where
  failing : Option (Operation × SessionError) := none
  reportedCount : Option UInt32 := none
  sendsAll : Bool := false
  duplicates : Bool := false
  reverses : Bool := false
  vanished : List MessageId := []

/-- A folder behind a misbehaving server; it can also cancel its reader at a chosen read. -/
structure WaywardFolder where
  inner : MemoryFolder
  conduct : Misconduct := {}
  /-- Messages read so far, those not found included. -/
  reads : Nat := 0
  /-- The read after which work is cancelled; 0 is before any. -/
  cancelAfter : Option Nat := none

namespace WaywardFolder

def isCancelled (w : WaywardFolder) : Bool := w.cancelAfter.any (· ≤ w.reads)

def forward {α : Type} (w : WaywardFolder) (operation : Operation)
    (run : MemoryFolder → Answer MemoryFolder α) : Answer WaywardFolder α :=
  match w.conduct.failing.filter (·.1 = operation) with
  | some (_, e) => (.error e, w)
  | none =>
    let (result, inner) := run w.inner
    (result, { w with inner })

def sent {α : Type} (w : WaywardFolder) (l : List α) : List α :=
  let l := if w.conduct.duplicates then l ++ l else l
  if w.conduct.reverses then l.reverse else l

def forwardList {α : Type} (w : WaywardFolder) (operation : Operation)
    (run : MemoryFolder → Answer MemoryFolder (List α)) : Answer WaywardFolder (List α) :=
  let (result, w') := w.forward operation run
  (result.map w.sent, w')

def forwardRead (w : WaywardFolder) (run : MemoryFolder → Answer MemoryFolder (Option Message)) :
    Answer WaywardFolder (Option Message) :=
  match w.forward .read run with
  | (.error e, w) => (.error e, w)
  | (.ok m?, w) =>
    (.ok (m?.filter fun m ↦ !w.conduct.vanished.contains m.id), { w with reads := w.reads + 1 })

instance : Folder WaywardFolder where
  name w := w.inner.name
  isOpen w := w.inner.isOpen
  count w := w.conduct.reportedCount.getD (Folder.count w.inner)
  select access w := w.forward .select (Folder.select access)
  close expunge w := w.forward .close (Folder.close expunge)
  fetchIndices range items w := w.forwardList .fetch (Folder.fetchIndices range items)
  fetchIds set items w :=
    let set := if w.conduct.sendsAll then .range ⟨⟨0⟩, MessageId.top⟩ else set
    w.forwardList .fetch (Folder.fetchIds set items)
  search query w := w.forwardList .search (Folder.search query)
  messageById id w := w.forwardRead (Folder.messageById id)
  messageByIndex index w := w.forwardRead (Folder.messageByIndex index)

end WaywardFolder

end MailWindow
