import MailWindow.MessageId
import MailWindow.Halving

namespace MailWindow

structure IdRange where
  start : MessageId
  stop : MessageId
  deriving DecidableEq

namespace IdRange

/-- The range from `start` to the identifier `size` further on, cut off at the largest one. -/
def batch (start : MessageId) (size : UInt32) : IdRange := ⟨start, start.addOrTop size⟩

def isInverted (r : IdRange) : Bool := r.stop < r.start

def contains (r : IdRange) (id : MessageId) : Bool := r.start ≤ id && id ≤ r.stop

def size (r : IdRange) : Nat := r.stop.val.toNat + 1 - r.start.val.toNat

def text (r : IdRange) : List Char := r.start.text ++ ':' :: r.stop.text

end IdRange

/-- A range whose end lies below its start holds nothing. -/
inductive IdSet where
  | range (r : IdRange)
  | list (ids : List MessageId)
  deriving DecidableEq

def squeeze {α : Type} [DecidableEq α] : List α → List α
  | a :: b :: l => if a = b then squeeze (b :: l) else a :: squeeze (b :: l)
  | l => l

namespace IdSet

def ofList (ids : List MessageId) : IdSet :=
  .list (squeeze (ids.mergeSort fun a b ↦ a ≤ b))

/-- Membership; a list is searched by halving, as it is meant to be ascending. -/
def contains : IdSet → MessageId → Bool
  | .range r, id => r.contains id
  | .list ids, id => halve (id < ·) ids = some id

def isEmpty : IdSet → Bool
  | .range r => r.isInverted
  | .list ids => ids.isEmpty

def text : IdSet → List Char
  | .range r => r.text
  | .list ids => [','].intercalate (ids.map MessageId.text)

end IdSet

end MailWindow
