import MailWindow.Calendar.MailDate
import MailWindow.Message
import MailWindow.Query.Basic

namespace MailWindow

structure Stored where
  id : MessageId
  raw : List UInt8
  flags : List String := []
  received : Instant
  deriving DecidableEq

namespace Stored

def header? (m : Stored) (name : String) : Option String := Header.value? m.raw name

def body (m : Stored) : List Char := Header.body (Utf8.decode m.raw)

def size (m : Stored) : UInt32 := .ofNat (min m.raw.length (UInt32.size - 1))

def hasFlag (m : Stored) (flag : String) : Bool := MailWindow.hasFlag m.flags flag

def headerContains (m : Stored) (name part : String) : Bool :=
  (m.header? name).any fun value ↦ Text.containsIgnoringCase value.toList part.toList

mutual

def satisfies (m : Stored) : Query → Bool
  | .all => true
  | .seen => m.hasFlag "\\Seen"
  | .unseen => !m.hasFlag "\\Seen"
  | .flagged => m.hasFlag "\\Flagged"
  | .answered => m.hasFlag "\\Answered"
  | .deleted => m.hasFlag "\\Deleted"
  | .subject s => m.headerContains "subject" s
  | .sender s => m.headerContains "from" s
  | .recipient s => m.headerContains "to" s
  | .header name value => m.headerContains name value
  | .body s => Text.containsIgnoringCase m.body s.toList
  | .text s => Text.containsIgnoringCase (Utf8.decode m.raw) s.toList
  | .since d => d.number ≤ m.received.day
  | .before d => m.received.day < d.number
  | .on d => m.received.day = d.number
  | .larger n => n < m.size
  | .smaller n => m.size < n
  | .ids set => set.contains m.id
  | .conj qs => satisfiesEach m qs
  | .disj p q => satisfies m p || satisfies m q
  | .neg q => !satisfies m q

def satisfiesEach (m : Stored) : List Query → Bool
  | [] => true
  | q :: qs => satisfies m q && satisfiesEach m qs

end

def addresses (field : String) : List String :=
  (Text.splitOn ',' field.toList).map fun a ↦ .ofList (Text.trim a)

/-- What a summary holds beyond the identifier is what was asked for. The day of arrival stands in
for a date field that is not asked for, missing or unreadable. -/
def summary (m : Stored) (index : UInt32) (items : SummaryItems) : Summary :=
  let envelope {α : Type} (value default : α) : α :=
    if items.contains .envelope then value else default
  let date := envelope ((m.header? "date").bind fun d ↦ MailDate.parse? d.toList) none
  { index
    id := m.id
    subject := envelope (m.header? "subject") none
    sender := envelope (m.header? "from") none
    recipients := envelope (((m.header? "to").map addresses).getD []) []
    date := if items.contains .internalDate then date.or (some m.received) else date
    size := if items.contains .size then some m.size else none
    flags := if items.contains .flags then m.flags else []
    messageId := envelope (m.header? "message-id") none }

def message (m : Stored) (index : UInt32) : Message :=
  { Message.ofRaw m.id m.raw with index := some index }

end Stored

end MailWindow
