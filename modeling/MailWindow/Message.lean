import MailWindow.Calendar.Instant
import MailWindow.Header
import MailWindow.MessageId
import MailWindow.SummaryItem

namespace MailWindow

structure Message where
  id : MessageId
  index : Option UInt32 := none
  messageId : Option String := none
  raw : List UInt8
  deriving DecidableEq

def Message.ofRaw (id : MessageId) (raw : List UInt8) : Message :=
  { id, raw, messageId := Header.value? raw "message-id" }

structure Summary where
  index : UInt32
  id : MessageId
  subject : Option String := none
  sender : Option String := none
  recipients : List String := []
  date : Option Instant := none
  size : Option UInt32 := none
  flags : List String := []
  messageId : Option String := none
  deriving DecidableEq

def hasFlag (flags : List String) (flag : String) : Bool :=
  flags.any fun f ↦ Text.eqIgnoringAsciiCase f.toList flag.toList

def Summary.isRead (s : Summary) : Bool := hasFlag s.flags "\\Seen"

end MailWindow
