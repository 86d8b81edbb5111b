import MailWindow.Config
import MailWindow.IndexRange
import MailWindow.Message
import MailWindow.Query.Rendering

namespace MailWindow

/-- The outcome of a session operation and the state after it. -/
abbrev Answer (σ α : Type) := Except SessionError α × σ

/-- A folder on a mail server: every operation may fail and may change the state. -/
class Folder (σ : Type) where
  name : σ → String
  isOpen : σ → Bool
  count : σ → UInt32
  select : Access → σ → Answer σ Unit
  close : (expunge : Bool) → σ → Answer σ Unit
  fetchIndices : IndexRange → SummaryItems → σ → Answer σ (List Summary)
  fetchIds : IdSet → SummaryItems → σ → Answer σ (List Summary)
  search : Query → σ → Answer σ (List MessageId)
  messageById : MessageId → σ → Answer σ (Option Message)
  messageByIndex : UInt32 → σ → Answer σ (Option Message)

end MailWindow
