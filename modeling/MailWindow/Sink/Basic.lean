import MailWindow.Error
import MailWindow.Message

namespace MailWindow

class Sink (τ : Type) where
  ensureDirectory : (path : String) → τ → Except Error Unit × τ
  directoryExists : (path : String) → τ → Bool × τ
  write : Message → (path : String) → τ → Except Error Unit × τ

def joinPath (dir name : String) : String :=
  if dir.isEmpty || dir.toList.getLast? = some '/' then dir ++ name else dir ++ "/" ++ name

end MailWindow
