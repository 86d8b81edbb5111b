import MailWindow.Config
import MailWindow.Sink.FileTree
import MailWindow.Text.LineEndings

namespace MailWindow

structure FileSinkOn (φ : Type) where
  dosLineEndings : Bool := true
  tree : φ := by exact {}

abbrev FileSink := FileSinkOn FileTree

namespace FileSinkOn

variable {φ : Type}

def ofConfig (c : Config) (tree : φ) : FileSinkOn φ := ⟨c.dosLineEndings, tree⟩

def content (s : FileSinkOn φ) (m : Message) : List UInt8 :=
  if s.dosLineEndings then LineEndings.toCrlf m.raw else m.raw

def changed (s : FileSinkOn φ) (result : Except String Unit × φ) :
    Except Error Unit × FileSinkOn φ :=
  (result.1.mapError .io, { s with tree := result.2 })

instance [FileSystem φ] : Sink (FileSinkOn φ) where
  ensureDirectory path s := s.changed (FileSystem.createDirectory path s.tree)
  directoryExists path s :=
    let (found, tree) := FileSystem.hasDirectory path s.tree
    (found, { s with tree })
  write m path s := s.changed (FileSystem.writeFile path (s.content m) s.tree)

end FileSinkOn

end MailWindow
