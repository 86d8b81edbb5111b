import MailWindow.Sink.Basic

namespace MailWindow

/-- What saving asks of a file system. Each change may fail for reasons of the system's own, and
says why. -/
class FileSystem (φ : Type) where
  createDirectory : (path : String) → φ → Except String Unit × φ
  hasDirectory : (path : String) → φ → Bool × φ
  /-- Creates a file or replaces its content. -/
  writeFile : (path : String) → (content : List UInt8) → φ → Except String Unit × φ

/-- A name that is one part of a path, and neither passed over nor leads back up. -/
structure IsName (name : String) : Prop where
  slash : '/' ∉ name.toList
  ne_empty : name ≠ ""
  ne_dot : name ≠ "."
  ne_dots : name ≠ ".."

namespace FileSystem

variable {φ : Type} [FileSystem φ]

/-- The files as others see them: where a path leads if it leads to a directory, and the content of
the file that a directory has under a name. -/
structure View (φ : Type) where
  Directory : Type
  directory? : φ → (path : String) → Option Directory
  content? : φ → Directory → (name : String) → Option (List UInt8)

/-- The laws of a file system without links. A change that fails may have been made in part, but
even then a write touches no file but its own, and no directory. -/
structure View.Lawful (v : View φ) : Prop where
  createDirectory_content : ∀ path s,
    v.content? (FileSystem.createDirectory path s).2 = v.content? s
  hasDirectory_content : ∀ path s, v.content? (FileSystem.hasDirectory path s).2 = v.content? s
  writeFile_directory : ∀ dir name content s, IsName name →
    v.directory? (FileSystem.writeFile (joinPath dir name) content s).2 = v.directory? s
  writeFile_other : ∀ dir name content s, IsName name → ∀ d other,
    ¬(v.directory? s dir = some d ∧ other = name) →
      v.content? (FileSystem.writeFile (joinPath dir name) content s).2 d other = v.content? s d other
  writeFile_ok : ∀ dir name content s s', IsName name →
    FileSystem.writeFile (joinPath dir name) content s = (.ok (), s') →
      ∃ d, v.directory? s dir = some d ∧ v.content? s' d name = some content

end FileSystem

end MailWindow
