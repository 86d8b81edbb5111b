import MailWindow.Sink.FileSystem
import MailWindow.Text.Lines

namespace MailWindow

inductive FileEntry where
  | directory
  | file (content : List UInt8)
  deriving DecidableEq

/-- Files and directories by the names that lead to them from the root, which is not among them and
which is also where paths start. -/
structure FileTree where
  entries : List (List String × FileEntry) := []

namespace FileTree

def find? (t : FileTree) (place : List String) : Option FileEntry :=
  if place.isEmpty then some .directory else t.entries.lookup place

def isDirectory (t : FileTree) (place : List String) : Bool := t.find? place = some .directory

def put (t : FileTree) (place : List String) (e : FileEntry) : FileTree :=
  ⟨(place, e) :: t.entries.filter (·.1 ≠ place)⟩

def parts (path : String) : List String := (Text.splitOn '/' path.toList).map .ofList

def isIdle (part : String) : Bool := part = "" || part = "."

/-- Paths that no system accepts: too long, or with a null character. -/
def isUnusable (path : String) : Bool := 4095 < path.utf8ByteSize || path.toList.contains '\x00'

def isTooLong (name : String) : Bool := 255 < name.utf8ByteSize

/-- The place that a path leads to from a directory. All places on the way are directories; the last
one may be missing. -/
def follow (t : FileTree) : List String → List String → Option (List String)
  | place, [] => some place
  | place, p :: ps =>
    if !t.isDirectory place then none
    else if isIdle p then t.follow place ps
    else if p = ".." then t.follow place.dropLast ps
    else if isTooLong p then none
    else t.follow (place ++ [p]) ps

def resolve (t : FileTree) (path : String) : Option (List String) :=
  if path.isEmpty || isUnusable path then none else t.follow [] (parts path)

def hasDirectory (t : FileTree) (path : String) : Bool := (t.resolve path).any t.isDirectory

/-- Goes along names from a directory and creates the directories that are missing. Tells whether
the end was reached. -/
def createAlong (t : FileTree) : List String → List String → Bool × FileTree
  | _, [] => (true, t)
  | place, p :: ps =>
    if p = ".." then t.createAlong place.dropLast ps
    else if isTooLong p then (false, t)
    else
      let place := place ++ [p]
      match t.find? place with
      | some .directory => t.createAlong place ps
      | some (.file _) => (false, t)
      | none => (t.put place .directory).createAlong place ps

/-- Creates a directory with all that leads to it. A path that ends in a dot is an exception: what
the dot stands in has to be there already. -/
def createDirectory (t : FileTree) (path : String) : Bool × FileTree :=
  if path.isEmpty then (true, t)
  else if isUnusable path then (false, t)
  else
    let names := (parts path).filter (!isIdle ·)
    if ((parts path).filter (· ≠ "")).getLast? = some "." then
      let (_, t) := t.createAlong [] names.dropLast
      (t.hasDirectory path, t)
    else t.createAlong [] names

def writeFile (t : FileTree) (path : String) (content : List UInt8) : Bool × FileTree :=
  match t.resolve path with
  | none => (false, t)
  | some place =>
    if t.isDirectory place then (false, t) else (true, t.put place (.file content))

def changed (result : Bool × FileTree) : Except String Unit × FileTree :=
  (if result.1 then .ok () else .error "not a usable path", result.2)

instance : FileSystem FileTree where
  createDirectory path t := changed (t.createDirectory path)
  hasDirectory path t := (t.hasDirectory path, t)
  writeFile path content t := changed (t.writeFile path content)

def listing (t : FileTree) : List (String × Option (List UInt8)) :=
  (t.entries.map fun e ↦
    match e.2 with
    | .directory => ("/".intercalate e.1 ++ "/", none)
    | .file content => ("/".intercalate e.1, some content)).mergeSort fun a b ↦ !(b.1 < a.1)

end FileTree

end MailWindow
