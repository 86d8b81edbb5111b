import MailWindow.Folder.Basic
import MailWindow.Folder.Stored

namespace MailWindow

inductive Call where
  | select (access : Access)
  | close
  | fetchIndices (range : IndexRange)
  | fetchIds (set : IdSet)
  | search (text : String)
  | messageById (id : MessageId)
  | messageByIndex (index : UInt32)
  deriving DecidableEq

inductive Fault where
  | select
  | close
  | fetch
  | search
  | message (id : MessageId)
  deriving DecidableEq

def Fault.text : Fault → String
  | select => "Open"
  | close => "Close"
  | fetch => "Fetch"
  | search => "Search"
  | message id => "Message(MessageId(" ++ .ofList id.text ++ "))"

/-- A folder kept in memory, which logs the calls that reach it and fails on demand. -/
structure MemoryFolder where
  name : String
  access : Option Access := none
  messages : List Stored := []
  searchCap : Nat := 250
  faults : List Fault := []
  calls : List Call := []

namespace MemoryFolder

def isOpen (f : MemoryFolder) : Bool := f.access.isSome

def ids (f : MemoryFolder) : List MessageId := f.messages.map (·.id)

def insert (f : MemoryFolder) (id : MessageId) (raw : List UInt8) (received : Instant) :
    MemoryFolder :=
  { f with messages := f.messages ++ [{ id, raw, received }] }

/-- The identifier for a message that arrives: the one after the last, if the words have one. -/
def nextId (f : MemoryFolder) : MessageId :=
  (f.messages.getLast?).elim ⟨1⟩ fun m ↦ m.id.addOrTop 1

def push (f : MemoryFolder) (raw : List UInt8) (now : Instant) : MessageId × MemoryFolder :=
  (f.nextId, f.insert f.nextId raw now)

def expunge (f : MemoryFolder) (id : MessageId) : Bool × MemoryFolder :=
  (f.messages.any (·.id = id), { f with messages := f.messages.filter (·.id ≠ id) })

def setFlagsIn (id : MessageId) (flags : List String) : List Stored → List Stored
  | [] => []
  | m :: ms => if m.id = id then { m with flags } :: ms else m :: setFlagsIn id flags ms

def setFlags (f : MemoryFolder) (id : MessageId) (flags : List String) : MemoryFolder :=
  { f with messages := setFlagsIn id flags f.messages }

theorem ids_insert (f : MemoryFolder) (id : MessageId) (raw : List UInt8) (received : Instant) :
    (f.insert id raw received).ids = f.ids ++ [id] := List.map_append

theorem ids_expunge_sublist (f : MemoryFolder) (id : MessageId) :
    (f.expunge id).2.ids.Sublist f.ids := List.filter_sublist.map _

theorem ids_setFlags (f : MemoryFolder) (id : MessageId) (flags : List String) :
    (f.setFlags id flags).ids = f.ids := by
  have hset (ms : List Stored) : (setFlagsIn id flags ms).map (·.id) = ms.map (·.id) := by
    induction ms with
    | nil => rfl
    | cons m ms ih =>
      rw [setFlagsIn]
      split
      · rfl
      · rw [List.map_cons, List.map_cons, ih]
  exact hset f.messages

def inject (f : MemoryFolder) (fault : Fault) : MemoryFolder :=
  { f with faults := f.faults ++ [fault] }

def clearFaults (f : MemoryFolder) : MemoryFolder := { f with faults := [] }

def clearCalls (f : MemoryFolder) : MemoryFolder := { f with calls := [] }

def indexed (f : MemoryFolder) : List (Stored × UInt32) :=
  f.messages.zipIdx.map fun p ↦ (p.1, .ofNat p.2)

def locate? (f : MemoryFolder) (id : MessageId) : Option (Stored × UInt32) :=
  (halve (fun p ↦ id < p.1.id) f.indexed).filter (·.1.id = id)

/-- The `n`-th sample message, counted from 1: one comes each day from the first of 2024 on. -/
def sample (n : Nat) : Stored :=
  let received : Instant := { seconds := 1704099600 + 86400 * (n - 1 : Nat) }
  let number : String := .ofList (Decimal.digits n)
  let text := "From: sender" ++ number ++ "@example.com\r\n" ++
    "To: inbox@example.com\r\n" ++
    "Subject: Message " ++ number ++ "\r\n" ++
    "Date: " ++ received.dateField ++ "\r\n" ++
    "Message-ID: <" ++ number ++ "@example.com>\r\n" ++
    "\r\n" ++
    "Body of message " ++ number ++ ".\r\n"
  { id := ⟨.ofNat n⟩, raw := Utf8.encode text.toList, received }

def samples (name : String) (count : Nat) : MemoryFolder :=
  { name, messages := (List.range' 1 count).map sample }

def check (f : MemoryFolder) (fault : Fault) : Except SessionError Unit :=
  if fault ∈ f.faults then .error (.operation ("injected " ++ fault.text ++ " failure"))
  else .ok ()

def checkOpen (f : MemoryFolder) : Except SessionError Unit :=
  if f.isOpen then .ok () else .error (.folderNotOpen f.name)

def log (f : MemoryFolder) (call : Call) : MemoryFolder := { f with calls := f.calls ++ [call] }

def select (access : Access) (f : MemoryFolder) : Answer MemoryFolder Unit :=
  let f := f.log (.select access)
  match f.check .select with
  | .error e => (.error e, f)
  | .ok () => (.ok (), { f with access := some access })

def close (expunge : Bool) (f : MemoryFolder) : Answer MemoryFolder Unit :=
  let f := f.log .close
  match f.check .close with
  | .error e => (.error e, f)
  | .ok () =>
    (.ok (), { f with
      access := none
      messages := if expunge then f.messages.filter (!·.hasFlag "\\Deleted") else f.messages })

def read {α : Type} (f : MemoryFolder) (call : Call)
    (result : MemoryFolder → Except SessionError α) : Answer MemoryFolder α :=
  let f := f.log call
  (f.checkOpen >>= fun _ ↦ result f, f)

def fetchIndices (range : IndexRange) (items : SummaryItems) (f : MemoryFolder) :
    Answer MemoryFolder (List Summary) :=
  f.read (.fetchIndices range) fun f ↦ (f.check .fetch).map fun _ ↦
    (f.indexed.filter fun p ↦ range.contains p.2).map fun p ↦ p.1.summary p.2 items

def fetchIds (set : IdSet) (items : SummaryItems) (f : MemoryFolder) :
    Answer MemoryFolder (List Summary) :=
  f.read (.fetchIds set) fun f ↦ (f.check .fetch).map fun _ ↦
    (f.indexed.filter fun p ↦ set.contains p.1.id).map fun p ↦ p.1.summary p.2 items

def results (f : MemoryFolder) (query : Query) : List MessageId :=
  ((f.messages.filter (·.satisfies query)).map (·.id)).take f.searchCap

def search (query : Query) (f : MemoryFolder) : Answer MemoryFolder (List MessageId) :=
  f.read (.search query.toText) fun f ↦ (f.check .search).map fun _ ↦ f.results query

def deliver (f : MemoryFolder) : Option (Stored × UInt32) → Except SessionError (Option Message)
  | none => .ok none
  | some (m, index) => (f.check (.message m.id)).map fun _ ↦ some (m.message index)

def messageById (id : MessageId) (f : MemoryFolder) : Answer MemoryFolder (Option Message) :=
  f.read (.messageById id) fun f ↦ f.deliver (f.locate? id)

def messageByIndex (index : UInt32) (f : MemoryFolder) : Answer MemoryFolder (Option Message) :=
  f.read (.messageByIndex index) fun f ↦
    f.deliver ((f.messages[index.toNat]?).map fun m ↦ (m, index))

instance : Folder MemoryFolder where
  name := name
  isOpen := isOpen
  count f := .ofNat (min f.messages.length (UInt32.size - 1))
  select := select
  close := close
  fetchIndices := fetchIndices
  fetchIds := fetchIds
  search := search
  messageById := messageById
  messageByIndex := messageByIndex

end MemoryFolder

end MailWindow
