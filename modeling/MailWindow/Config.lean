import MailWindow.Error
import MailWindow.Json
import MailWindow.MessageId
import MailWindow.Text.Quoted
import MailWindow.Text.Utf8

namespace MailWindow

inductive Access where
  | readOnly
  | readWrite
  deriving DecidableEq

namespace Access

def text : Access → String
  | readOnly => "read-only"
  | readWrite => "read-write"

def isReadOnly : Access → Bool
  | readOnly => true
  | readWrite => false

def ofText? (s : String) : Option Access :=
  [readOnly, readWrite].find? (·.text = s)

end Access

structure Config where
  searchCap : UInt32 := 250
  /-- A larger take is worth a warning. -/
  batchWarningThreshold : UInt32 := 65535
  messageExtension : String := "eml"
  dosLineEndings : Bool := true
  folderAccess : Access := .readWrite
  deriving DecidableEq

namespace Config

/-- Characters that would change which file a name means. -/
def isUnfit (c : Char) : Bool :=
  c = '.' || c = '/' || c = '\\' || c.toNat < 0x20 || (0x7F ≤ c.toNat && c.toNat < 0xA0)

def validate (c : Config) : Except Error Unit :=
  if c.searchCap = 0 then .error (.config "search_cap must be greater than zero")
  else if c.messageExtension.isEmpty then .error (.config "message_extension must not be empty")
  else if c.messageExtension.toList.any isUnfit then
    .error (.config ("message_extension contains an invalid character: " ++
      .ofList (Quoted.encode c.messageExtension.toList)))
  else .ok ()

section Json

def wordOf? : Json → Option UInt32
  | .number (some n) => if n < UInt32.size then some (.ofNat n) else none
  | _ => none

def boolOf? : Json → Option Bool
  | .bool b => some b
  | _ => none

def stringOf? : Json → Option String
  | .string text? => text?
  | _ => none

def accessOf? : Json → Option Access
  | .string text? => text?.bind Access.ofText?
  | .object [(key?, .null)] => key?.bind Access.ofText?
  | _ => none

/-- Settings read by a way of finding them: `find` gives what is written for a setting, by its name
or by its place, or refuses. -/
def ofSettings? (find : String → Nat → Option (Option Json)) : Option Config := do
  let setting {α : Type} (name : String) (place : Nat) (default : α) (read : Json → Option α) :
      Option α := do
    match ← find name place with
    | none => pure default
    | some v => read v
  let standard : Config := {}
  return {
    searchCap := ← setting "search_cap" 0 standard.searchCap wordOf?
    batchWarningThreshold :=
      ← setting "batch_warning_threshold" 1 standard.batchWarningThreshold wordOf?
    messageExtension := ← setting "message_extension" 2 standard.messageExtension stringOf?
    dosLineEndings := ← setting "dos_line_endings" 3 standard.dosLineEndings boolOf?
    folderAccess := ← setting "folder_access" 4 standard.folderAccess accessOf? }

def memberOf? (members : List (Option String × Json)) (name : String) : Option (Option Json) :=
  match members.filter (·.1 = some name) with
  | [] => some none
  | [m] => some (some m.2)
  | _ => none

/-- Settings are members of an object, where unknown keys mean nothing, or the first elements of an
array. -/
def ofJson? : Json → Option Config
  | .object members =>
    if members.all (·.1.isSome) then ofSettings? fun name _ ↦ memberOf? members name else none
  | .array values =>
    if values.length ≤ 5 then ofSettings? fun _ place ↦ some values[place]? else none
  | _ => none

def ofText (s : String) : Except Error Config :=
  match (Json.ofText? s).bind ofJson? with
  | none => .error (.json "not a reader configuration")
  | some c => c.validate.map fun _ ↦ c

def load : Option (List UInt8) → Except Error Config
  | none => .error (.io "no such file")
  | some bytes =>
    match Utf8.decode? bytes with
    | none => .error (.io "not a text")
    | some cs => ofText (.ofList cs)

end Json

end Config

def MessageId.ofJsonText (s : String) : Except Error MessageId :=
  match (Json.ofText? s).bind Config.wordOf? with
  | some n => .ok ⟨n⟩
  | none => .error (.json "not an identifier")

end MailWindow
