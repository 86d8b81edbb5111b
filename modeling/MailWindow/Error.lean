namespace MailWindow

inductive SessionError where
  | connection (text : String)
  | folderNotOpen (name : String)
  | operation (text : String)
  | other (text : String)
  deriving DecidableEq

def SessionError.message : SessionError → String
  | connection text => "Connection failed: " ++ text
  | folderNotOpen name => "Folder is not open: " ++ name
  | operation text => "Operation failed: " ++ text
  | other text => text

inductive Error where
  | invalidArgument (name reason : String)
  | session (e : SessionError)
  | directoryNotFound (path : String)
  | cancelled
  | io (text : String)
  | json (text : String)
  | config (text : String)
  deriving DecidableEq

namespace Error

def message : Error → String
  | invalidArgument name reason => "Invalid argument `" ++ name ++ "`: " ++ reason
  | session e => "Mailbox session error: " ++ e.message
  | directoryNotFound path => "Directory not found: " ++ path
  | cancelled => "Operation cancelled"
  | io text => "I/O error: " ++ text
  | json text => "Serialization error: " ++ text
  | config text => "Configuration error: " ++ text

def isCancelled : Error → Bool
  | cancelled => true
  | _ => false

end Error

structure Interruption (α : Type) where
  fetched : List α
  error : Error

namespace Interruption

variable {α : Type}

def ofError (e : Error) : Interruption α := ⟨[], e⟩

def message (i : Interruption α) : String :=
  "Retrieval interrupted after " ++ toString i.fetched.length ++ " item(s): " ++ i.error.message

def isCancelled (i : Interruption α) : Bool := i.error.isCancelled

end Interruption

inductive Warning where
  | skipBeyondFolder (skip count : UInt32)
  | skipBeyondCap (skip cap : UInt32)
  | truncatedByCap (skip cap : UInt32)
  | oversizedTake (n : Int) (threshold : UInt32)
  | closeFailed (e : SessionError)
  deriving DecidableEq

end MailWindow
