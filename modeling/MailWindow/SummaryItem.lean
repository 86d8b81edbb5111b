namespace MailWindow

inductive SummaryItem where
  | uniqueId
  | envelope
  | flags
  | internalDate
  | size
  | headers
  | bodyStructure
  | references
  deriving DecidableEq

namespace SummaryItem

def all : List SummaryItem :=
  [.uniqueId, .envelope, .flags, .internalDate, .size, .headers, .bodyStructure, .references]

theorem mem_all (i : SummaryItem) : i ∈ all := by cases i <;> decide

def text : SummaryItem → String
  | .uniqueId => "UID"
  | .envelope => "ENVELOPE"
  | .flags => "FLAGS"
  | .internalDate => "INTERNALDATE"
  | .size => "RFC822.SIZE"
  | .headers => "BODY.PEEK[HEADER]"
  | .bodyStructure => "BODYSTRUCTURE"
  | .references => "BODY.PEEK[HEADER.FIELDS (REFERENCES)]"

end SummaryItem

structure SummaryItems where
  contains : SummaryItem → Bool
  contains_uniqueId : contains .uniqueId = true

namespace SummaryItems

@[ext] theorem ext {s t : SummaryItems} (h : ∀ i, s.contains i = t.contains i) : s = t := by
  cases s; cases t; congr; exact funext h

def ofList (l : List SummaryItem) : SummaryItems := ⟨fun i ↦ i = .uniqueId || l.contains i, rfl⟩

def idOnly : SummaryItems := ofList []

def envelope : SummaryItems := ofList [.envelope]

def core : SummaryItems := ofList [.envelope, .headers, .size, .bodyStructure]

def insert (s : SummaryItems) (item : SummaryItem) : SummaryItems :=
  ⟨fun i ↦ i = item || s.contains i, by simp [s.contains_uniqueId]⟩

def union (s t : SummaryItems) : SummaryItems :=
  ⟨fun i ↦ s.contains i || t.contains i, by simp [s.contains_uniqueId]⟩

def toList (s : SummaryItems) : List SummaryItem := SummaryItem.all.filter s.contains

def size (s : SummaryItems) : Nat := s.toList.length

def text (s : SummaryItems) : String :=
  "(" ++ " ".intercalate (s.toList.map SummaryItem.text) ++ ")"

end SummaryItems

end MailWindow
