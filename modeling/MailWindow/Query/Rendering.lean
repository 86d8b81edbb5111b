import MailWindow.Query.Basic

namespace MailWindow.Query

def needsQuotes (c : Char) : Bool :=
  c.toNat < 0x20 || c.toNat = 0x7F || [' ', '"', '\\', '(', ')', '{', '%', '*'].contains c

def escaped : List Char → List Char
  | [] => []
  | c :: cs => if c = '"' || c = '\\' then '\\' :: c :: escaped cs else c :: escaped cs

/-- An argument as it stands, or between quotes when it is empty or a character calls for them. -/
def argument (s : String) : List Char :=
  if s.isEmpty || s.toList.any needsQuotes then '"' :: escaped s.toList ++ ['"'] else s.toList

mutual

/-- A conjunction has no word of its own, so a nested one stands in parentheses; a conjunction of
one query is that query, and the empty one is `ALL`. -/
def render (nested : Bool) : Query → List Char
  | all => "ALL".toList
  | seen => "SEEN".toList
  | unseen => "UNSEEN".toList
  | flagged => "FLAGGED".toList
  | answered => "ANSWERED".toList
  | deleted => "DELETED".toList
  | subject s => "SUBJECT ".toList ++ argument s
  | sender s => "FROM ".toList ++ argument s
  | recipient s => "TO ".toList ++ argument s
  | body s => "BODY ".toList ++ argument s
  | text s => "TEXT ".toList ++ argument s
  | header name value => "HEADER ".toList ++ argument name ++ ' ' :: argument value
  | since d => "SINCE ".toList ++ d.searchText
  | before d => "BEFORE ".toList ++ d.searchText
  | on d => "ON ".toList ++ d.searchText
  | larger n => "LARGER ".toList ++ Decimal.digits n.toNat
  | smaller n => "SMALLER ".toList ++ Decimal.digits n.toNat
  | ids set => "UID ".toList ++ set.text
  | conj [] => "ALL".toList
  | conj [q] => render nested q
  | conj (p :: q :: qs) =>
    let inner := render true p ++ renderTail (q :: qs)
    if nested then '(' :: inner ++ [')'] else inner
  | disj p q => "OR ".toList ++ render true p ++ ' ' :: render true q
  | neg q => "NOT ".toList ++ render true q

def renderTail : List Query → List Char
  | [] => []
  | q :: qs => ' ' :: render true q ++ renderTail qs

end

def toText (q : Query) : String := .ofList (render false q)

end MailWindow.Query
