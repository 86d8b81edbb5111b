import MailWindow.IdSet
import MailWindow.Calendar.Date

namespace MailWindow

inductive Query where
  | all
  | seen
  | unseen
  | flagged
  | answered
  | deleted
  | subject (s : String)
  | sender (s : String)
  | recipient (s : String)
  | body (s : String)
  | text (s : String)
  | header (name value : String)
  | since (d : Date)
  | before (d : Date)
  | on (d : Date)
  | larger (n : UInt32)
  | smaller (n : UInt32)
  | ids (set : IdSet)
  | conj (qs : List Query)
  | disj (p q : Query)
  | neg (q : Query)

namespace Query

instance : Inhabited Query := ⟨all⟩

/-- Whether the query is the one that asks nothing; a query that merely matches every message is
not. -/
def isAll : Query → Bool
  | all => true
  | _ => false

/-- Both queries. The query `all` vanishes, and conjunctions are joined into one. -/
def and : Query → Query → Query
  | all, q => q
  | p, all => p
  | conj ps, conj qs => conj (ps ++ qs)
  | conj ps, q => conj (ps ++ [q])
  | p, conj qs => conj (p :: qs)
  | p, q => conj [p, q]

def or (p q : Query) : Query := disj p q

def not (q : Query) : Query := neg q

/-- Messages that arrived from the one day on and before the other, which is `today` if left out. -/
def between (after : Date) (until? : Option Date) (today : Date) : Query :=
  (since after).and (before (until?.getD today))

def anyOf? : List Query → Option Query
  | [] => none
  | q :: qs => some (qs.foldl or q)

/-- One of the words in the subject, or one of them in the body; no words ask nothing. -/
def keywords (words : List String) : Query :=
  match anyOf? (words.map subject), anyOf? (words.map body) with
  | some s, some b => s.or b
  | _, _ => all

def messageId (id : String) (addBrackets : Bool) : Query :=
  header "Message-Id" (if addBrackets then "<" ++ id ++ ">" else id)

end Query

end MailWindow
