import MailWindow.Error
import MailWindow.IndexRange
import MailWindow.SummaryItem
import MailWindow.Query.Rendering

namespace MailWindow

inductive Take where
  | all
  | count (n : UInt32)
  deriving DecidableEq

namespace Take

def isZero (t : Take) : Bool := t = count 0

def count? : Take → Option UInt32
  | all => none
  | count n => some n

/-- Counts as callers write them: -1 stands for all. -/
def ofInt (n : Int) : Except Error Take :=
  if n = -1 then .ok all
  else if n < -1 then
    .error (.invalidArgument "take"
      ("must be -1 (all) or a non-negative count, got " ++ toString n))
  else if n < UInt32.size then .ok (count (.ofNat n.toNat))
  else .error (.invalidArgument "take" (toString n ++ " exceeds 4294967295"))

def text : Take → String
  | all => "all"
  | count n => toString n.toNat

end Take

inductive Mode where
  | idRange
  | search
  | newest
  | index
  deriving DecidableEq

def Mode.text : Mode → String
  | idRange => "id-range"
  | search => "search"
  | newest => "top"
  | index => "index"

inductive Selection where
  | idRange (range : IdRange)
  | search (query : Query) (skip : UInt32) (take : Take)
  | newest (n : { n : UInt32 // n ≠ 0 })
  | index (skip : UInt32) (take : Take)

def Selection.mode : Selection → Mode
  | idRange _ => .idRange
  | search .. => .search
  | newest _ => .newest
  | index .. => .index

/-- All settings at once; an identifier range comes before a query, a query before the newest
messages, and these before positions. -/
structure Spec where
  skip : UInt32 := 0
  take : Take := .all
  takeIsSet : Bool := false
  newest : Option { n : UInt32 // n ≠ 0 } := none
  idRange : Option IdRange := none
  query : Query := .all
  continuous : Bool := false
  items : SummaryItems := .envelope

namespace Spec

def selection (s : Spec) : Selection :=
  match s.idRange with
  | some range => .idRange range
  | none =>
    if !s.query.isAll then .search s.query s.skip s.take
    else match s.newest with
      | some n => .newest n
      | none => .index s.skip s.take

def mode (s : Spec) : Mode := s.selection.mode

def withSkip (s : Spec) (n : Int) : Except Error Spec :=
  if n < 0 then .error (.invalidArgument "skip" ("must not be negative, got " ++ toString n))
  else if n < UInt32.size then .ok { s with skip := .ofNat n.toNat }
  else .error (.invalidArgument "skip" (toString n ++ " exceeds 4294967295"))

def withTake (s : Spec) (n : Int) (continuous : Bool) : Except Error Spec :=
  (Take.ofInt n).map fun take ↦ { s with take, takeIsSet := true, continuous }

def withNewest (s : Spec) (n : UInt32) : Except Error Spec :=
  if h : n ≠ 0 then .ok { s with newest := some ⟨n, h⟩ }
  else .error (.invalidArgument "top" "must be greater than zero")

def withRange (s : Spec) (range : IdRange) (continuous : Bool) : Spec :=
  { s with idRange := some range, continuous }

def withBatch (s : Spec) (start : MessageId) (size : UInt32) (continuous : Bool) : Spec :=
  s.withRange (.batch start size) continuous

/-- A query brings its own count, the search cap, unless the caller has set one. -/
def withQuery (s : Spec) (query : Query) (cap : UInt32) : Spec :=
  { s with query, take := if query.isAll || s.takeIsSet then s.take else .count cap }

def withItems (s : Spec) (items : SummaryItems) : Spec :=
  { s with items := SummaryItems.idOnly.union items }

def stopped (s : Spec) : Spec := { s with continuous := false }

end Spec

end MailWindow
