import MailWindow.Spec
import MailWindow.Word

namespace MailWindow

inductive Plan where
  | empty
  | ids (range : IdRange)
  | search (query : Query) (skip : UInt32) (take : Take)
  | indices (range : IndexRange)
  | newest (range : IndexRange)

def Plan.isEmpty : Plan → Bool
  | empty => true
  | _ => false

structure Planned where
  spec : Spec
  plan : Plan
  warnings : List Warning := []

def exceedsCap (skip : UInt32) (take : Take) (cap : UInt32) : Bool :=
  match take with
  | .all => false
  | .count n => cap.toNat < skip.toNat + n.toNat

def newestRange (count n : UInt32) : Option IndexRange :=
  if count = 0 then none
  else IndexRange.of? (Word.subOrZero (count - 1) (Word.subOrZero n 1)) (count - 1)

def indexRange (count skip : UInt32) (take : Take) : Option IndexRange :=
  let last := Word.subOrZero count 1
  IndexRange.of? skip <|
    match take with
    | .all => last
    | .count n => min (Word.addOrMax skip (Word.subOrZero n 1)) last

/-- The request for a spec. An offset past the end asks for nothing; a continuous spec then waits at
the end of the folder. -/
def Spec.plan (s : Spec) (count cap : UInt32) : Planned :=
  if s.take.isZero then ⟨s, .empty, []⟩
  else match s.selection with
    | .idRange range => ⟨s, if range.isInverted then .empty else .ids range, []⟩
    | .search query skip take =>
      if cap ≤ skip then ⟨s, .empty, [.skipBeyondCap skip cap]⟩
      else ⟨s, .search query skip take,
        if exceedsCap skip take cap then [.truncatedByCap skip cap] else []⟩
    | .newest n => ⟨s, (newestRange count n).elim .empty .newest, []⟩
    | .index skip take =>
      if skip < count then ⟨s, (indexRange count skip take).elim .empty .indices, []⟩
      else if s.continuous then ⟨{ s with skip := count }, .empty, []⟩
      else ⟨s, .empty, [.skipBeyondFolder skip count]⟩

/-- The part of search results that a call wants: counted from the newest, each identifier once,
never more than the cap; in ascending order. -/
def sliceResults (candidates : List MessageId) (skip : UInt32) (take : Take) (cap : UInt32) :
    List MessageId :=
  let newestFirst := squeeze (candidates.mergeSort fun a b ↦ b ≤ a)
  let limit := (take.count?.elim cap fun n ↦ min n cap).toNat
  ((newestFirst.drop skip.toNat).take limit).reverse

end MailWindow
