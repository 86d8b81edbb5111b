import MailWindow.Plan

namespace MailWindow

inductive Continuation where
  | stopped (spec : Spec)
  /-- Nothing is left: the spec is no longer continuous. -/
  | exhausted (spec : Spec)
  | next (spec : Spec)

namespace Continuation

def isPending : Continuation → Bool
  | next _ => true
  | _ => false

def spec : Continuation → Spec
  | stopped s | exhausted s | next s => s

end Continuation

def IdRange.next? (r : IdRange) : Option IdRange :=
  if r.stop.isTop || r.isInverted then none
  else
    let start : MessageId := ⟨r.stop.val + 1⟩
    some ⟨start, r.stop.addOrTop (start.val - r.start.val)⟩

/-- The offset after a window of the taken width, unless the end of the words is reached. -/
def Spec.nextSkip? (s : Spec) : Option UInt32 :=
  match s.take with
  | .all => none
  | .count n => if n = 0 then none else Word.add? s.skip n

/-- Moves a continuous spec on, after a call in a given mode that returned so many items of a folder
of `count` messages. -/
def Spec.advance (s : Spec) (mode : Mode) (returned : Nat) (count : UInt32) : Continuation :=
  if !s.continuous then .stopped s
  else if returned = 0 then .exhausted s.stopped
  else match mode with
    | .idRange =>
      match s.idRange.bind IdRange.next? with
      | some range => .next { s with idRange := some range }
      | none => .exhausted s.stopped
    | .search | .index =>
      match s.nextSkip? with
      | some skip => .next { s with skip := min skip count }
      | none => .exhausted s.stopped
    | .newest => .exhausted s.stopped

end MailWindow
