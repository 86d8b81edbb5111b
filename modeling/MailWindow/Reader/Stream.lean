import MailWindow.Reader.Basic

namespace MailWindow

inductive Stream where
  | fresh
  | running (visit : Visit) (targets : List Target) (delivered : Nat)
  | ended

variable {σ : Type} [Folder σ]

/-- Enters the folder and lists what is to come, if anything is to be taken. While the visit lasts,
an owned folder counts as kept open. -/
def Reader.beginStream (r : Reader σ) : Except Error (Option (Visit × List Target)) × Reader σ :=
  if r.spec.take.isZero then (.ok none, r)
  else match r.enter with
    | (.error e, r) => (.error e, r)
    | (.ok v, r) =>
      match r.targets v with
      | (.error e, folder) => (.error (.session e), { r with folder }.giveUp v)
      | (.ok targets, folder) =>
        (.ok (some (v, targets.ascending)), { r with folder, retained := v.lease.owned })

/-- What a pull yields: an item, unless the stream has ended; the stream and the reader after it. -/
abbrev Pulled (σ : Type) := Option (Except Error Message) × Stream × Reader σ

namespace Stream

def pullFrom (cancelled : σ → Bool) (v : Visit) :
    List Target → Nat → Reader σ → Pulled σ
  | [], delivered, r => (none, .ended, r.leave v delivered)
  | t :: ts, delivered, r =>
    if cancelled r.folder then (some (.error .cancelled), .ended, r.giveUp v)
    else match t.fetch r.folder with
      | (.ok (some m), folder) => (some (.ok m), .running v ts (delivered + 1), { r with folder })
      | (.ok none, folder) => pullFrom cancelled v ts delivered { r with folder }
      | (.error e, folder) => (some (.error (.session e)), .ended, { r with folder }.giveUp v)

def pull (cancelled : σ → Bool) (s : Stream) (r : Reader σ) : Pulled σ :=
  match s with
  | ended => (none, .ended, r)
  | running v ts delivered => pullFrom cancelled v ts delivered r
  | fresh =>
    match r.beginStream with
    | (.error e, r) => (some (.error e), .ended, r)
    | (.ok none, r) => (none, .ended, r)
    | (.ok (some (v, ts)), r) => pullFrom cancelled v ts 0 r

/-- Pulls until the end, but at most `n` items; tells whether the end was seen. -/
def pullMany (cancelled : σ → Bool) :
    Nat → Stream → Reader σ → (List (Except Error Message) × Bool) × Reader σ
  | 0, _, r => (([], false), r)
  | n + 1, s, r =>
    match s.pull cancelled r with
    | (none, _, r) => (([], true), r)
    | (some item, s, r) =>
      let ((items, seen), r) := pullMany cancelled n s r
      ((item :: items, seen), r)

end Stream

def Reader.streamMessages (r : Reader σ) (cancelled : σ → Bool) (n : Nat) :
    (List (Except Error Message) × Bool) × Reader σ :=
  Stream.fresh.pullMany cancelled n r

end MailWindow
