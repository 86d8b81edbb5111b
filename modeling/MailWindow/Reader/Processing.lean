import MailWindow.Reader.Basic

namespace MailWindow

variable {σ η : Type}

def handleEach (handler : Summary → η → Except Error Unit × η) :
    List Summary → η → Except Error Unit × η
  | [], h => (.ok (), h)
  | s :: ss, h =>
    match handler s h with
    | (.error e, h) => (.error e, h)
    | (.ok (), h) => handleEach handler ss h

variable [Folder σ]

namespace Reader

/-- Fetches and handles windows while the spec is continuous and a window holds anything, for a
bounded number of rounds: the count of summaries handled, nothing if the rounds do not suffice. -/
def processRounds (handler : Summary → η → Except Error Unit × η) (cancelled : σ → η → Bool) :
    Nat → Nat → Reader σ → η → Option (Except Error Nat) × Reader σ × η
  | 0, _, r, h => (none, r, h)
  | rounds + 1, processed, r, h =>
    if cancelled r.folder h then (some (.error .cancelled), r.closeRetained, h)
    else match r.fetchSummaries with
      | (.error e, r) => (some (.error e), r, h)
      | (.ok [], r) => (some (.ok processed), r, h)
      | (.ok batch, r) =>
        match handleEach handler batch h with
        | (.error e, h) => (some (.error e), r.closeRetained, h)
        | (.ok (), h) =>
          let processed := processed + batch.length
          if r.spec.continuous then processRounds handler cancelled rounds processed r h
          else (some (.ok processed), r, h)

/-- More rounds than there are words: no walk through a folder that stays as it is takes longer. -/
def allRounds : Nat := UInt32.size + 2

def processSummaries (r : Reader σ) (handler : Summary → η → Except Error Unit × η)
    (cancelled : σ → η → Bool) (h : η) : Option (Except Error Nat) × Reader σ × η :=
  r.processRounds handler cancelled allRounds 0 h

end Reader

end MailWindow
