import MailWindow.Folder.Basic
import MailWindow.Plan

namespace MailWindow

inductive Window where
  | empty
  | ids (set : IdSet)
  | indices (range : IndexRange)
  | newest (range : IndexRange)

inductive Target where
  | id (id : MessageId)
  | index (i : UInt32)
  deriving DecidableEq

structure Targets where
  list : List Target
  newestFirst : Bool := false

def Targets.ascending (ts : Targets) : List Target :=
  if ts.newestFirst then ts.list.reverse else ts.list

structure Retrieved where
  messages : List Message
  error? : Option Error := none

variable {σ : Type} [Folder σ]

def Plan.resolve (cap : UInt32) (f : σ) : Plan → Answer σ Window
  | .empty => (.ok .empty, f)
  | .ids range => (.ok (.ids (.range range)), f)
  | .indices range => (.ok (.indices range), f)
  | .newest range => (.ok (.newest range), f)
  | .search query skip take =>
    match Folder.search query f with
    | (.error e, f) => (.error e, f)
    | (.ok candidates, f) =>
      let ids := sliceResults candidates skip take cap
      (.ok (if ids.isEmpty then .empty else .ids (.list ids)), f)

namespace Window

/-- The summaries of a window, by ascending identifier or position. What a server sends beyond the
identifiers asked for is left out. -/
def summaries (items : SummaryItems) (f : σ) : Window → Answer σ (List Summary)
  | empty => (.ok [], f)
  | ids set =>
    match Folder.fetchIds set items f with
    | (.error e, f) => (.error e, f)
    | (.ok found, f) =>
      (.ok ((found.filter fun s ↦ set.contains s.id).mergeSort fun a b ↦ a.id ≤ b.id), f)
  | indices range | newest range =>
    match Folder.fetchIndices range items f with
    | (.error e, f) => (.error e, f)
    | (.ok found, f) => (.ok (found.mergeSort fun a b ↦ a.index ≤ b.index), f)

/-- The messages of a window. Identifiers are asked for first, so that only those remain which the
server still has. -/
def targets (f : σ) : Window → Answer σ Targets
  | empty => (.ok { list := [] }, f)
  | ids set =>
    match Folder.fetchIds set .idOnly f with
    | (.error e, f) => (.error e, f)
    | (.ok found, f) =>
      let ids := ((found.map (·.id)).filter set.contains).mergeSort fun a b ↦ a ≤ b
      (.ok { list := (squeeze ids).map .id }, f)
  | indices range => (.ok { list := range.toList.map .index }, f)
  | newest range => (.ok { list := range.toList.reverse.map .index, newestFirst := true }, f)

end Window

def Target.fetch (f : σ) : Target → Answer σ (Option Message)
  | id i => Folder.messageById i f
  | index i => Folder.messageByIndex i f

/-- Retrieves messages one after the other. The first failure ends it, and so does cancellation,
which is looked for before each of them. -/
def retrieveEach (cancelled : σ → Bool) : List Target → σ → Retrieved × σ
  | [], f => ({ messages := [] }, f)
  | t :: ts, f =>
    if cancelled f then ({ messages := [], error? := some .cancelled }, f)
    else match t.fetch f with
      | (.error e, f) => ({ messages := [], error? := some (.session e) }, f)
      | (.ok m?, f) =>
        let (rest, f) := retrieveEach cancelled ts f
        ({ rest with messages := m?.toList ++ rest.messages }, f)

def Targets.messages (ts : Targets) (cancelled : σ → Bool) (f : σ) :
    Except (Interruption Message) (List Message) × σ :=
  let (got, f) := retrieveEach cancelled ts.list f
  let messages := if ts.newestFirst then got.messages.reverse else got.messages
  match got.error? with
  | none => (.ok messages, f)
  | some e => (.error ⟨messages, e⟩, f)

end MailWindow
