import MailWindow.Continuation
import MailWindow.Lease
import MailWindow.Window

namespace MailWindow

/-- A reader of a folder. A call that fails leaves its spec alone. -/
structure Reader (σ : Type) where
  folder : σ
  spec : Spec := {}
  config : Config := {}
  /-- Whether the folder is open because a continuation is pending. -/
  retained : Bool := false
  warnings : List Warning := []

/-- A stay in the open folder: the lease that it is under, and the plan made there. -/
structure Visit where
  lease : Lease
  mode : Mode
  count : UInt32
  spec : Spec
  plan : Plan

namespace Reader

variable {σ : Type}

def withConfig (folder : σ) (config : Config) : Except Error (Reader σ) :=
  config.validate.map fun _ ↦ { folder, config }

def warn (r : Reader σ) (ws : List Warning) : Reader σ := { r with warnings := r.warnings ++ ws }

def setSpec (r : Reader σ) : Except Error Spec → Except Error (Reader σ)
  | .ok spec => .ok { r with spec }
  | .error e => .error e

def skip (r : Reader σ) (n : Int) : Except Error (Reader σ) := r.setSpec (r.spec.withSkip n)

def take (r : Reader σ) (n : Int) (continuous : Bool) : Except Error (Reader σ) :=
  (r.setSpec (r.spec.withTake n continuous)).map fun r ↦
    if r.config.batchWarningThreshold.toNat < n then
      r.warn [.oversizedTake n r.config.batchWarningThreshold]
    else r

def newest (r : Reader σ) (n : UInt32) : Except Error (Reader σ) := r.setSpec (r.spec.withNewest n)

def range (r : Reader σ) (range : IdRange) (continuous : Bool) : Reader σ :=
  { r with spec := r.spec.withRange range continuous }

def batch (r : Reader σ) (start : MessageId) (size : UInt32) (continuous : Bool) : Reader σ :=
  { r with spec := r.spec.withBatch start size continuous }

def query (r : Reader σ) (query : Query) : Reader σ :=
  { r with spec := r.spec.withQuery query r.config.searchCap }

def items (r : Reader σ) (items : SummaryItems) : Reader σ :=
  { r with spec := r.spec.withItems items }

variable [Folder σ]

def text (r : Reader σ) : String :=
  Folder.name r.folder ++ " (skip " ++ toString r.spec.skip.toNat ++ ", take " ++
    r.spec.take.text ++ ")"

def closeRetained (r : Reader σ) : Reader σ :=
  if r.retained && Folder.isOpen r.folder then
    let (warnings, folder) := closeQuietly r.folder
    { r with folder, retained := false }.warn warnings
  else { r with retained := false }

def finish (r : Reader σ) : Reader σ := { r with spec := r.spec.stopped }.closeRetained

def enter (r : Reader σ) : Except Error Visit × Reader σ :=
  match Lease.acquire r.config.folderAccess r.retained r.folder with
  | (.error e, folder) => (.error (.session e), { r with folder, retained := false })
  | (.ok lease, folder) =>
    let count := Folder.count folder
    let planned := r.spec.plan count r.config.searchCap
    (.ok { lease, mode := r.spec.mode, count, spec := planned.spec, plan := planned.plan },
      { r with folder, retained := false }.warn planned.warnings)

def leave (r : Reader σ) (v : Visit) (returned : Nat) : Reader σ :=
  let next := v.spec.advance v.mode returned v.count
  let (retained, warnings, folder) := v.lease.release next.isPending r.folder
  { r with folder, retained, spec := next.spec }.warn warnings

def giveUp (r : Reader σ) (v : Visit) : Reader σ :=
  let (warnings, folder) := v.lease.abandon r.folder
  { r with folder, retained := false }.warn warnings

def window (r : Reader σ) (v : Visit) : Answer σ Window :=
  v.plan.resolve r.config.searchCap r.folder

def fetchSummaries (r : Reader σ) : Except Error (List Summary) × Reader σ :=
  if r.spec.take.isZero then (.ok [], r)
  else match r.enter with
    | (.error e, r) => (.error e, r)
    | (.ok v, r) =>
      match r.window v with
      | (.error e, folder) => (.error (.session e), { r with folder }.giveUp v)
      | (.ok w, folder) =>
        match w.summaries v.spec.items folder with
        | (.error e, folder) => (.error (.session e), { r with folder }.giveUp v)
        | (.ok summaries, folder) => (.ok summaries, { r with folder }.leave v summaries.length)

def targets (r : Reader σ) (v : Visit) : Answer σ Targets :=
  match r.window v with
  | (.error e, folder) => (.error e, folder)
  | (.ok w, folder) => w.targets folder

def fetchMessages (r : Reader σ) (cancelled : σ → Bool) :
    Except (Interruption Message) (List Message) × Reader σ :=
  if r.spec.take.isZero then (.ok [], r)
  else match r.enter with
    | (.error e, r) => (.error (.ofError e), r)
    | (.ok v, r) =>
      match r.targets v with
      | (.error e, folder) => (.error (.ofError (.session e)), { r with folder }.giveUp v)
      | (.ok targets, folder) =>
        match targets.messages cancelled folder with
        | (.error i, folder) => (.error i, { r with folder }.giveUp v)
        | (.ok messages, folder) => (.ok messages, { r with folder }.leave v messages.length)

/-- One message by its identifier. The spec plays no part, and a folder kept open stays so. -/
def fetchMessage (r : Reader σ) (id : MessageId) : Except Error (Option Message) × Reader σ :=
  match Lease.acquire r.config.folderAccess r.retained r.folder with
  | (.error e, folder) => (.error (.session e), { r with folder })
  | (.ok lease, folder) =>
    match Target.fetch folder (.id id) with
    | (.ok m?, folder) =>
      let (retained, warnings, folder) := lease.release r.retained folder
      (.ok m?, { r with folder, retained }.warn warnings)
    | (.error e, folder) =>
      let (warnings, folder) := lease.abandon folder
      (.error (.session e), { r with folder, retained := false }.warn warnings)

end Reader

end MailWindow
