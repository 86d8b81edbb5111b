import MailWindow.Reader.Stream
import MailWindow.Sink.Basic

namespace MailWindow

inductive SaveFailure where
  | reading (e : Error)
  | writing (e : Error)

variable {σ τ : Type} [Folder σ] [Sink τ]

/-- Retrieves and saves messages one by one: the paths of those saved, and what ended it early. -/
def saveEach (cancelled : σ → τ → Bool) (path : Message → String) :
    List Target → σ → τ → (List String × Option SaveFailure) × σ × τ
  | [], f, s => (([], none), f, s)
  | t :: ts, f, s =>
    if cancelled f s then (([], some (.reading .cancelled)), f, s)
    else match t.fetch f with
      | (.error e, f) => (([], some (.reading (.session e))), f, s)
      | (.ok none, f) => saveEach cancelled path ts f s
      | (.ok (some m), f) =>
        match Sink.write m (path m) s with
        | (.error e, s) => (([], some (.writing e)), f, s)
        | (.ok (), s) =>
          let ((paths, failure), f, s) := saveEach cancelled path ts f s
          ((path m :: paths, failure), f, s)

namespace Reader

def savePath (r : Reader σ) (dir : String) (m : Message) : String :=
  joinPath dir (.ofList m.id.text ++ "." ++ r.config.messageExtension)

def saveWindow (r : Reader σ) (dir : String) (cancelled : σ → τ → Bool) (s : τ) :
    Except (Interruption String) (List String) × Reader σ × τ :=
  match r.beginStream with
  | (.error e, r) => (.error (.ofError e), r, s)
  | (.ok none, r) => (.ok [], r, s)
  | (.ok (some (v, ts)), r) =>
    let ((paths, failure), folder, s) := saveEach cancelled (r.savePath dir) ts r.folder s
    let r := { r with folder }
    match failure with
    | none => (.ok paths, r.leave v paths.length, s)
    | some (.reading e) => (.error ⟨paths, e⟩, r.giveUp v, s)
    | some (.writing e) => (.error ⟨paths, e⟩, r.closeRetained, s)

/-- Saves the messages of the window below a directory, which is created if it may be. -/
def saveAll (r : Reader σ) (dir : String) (create : Bool) (cancelled : σ → τ → Bool) (s : τ) :
    Except (Interruption String) (List String) × Reader σ × τ :=
  if create then
    match Sink.ensureDirectory dir s with
    | (.error e, s) => (.error (.ofError e), r, s)
    | (.ok (), s) => r.saveWindow dir cancelled s
  else
    match Sink.directoryExists dir s with
    | (false, s) => (.error (.ofError (.directoryNotFound dir)), r, s)
    | (true, s) => r.saveWindow dir cancelled s

end Reader

end MailWindow
