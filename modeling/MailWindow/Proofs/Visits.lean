import MailWindow.Reader.Saving

namespace MailWindow

universe u v

variable {σ τ : Type} {α : Type u}

inductive Ending where
  | done (returned : Nat)
  | failed
  | dropped

inductive Halt where
  | ended
  | failed (e : Error)
  | dropped

namespace Halt

def ending (returned : Nat) : Halt → Ending
  | ended => .done returned
  | failed _ => .failed
  | dropped => .dropped

/-- What a caller sees who pulls up to `n` times. An error is an item; it takes one more pull to see
the end. -/
def pulled (n : Nat) (ms : List Message) : Halt → List (Except Error Message) × Bool
  | ended => (ms.map .ok, true)
  | failed e => (ms.map .ok ++ [.error e], ms.length + 1 < n)
  | dropped => (ms.map .ok, false)

end Halt

/-- What is asked of a sink before anything is saved: a directory, created if it may be. -/
def Sink.prepare [Sink τ] (dir : String) (create : Bool) (s : τ) : Except Error Unit × τ :=
  if create then Sink.ensureDirectory dir s
  else match Sink.directoryExists dir s with
    | (false, s) => (.error (.directoryNotFound dir), s)
    | (true, s) => (.ok (), s)

variable [Folder σ]

/-- Draws up to `n` messages that the server still has. The end of the targets is seen only by a pull
that finds none. -/
def draw (cancelled : σ → Bool) : Nat → List Target → σ → (List Message × Halt) × σ
  | 0, _, f => (([], .dropped), f)
  | _ + 1, [], f => (([], .ended), f)
  | n + 1, t :: ts, f =>
    if cancelled f then (([], .failed .cancelled), f)
    else match t.fetch f with
      | (.error e, f) => (([], .failed (.session e)), f)
      | (.ok none, f) => draw cancelled (n + 1) ts f
      | (.ok (some m), f) =>
        let ((ms, halt), f) := draw cancelled n ts f
        ((m :: ms, halt), f)

def Target.fetchEach : List Target → σ → σ
  | [], f => f
  | t :: ts, f => fetchEach ts (t.fetch f).2

/-- From one state of a folder to another by fetching some of these messages, from the first on. -/
def FetchesFirst (ts : List Target) (f g : σ) : Prop :=
  ∃ ts', ts' <+: ts ∧ g = Target.fetchEach ts' f

section Loops

variable {f g g' : σ} {t : Target} {ts : List Target}

theorem FetchesFirst.none (ts : List Target) (f : σ) : FetchesFirst ts f f :=
  ⟨[], List.nil_prefix, rfl⟩

theorem FetchesFirst.next {answer : Except SessionError (Option Message)}
    (hfetch : t.fetch f = (answer, g)) (h : FetchesFirst ts g g') : FetchesFirst (t :: ts) f g' := by
  obtain ⟨ts', hprefix, rfl⟩ := h
  refine ⟨t :: ts', List.cons_prefix_cons.mpr ⟨rfl, hprefix⟩, ?_⟩
  rw [Target.fetchEach, hfetch]

theorem fetchesFirst_retrieveEach (cancelled : σ → Bool) (ts : List Target) (f : σ) :
    FetchesFirst ts f (retrieveEach cancelled ts f).2 := by
  induction ts generalizing f with
  | nil => exact .none [] f
  | cons t ts ih =>
    rw [retrieveEach]
    cases cancelled f with
    | true => exact .none _ f
    | false =>
      rcases hfetch : t.fetch f with ⟨e | m?, g⟩
      · exact .next hfetch (.none ts g)
      · exact .next hfetch (ih g)

theorem fetchesFirst_draw (cancelled : σ → Bool) (n : Nat) (ts : List Target) (f : σ) :
    FetchesFirst ts f (draw cancelled n ts f).2 := by
  induction ts generalizing n f with
  | nil => cases n <;> exact .none [] f
  | cons t ts ih =>
    cases n with
    | zero => exact .none _ f
    | succ n =>
      rw [draw]
      cases cancelled f with
      | true => exact .none _ f
      | false =>
        rcases hfetch : t.fetch f with ⟨e | _ | m, g⟩
        · exact .next hfetch (.none ts g)
        · exact .next hfetch (ih (n + 1) g)
        · exact .next hfetch (ih n g)

theorem fetchesFirst_saveEach [Sink τ] (cancelled : σ → τ → Bool) (path : Message → String)
    (ts : List Target) (f : σ) (s : τ) :
    FetchesFirst ts f (saveEach cancelled path ts f s).2.1 := by
  induction ts generalizing f s with
  | nil => exact .none [] f
  | cons t ts ih =>
    rw [saveEach]
    cases cancelled f s with
    | true => exact .none _ f
    | false =>
      rcases hfetch : t.fetch f with ⟨e | _ | m, g⟩
      · exact .next hfetch (.none ts g)
      · exact .next hfetch (ih g s)
      · simp only [Bool.false_eq_true, if_false]
        rcases Sink.write m (path m) s with ⟨e | _, s'⟩
        · exact .next hfetch (.none ts g)
        · exact .next hfetch (ih g s')

end Loops

namespace Reader

def endVisit (r : Reader σ) (v : Visit) : Ending → Reader σ
  | .done returned => r.leave v returned
  | .failed => r.giveUp v
  | .dropped => { r with retained := v.lease.owned }

/-- A call on the window: idle if nothing is to be taken, refused if the folder cannot be entered,
and else whatever the errand in the folder comes to. -/
def attend (idle : α) (refused : Error → α)
    (errand : Reader σ → Visit → (α × Ending) × σ) (r : Reader σ) : α × Reader σ :=
  if r.spec.take.isZero then (idle, r)
  else match r.enter with
    | (.error e, r) => (refused e, r)
    | (.ok v, r) =>
      let ((a, ending), folder) := errand r v
      (a, { r with folder }.endVisit v ending)

theorem attend_map {β : Type v} (φ : α → β) {idle : α} {refused : Error → α}
    {errand : Reader σ → Visit → (α × Ending) × σ} (r : Reader σ) :
    r.attend (φ idle) (fun e ↦ φ (refused e))
        (fun r v ↦ ((φ (errand r v).1.1, (errand r v).1.2), (errand r v).2)) =
      (φ (r.attend idle refused errand).1, (r.attend idle refused errand).2) := by
  simp only [attend]
  cases r.spec.take.isZero with
  | true => rfl
  | false => rcases r.enter with ⟨e | v, r⟩ <;> rfl

section Errands

variable (r : Reader σ) (v : Visit)

def summarizing : (Except Error (List Summary) × Ending) × σ :=
  match r.window v with
  | (.error e, f) => ((.error (.session e), .failed), f)
  | (.ok w, f) =>
    match w.summaries v.spec.items f with
    | (.error e, f) => ((.error (.session e), .failed), f)
    | (.ok summaries, f) => ((.ok summaries, .done summaries.length), f)

def retrieving (cancelled : σ → Bool) : (Except (Interruption Message) (List Message) × Ending) × σ :=
  match r.targets v with
  | (.error e, f) => ((.error (.ofError (.session e)), .failed), f)
  | (.ok targets, f) =>
    match targets.messages cancelled f with
    | (.error i, f) => ((.error i, .failed), f)
    | (.ok messages, f) => ((.ok messages, .done messages.length), f)

def streaming (cancelled : σ → Bool) (n : Nat) :
    ((List (Except Error Message) × Bool) × Ending) × σ :=
  match r.targets v with
  | (.error e, f) => ((Halt.pulled n [] (.failed (.session e)), .failed), f)
  | (.ok targets, f) =>
    let ((messages, halt), f) := draw cancelled n targets.ascending f
    ((halt.pulled n messages, halt.ending messages.length), f)

def saving [Sink τ] (dir : String) (cancelled : σ → τ → Bool) (s : τ) :
    ((Except (Interruption String) (List String) × τ) × Ending) × σ :=
  match r.targets v with
  | (.error e, f) => (((.error (.ofError (.session e)), s), .failed), f)
  | (.ok targets, f) =>
    let ((paths, failure), f, s) := saveEach cancelled (r.savePath dir) targets.ascending f s
    match failure with
    | none => (((.ok paths, s), .done paths.length), f)
    | some (.reading e) | some (.writing e) => (((.error ⟨paths, e⟩, s), .failed), f)

end Errands

/-- An errand that looks for the targets of a window and then only fetches them, in the one order or
the other. -/
def OnlyFetches (errand : Reader σ → Visit → (α × Ending) × σ) : Prop :=
  ∀ r v, (∀ e f, r.targets v = (.error e, f) → (errand r v).2 = f) ∧
    ∀ ts f, r.targets v = (.ok ts, f) →
      FetchesFirst ts.list f (errand r v).2 ∨ FetchesFirst ts.ascending f (errand r v).2

theorem onlyFetches_retrieving (cancelled : σ → Bool) : OnlyFetches (retrieving · · cancelled) := by
  intro r v
  refine ⟨fun e f hts ↦ by simp only [retrieving, hts], fun ts f hts ↦ .inl ?_⟩
  have hfetch := fetchesFirst_retrieveEach cancelled ts.list f
  simp only [retrieving, hts, Targets.messages]
  rcases hgot : retrieveEach cancelled ts.list f with ⟨⟨ms, _ | e⟩, g⟩
  all_goals
    rw [hgot] at hfetch
    exact hfetch

theorem onlyFetches_streaming (cancelled : σ → Bool) (n : Nat) :
    OnlyFetches (streaming · · cancelled n) := by
  intro r v
  refine ⟨fun e f hts ↦ by simp only [streaming, hts], fun ts f hts ↦ .inr ?_⟩
  simp only [streaming, hts]
  exact fetchesFirst_draw cancelled n ts.ascending f

theorem onlyFetches_saving [Sink τ] (dir : String) (cancelled : σ → τ → Bool) (s : τ) :
    OnlyFetches (saving · · dir cancelled s) := by
  intro r v
  refine ⟨fun e f hts ↦ by simp only [saving, hts], fun ts f hts ↦ .inr ?_⟩
  have hfetch := fetchesFirst_saveEach cancelled (r.savePath dir) ts.ascending f s
  simp only [saving, hts]
  rcases hgot : saveEach cancelled (r.savePath dir) ts.ascending f s with ⟨⟨paths, _ | e | e⟩, g, s'⟩
  all_goals
    rw [hgot] at hfetch
    exact hfetch

theorem fetchSummaries_eq_attend (r : Reader σ) :
    r.fetchSummaries = r.attend (.ok []) .error summarizing := by
  rw [fetchSummaries, attend]
  cases r.spec.take.isZero with
  | true => rfl
  | false =>
    rcases r.enter with ⟨e | v, r⟩
    · rfl
    · simp only [summarizing]
      rcases r.window v with ⟨e | w, f⟩
      · rfl
      · rcases h : w.summaries v.spec.items f with ⟨e | summaries, f⟩ <;> simp only [h] <;> rfl

theorem fetchMessages_eq_attend (r : Reader σ) (cancelled : σ → Bool) :
    r.fetchMessages cancelled =
      r.attend (.ok []) (fun e ↦ .error (.ofError e)) (retrieving · · cancelled) := by
  rw [fetchMessages, attend]
  cases r.spec.take.isZero with
  | true => rfl
  | false =>
    rcases r.enter with ⟨e | v, r⟩
    · rfl
    · simp only [retrieving]
      rcases r.targets v with ⟨e | targets, f⟩
      · rfl
      · rcases h : targets.messages cancelled f with ⟨i | messages, f⟩ <;> simp only [h] <;> rfl

section Streams

variable (cancelled : σ → Bool)

theorem pullMany_ended (n : Nat) (r : Reader σ) :
    Stream.ended.pullMany cancelled n r = (([], decide (0 < n)), r) := by
  cases n <;> rfl

theorem pullMany_running (v : Visit) (ts : List Target) (n delivered : Nat) (r : Reader σ)
    (hr : r.retained = v.lease.owned) :
    (Stream.running v ts delivered).pullMany cancelled n r =
      let ((messages, halt), folder) := draw cancelled n ts r.folder
      (halt.pulled n messages,
        { r with folder }.endVisit v (halt.ending (delivered + messages.length))) := by
  induction ts generalizing n delivered r with
  | nil =>
    cases n with
    | zero =>
      simp only [Stream.pullMany, draw, Halt.pulled, Halt.ending, endVisit, ← hr]
      rfl
    | succ n => rfl
  | cons t ts ih =>
    cases n with
    | zero =>
      simp only [Stream.pullMany, draw, Halt.pulled, Halt.ending, endVisit, ← hr]
      rfl
    | succ n =>
      simp only [Stream.pullMany, Stream.pull, Stream.pullFrom, draw]
      cases hc : cancelled r.folder with
      | true => simp [pullMany_ended, Halt.pulled, Halt.ending, endVisit]
      | false =>
        rcases t.fetch r.folder with ⟨e | _ | m, f⟩
        · simp [pullMany_ended, Halt.pulled, Halt.ending, endVisit]
        · exact ih (n + 1) delivered { r with folder := f } hr
        · have hrest := ih n (delivered + 1) { r with folder := f } hr
          rcases hd : draw cancelled n ts f with ⟨⟨messages, halt⟩, f'⟩
          simp only [hd] at hrest
          cases halt with
          | ended => simp [hrest, Halt.pulled, Halt.ending, hd, Nat.add_assoc, Nat.add_comm 1]
          | failed e =>
            have hseen : messages.length + 1 < n ↔ messages.length + 2 < n + 1 := by omega
            simp [hrest, Halt.pulled, Halt.ending, hd, hseen]
          | dropped => simp [hrest, Halt.pulled, Halt.ending, hd]

theorem streamMessages_succ (r : Reader σ) (n : Nat) :
    r.streamMessages cancelled (n + 1) =
      match r.beginStream with
      | (.error e, r) => (Halt.pulled (n + 1) [] (.failed e), r)
      | (.ok none, r) => (([], true), r)
      | (.ok (some (v, ts)), r) => (Stream.running v ts 0).pullMany cancelled (n + 1) r := by
  simp only [streamMessages, Stream.pullMany, Stream.pull]
  rcases r.beginStream with ⟨e | (_ | ⟨v, ts⟩), r⟩
  · simp [pullMany_ended, Halt.pulled]
  · rfl
  · rfl

theorem streamMessages_eq_attend (r : Reader σ) (n : Nat) :
    r.streamMessages cancelled (n + 1) = r.attend ([], true)
      (fun e ↦ Halt.pulled (n + 1) [] (.failed e)) (streaming · · cancelled (n + 1)) := by
  rw [streamMessages_succ, beginStream, attend]
  cases r.spec.take.isZero with
  | true => rfl
  | false =>
    rcases r.enter with ⟨e | v, r⟩
    · rfl
    · simp only [streaming]
      rcases r.targets v with ⟨e | targets, f⟩
      · rfl
      · have hrun := pullMany_running cancelled v targets.ascending (n + 1) 0
          { r with folder := f, retained := v.lease.owned } rfl
        rcases hd : draw cancelled (n + 1) targets.ascending f with ⟨⟨messages, halt⟩, f'⟩
        simp only [hd, Nat.zero_add] at hrun
        refine hrun.trans ?_
        cases halt <;> simp [hd, endVisit, Halt.ending, leave, giveUp]

end Streams

theorem closeRetained_eq_giveUp (r : Reader σ) (v : Visit) (hr : r.retained = v.lease.owned) :
    r.closeRetained = r.giveUp v := by
  simp only [closeRetained, giveUp, Lease.abandon, hr]
  split
  · rfl
  · simp [warn]

theorem saveAll_eq_prepare [Sink τ] (r : Reader σ) (dir : String) (create : Bool)
    (cancelled : σ → τ → Bool) (s : τ) :
    r.saveAll dir create cancelled s =
      match Sink.prepare dir create s with
      | (.error e, s) => (.error (.ofError e), r, s)
      | (.ok (), s) => r.saveWindow dir cancelled s := by
  cases create with
  | true => rfl
  | false =>
    simp only [saveAll, Sink.prepare, Bool.false_eq_true, if_false]
    rcases Sink.directoryExists dir s with ⟨_ | _, s⟩ <;> rfl

theorem saveWindow_eq_attend [Sink τ] (r : Reader σ) (dir : String) (cancelled : σ → τ → Bool)
    (s : τ) :
    r.saveWindow dir cancelled s =
      let ((result, s), r) := r.attend (.ok [], s) (fun e ↦ (.error (.ofError e), s))
        (saving · · dir cancelled s)
      (result, r, s) := by
  rw [saveWindow, beginStream, attend]
  cases r.spec.take.isZero with
  | true => rfl
  | false =>
    rcases r.enter with ⟨e | v, r⟩
    · rfl
    · simp only [saving]
      rcases r.targets v with ⟨e | targets, f⟩
      · rfl
      · have hpath : { r with folder := f, retained := v.lease.owned }.savePath dir =
          r.savePath dir := rfl
        simp only [Bool.false_eq_true, if_false, hpath]
        rcases saveEach cancelled (r.savePath dir) targets.ascending f s with
          ⟨⟨paths, _ | e | e⟩, f, s⟩
        · rfl
        · rfl
        · have hclose := closeRetained_eq_giveUp
            { r with folder := f, retained := v.lease.owned } v rfl
          simp only [hclose]
          rfl

end Reader

end MailWindow
