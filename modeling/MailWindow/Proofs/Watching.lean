import MailWindow.Proofs.Visits
import MailWindow.Reader.Processing

namespace MailWindow

universe u

variable {σ ρ τ : Type} {α : Type u}

inductive Question where
  | search (query : Query)
  | fetchIds (set : IdSet) (items : SummaryItems)
  | fetchIndices (range : IndexRange) (items : SummaryItems)
  | messageById (id : MessageId)
  | messageByIndex (index : UInt32)

abbrev Question.Reply : Question → Type
  | search _ => List MessageId
  | fetchIds .. | fetchIndices .. => List Summary
  | messageById _ | messageByIndex _ => Option Message

structure Exchange where
  question : Question
  answer : Except SessionError question.Reply

def Exchange.target? (e : Exchange) : Option Target :=
  match e.question with
  | .messageById id => some (.id id)
  | .messageByIndex index => some (.index index)
  | _ => none

def Folder.ask [Folder σ] (f : σ) : (q : Question) → Answer σ q.Reply
  | .search query => Folder.search query f
  | .fetchIds set items => Folder.fetchIds set items f
  | .fetchIndices range items => Folder.fetchIndices range items f
  | .messageById id => Folder.messageById id f
  | .messageByIndex index => Folder.messageByIndex index f

def Reader.mapFolder (φ : σ → ρ) (r : Reader σ) : Reader ρ := { r with folder := φ r.folder }

section Alike

variable [Folder σ] [Folder ρ]

/-- A way to see one folder as another that answers alike. -/
structure Folder.Hom (φ : σ → ρ) : Prop where
  isOpen : ∀ f, Folder.isOpen (φ f) = Folder.isOpen f
  count : ∀ f, Folder.count (φ f) = Folder.count f
  select : ∀ access f, Folder.select access (φ f) = (Folder.select access f).map id φ
  close : ∀ expunge f, Folder.close expunge (φ f) = (Folder.close expunge f).map id φ
  ask : ∀ q f, Folder.ask (φ f) q = (Folder.ask f q).map id φ

namespace Folder.Hom

variable {φ : σ → ρ} (hφ : Folder.Hom φ)

include hφ

theorem search (query : Query) (f : σ) :
    Folder.search query (φ f) = (Folder.search query f).map id φ := hφ.ask (.search query) f

theorem fetchIds (set : IdSet) (items : SummaryItems) (f : σ) :
    Folder.fetchIds set items (φ f) = (Folder.fetchIds set items f).map id φ :=
  hφ.ask (.fetchIds set items) f

theorem fetchIndices (range : IndexRange) (items : SummaryItems) (f : σ) :
    Folder.fetchIndices range items (φ f) = (Folder.fetchIndices range items f).map id φ :=
  hφ.ask (.fetchIndices range items) f

theorem resolve (cap : UInt32) (p : Plan) (f : σ) :
    p.resolve cap (φ f) = (p.resolve cap f).map id φ := by
  cases p with
  | search query skip take =>
    simp only [Plan.resolve, hφ.search]
    rcases Folder.search query f with ⟨e | ids, g⟩ <;> rfl
  | _ => rfl

theorem summaries (items : SummaryItems) (w : Window) (f : σ) :
    w.summaries items (φ f) = (w.summaries items f).map id φ := by
  cases w with
  | empty => rfl
  | ids set =>
    simp only [Window.summaries, hφ.fetchIds]
    rcases Folder.fetchIds set items f with ⟨e | found, g⟩ <;> rfl
  | indices range | newest range =>
    simp only [Window.summaries, hφ.fetchIndices]
    rcases Folder.fetchIndices range items f with ⟨e | found, g⟩ <;> rfl

theorem targets (w : Window) (f : σ) : w.targets (φ f) = (w.targets f).map id φ := by
  cases w with
  | ids set =>
    simp only [Window.targets, hφ.fetchIds]
    rcases Folder.fetchIds set .idOnly f with ⟨e | found, g⟩ <;> rfl
  | _ => rfl

theorem fetch (t : Target) (f : σ) : t.fetch (φ f) = (t.fetch f).map id φ := by
  cases t with
  | id id => exact hφ.ask (.messageById id) f
  | index index => exact hφ.ask (.messageByIndex index) f

theorem retrieveEach (cancelled : ρ → Bool) (ts : List Target) (f : σ) :
    retrieveEach cancelled ts (φ f) =
      (MailWindow.retrieveEach (fun f ↦ cancelled (φ f)) ts f).map id φ := by
  induction ts generalizing f with
  | nil => rfl
  | cons t ts ih =>
    simp only [MailWindow.retrieveEach, hφ.fetch]
    cases cancelled (φ f) with
    | true => rfl
    | false =>
      rcases t.fetch f with ⟨e | m?, g⟩
      · rfl
      · have hrest := ih g
        simp only [Prod.map_apply, id_eq] at hrest ⊢
        rw [hrest]
        rfl

theorem messages (cancelled : ρ → Bool) (ts : Targets) (f : σ) :
    ts.messages cancelled (φ f) = (ts.messages (fun f ↦ cancelled (φ f)) f).map id φ := by
  simp only [Targets.messages, hφ.retrieveEach]
  rcases MailWindow.retrieveEach (fun f ↦ cancelled (φ f)) ts.list f with ⟨⟨ms, _ | e⟩, g⟩ <;> rfl

theorem draw (cancelled : ρ → Bool) (n : Nat) (ts : List Target) (f : σ) :
    draw cancelled n ts (φ f) = (MailWindow.draw (fun f ↦ cancelled (φ f)) n ts f).map id φ := by
  induction ts generalizing n f with
  | nil => cases n <;> rfl
  | cons t ts ih =>
    cases n with
    | zero => rfl
    | succ n =>
      simp only [MailWindow.draw, hφ.fetch]
      cases cancelled (φ f) with
      | true => rfl
      | false =>
        rcases t.fetch f with ⟨e | _ | m, g⟩
        · rfl
        · exact ih (n + 1) g
        · have hrest := ih n g
          simp only [Prod.map_apply, id_eq] at hrest ⊢
          rw [hrest]
          rfl

theorem saveEach [Sink τ] (cancelled : ρ → τ → Bool) (path : Message → String) (ts : List Target)
    (f : σ) (s : τ) : saveEach cancelled path ts (φ f) s =
      (MailWindow.saveEach (fun f ↦ cancelled (φ f)) path ts f s).map id (Prod.map φ id) := by
  induction ts generalizing f s with
  | nil => rfl
  | cons t ts ih =>
    simp only [MailWindow.saveEach, hφ.fetch]
    cases cancelled (φ f) s with
    | true => rfl
    | false =>
      rcases t.fetch f with ⟨e | _ | m, g⟩
      · rfl
      · exact ih g s
      · simp only [Prod.map_apply, id_eq, Bool.false_eq_true, if_false]
        rcases Sink.write m (path m) s with ⟨e | _, s'⟩
        · rfl
        · have hrest := ih g s'
          simp only [Prod.map_apply, id_eq] at hrest ⊢
          rw [hrest]
          rfl

section Leases

theorem closeQuietly (f : σ) : closeQuietly (φ f) = (MailWindow.closeQuietly f).map id φ := by
  simp only [MailWindow.closeQuietly, hφ.close]
  rcases Folder.close false f with ⟨e | _, g⟩ <;> rfl

theorem acquire (access : Access) (retained : Bool) (f : σ) :
    Lease.acquire access retained (φ f) = (Lease.acquire access retained f).map id φ := by
  simp only [Lease.acquire, hφ.isOpen, hφ.select]
  cases Folder.isOpen f with
  | true => rfl
  | false => rcases Folder.select access f with ⟨e | _, g⟩ <;> rfl

theorem release (l : Lease) (pending : Bool) (f : σ) :
    l.release pending (φ f) = (l.release pending f).map id (Prod.map id φ) := by
  simp only [Lease.release, hφ.closeQuietly]
  cases l.owned with
  | false => rfl
  | true => cases pending <;> rfl

theorem abandon (l : Lease) (f : σ) : l.abandon (φ f) = (l.abandon f).map id φ := by
  simp only [Lease.abandon, hφ.isOpen, hφ.closeQuietly]
  cases l.owned && Folder.isOpen f <;> rfl

end Leases

end Folder.Hom

namespace Reader

variable {φ : σ → ρ} (hφ : Folder.Hom φ)

include hφ

theorem enter_mapFolder (r : Reader σ) :
    (r.mapFolder φ).enter = r.enter.map id (mapFolder φ) := by
  have hacquire := hφ.acquire r.config.folderAccess r.retained r.folder
  simp only [enter, mapFolder, hacquire]
  rcases Lease.acquire r.config.folderAccess r.retained r.folder with ⟨e | l, g⟩
  · rfl
  · simp only [Prod.map_apply, id_eq, hφ.count]
    rfl

theorem leave_mapFolder (r : Reader σ) (v : Visit) (returned : Nat) :
    (r.mapFolder φ).leave v returned = (r.leave v returned).mapFolder φ := by
  simp only [leave, mapFolder, hφ.release]
  rfl

theorem giveUp_mapFolder (r : Reader σ) (v : Visit) :
    (r.mapFolder φ).giveUp v = (r.giveUp v).mapFolder φ := by
  simp only [giveUp, mapFolder, hφ.abandon]
  rfl

theorem endVisit_mapFolder (r : Reader σ) (v : Visit) (e : Ending) :
    (r.mapFolder φ).endVisit v e = (r.endVisit v e).mapFolder φ := by
  cases e with
  | done returned => exact leave_mapFolder hφ r v returned
  | failed => exact giveUp_mapFolder hφ r v
  | dropped => rfl

theorem attend_mapFolder (idle : α) (refused : Error → α)
    (errand : Reader σ → Visit → (α × Ending) × σ) (errand' : Reader ρ → Visit → (α × Ending) × ρ)
    (h : ∀ r v, errand' (r.mapFolder φ) v = (errand r v).map id φ) (r : Reader σ) :
    (r.mapFolder φ).attend idle refused errand' =
      (r.attend idle refused errand).map id (mapFolder φ) := by
  rw [attend, attend, enter_mapFolder hφ]
  change (if r.spec.take.isZero = true then _ else _) = _
  cases r.spec.take.isZero with
  | true => rfl
  | false =>
    rcases r.enter with ⟨e | v, r'⟩
    · rfl
    · have hend := endVisit_mapFolder hφ { r' with folder := (errand r' v).2 } v (errand r' v).1.2
      simp only [Prod.map_apply, id_eq, h, Bool.false_eq_true, if_false]
      exact congrArg (Prod.mk (errand r' v).1.1) hend

theorem window_mapFolder (r : Reader σ) (v : Visit) :
    (r.mapFolder φ).window v = (r.window v).map id φ :=
  hφ.resolve r.config.searchCap v.plan r.folder

theorem targets_mapFolder (r : Reader σ) (v : Visit) :
    (r.mapFolder φ).targets v = (r.targets v).map id φ := by
  rw [targets, targets, window_mapFolder hφ]
  rcases r.window v with ⟨e | w, g⟩
  · rfl
  · exact hφ.targets w g

theorem fetchSummaries_mapFolder (r : Reader σ) :
    (r.mapFolder φ).fetchSummaries = r.fetchSummaries.map id (mapFolder φ) := by
  rw [fetchSummaries_eq_attend, fetchSummaries_eq_attend]
  refine attend_mapFolder hφ _ _ _ _ (fun r v ↦ ?_) r
  simp only [summarizing, window_mapFolder hφ]
  rcases r.window v with ⟨e | w, g⟩
  · rfl
  · simp only [Prod.map_apply, id_eq, hφ.summaries]
    rcases w.summaries v.spec.items g with ⟨e | found, g'⟩ <;> rfl

theorem fetchMessages_mapFolder (cancelled : ρ → Bool) (r : Reader σ) :
    (r.mapFolder φ).fetchMessages cancelled =
      (r.fetchMessages fun f ↦ cancelled (φ f)).map id (mapFolder φ) := by
  rw [fetchMessages_eq_attend, fetchMessages_eq_attend]
  refine attend_mapFolder hφ _ _ _ _ (fun r v ↦ ?_) r
  simp only [retrieving, targets_mapFolder hφ]
  rcases r.targets v with ⟨e | ts, g⟩
  · rfl
  · simp only [Prod.map_apply, id_eq, hφ.messages]
    rcases ts.messages (fun f ↦ cancelled (φ f)) g with ⟨i | ms, g'⟩ <;> rfl

theorem streamMessages_mapFolder (cancelled : ρ → Bool) (n : Nat) (r : Reader σ) :
    (r.mapFolder φ).streamMessages cancelled n =
      (r.streamMessages (fun f ↦ cancelled (φ f)) n).map id (mapFolder φ) := by
  cases n with
  | zero => rfl
  | succ n =>
    rw [streamMessages_eq_attend, streamMessages_eq_attend]
    refine attend_mapFolder hφ _ _ _ _ (fun r v ↦ ?_) r
    simp only [streaming, targets_mapFolder hφ]
    rcases r.targets v with ⟨e | ts, g⟩
    · rfl
    · simp only [Prod.map_apply, id_eq, hφ.draw]
      rfl

theorem saveWindow_mapFolder [Sink τ] (dir : String) (cancelled : ρ → τ → Bool) (s : τ)
    (r : Reader σ) : (r.mapFolder φ).saveWindow dir cancelled s =
      (r.saveWindow dir (fun f ↦ cancelled (φ f)) s).map id (Prod.map (mapFolder φ) id) := by
  rw [saveWindow_eq_attend, saveWindow_eq_attend]
  have herrand (r : Reader σ) (v : Visit) : (r.mapFolder φ).saving v dir cancelled s =
      (r.saving v dir (fun f ↦ cancelled (φ f)) s).map id φ := by
    have hpath : (r.mapFolder φ).savePath dir = r.savePath dir := rfl
    simp only [saving, targets_mapFolder hφ, hpath]
    rcases r.targets v with ⟨e | ts, g⟩
    · rfl
    · simp only [Prod.map_apply, id_eq, hφ.saveEach]
      rcases saveEach (fun f ↦ cancelled (φ f)) (r.savePath dir) ts.ascending g s with
        ⟨⟨paths, _ | e | e⟩, g', s'⟩ <;> rfl
  have hattend := attend_mapFolder hφ (.ok [], s) (fun e ↦ (.error (.ofError e), s))
    (saving · · dir (fun f ↦ cancelled (φ f)) s) (saving · · dir cancelled s) herrand r
  simp only [hattend]
  rfl

theorem saveAll_mapFolder [Sink τ] (dir : String) (create : Bool) (cancelled : ρ → τ → Bool) (s : τ)
    (r : Reader σ) : (r.mapFolder φ).saveAll dir create cancelled s =
      (r.saveAll dir create (fun f ↦ cancelled (φ f)) s).map id (Prod.map (mapFolder φ) id) := by
  simp only [saveAll_eq_prepare, saveWindow_mapFolder hφ]
  rcases Sink.prepare dir create s with ⟨e | _, s'⟩ <;> rfl

theorem fetchMessage_mapFolder (i : MessageId) (r : Reader σ) :
    (r.mapFolder φ).fetchMessage i = (r.fetchMessage i).map id (mapFolder φ) := by
  have hacquire := hφ.acquire r.config.folderAccess r.retained r.folder
  simp only [fetchMessage, mapFolder, hacquire]
  rcases Lease.acquire r.config.folderAccess r.retained r.folder with ⟨e | l, g⟩
  · rfl
  · simp only [Prod.map_apply, id_eq, hφ.fetch]
    rcases Target.fetch g (.id i) with ⟨e | m?, g'⟩
    · simp only [Prod.map_apply, id_eq, hφ.abandon]
      rfl
    · simp only [Prod.map_apply, id_eq, hφ.release]
      rfl

theorem closeRetained_mapFolder (r : Reader σ) :
    (r.mapFolder φ).closeRetained = r.closeRetained.mapFolder φ := by
  simp only [closeRetained, mapFolder, hφ.isOpen, hφ.closeQuietly]
  cases r.retained && Folder.isOpen r.folder <;> rfl

theorem processRounds_mapFolder {η : Type} (handler : Summary → η → Except Error Unit × η)
    (cancelled : ρ → η → Bool) (rounds processed : Nat) (r : Reader σ) (x : η) :
    (r.mapFolder φ).processRounds handler cancelled rounds processed x =
      (r.processRounds handler (fun f ↦ cancelled (φ f)) rounds processed x).map id
        (Prod.map (mapFolder φ) id) := by
  induction rounds generalizing processed r x with
  | zero => rfl
  | succ rounds ih =>
    simp only [processRounds, fetchSummaries_mapFolder hφ, closeRetained_mapFolder hφ]
    change (if cancelled (φ r.folder) x = true then _ else _) = _
    cases cancelled (φ r.folder) x with
    | true => rfl
    | false =>
      rcases r.fetchSummaries with ⟨e | _ | ⟨s, ss⟩, r'⟩
      · rfl
      · rfl
      · simp only [Prod.map_apply, id_eq, closeRetained_mapFolder hφ]
        rcases handleEach handler (s :: ss) x with ⟨e | _, x'⟩
        · rfl
        · change (if r'.spec.continuous = true then _ else _) = _
          cases r'.spec.continuous with
          | true => exact ih _ r' x'
          | false => rfl

end Reader

end Alike

/-- A folder, and what it was asked so far. -/
structure Watched (σ : Type) where
  inner : σ
  heard : List Exchange := []

namespace Watched

def tried (f : Watched σ) : List Target := f.heard.filterMap Exchange.target?

/-- On the way from one state to the other these messages are read, and nothing else is asked. -/
def Reads (f g : Watched σ) (ts : List Target) : Prop :=
  ∃ es, g.heard = f.heard ++ es ∧ es.map Exchange.target? = ts.map some

theorem Reads.nil (f : Watched σ) : f.Reads f [] := ⟨[], (List.append_nil _).symm, rfl⟩

theorem Reads.tried_eq {f g : Watched σ} {ts : List Target} (h : f.Reads g ts) :
    g.tried = f.tried ++ ts := by
  obtain ⟨es, hes, hts⟩ := h
  have hread : es.filterMap Exchange.target? = ts := by
    have hid := congrArg (List.filterMap id) hts
    simpa only [List.filterMap_map, Function.id_comp, Function.comp_def, id_eq,
      List.filterMap_some] using hid
  rw [tried, hes, List.filterMap_append, hread]
  rfl

/-- On the way from one state to the other some of these messages are read, from the first on, and
nothing else is asked. -/
def ReadsFirst (f g : Watched σ) (ts : List Target) : Prop := ∃ ts', ts' <+: ts ∧ f.Reads g ts'

variable [Folder σ]

def pass {β : Type} (f : Watched σ) (x : Answer σ β) : Answer (Watched σ) β :=
  (x.1, { f with inner := x.2 })

def note (f : Watched σ) (q : Question) : Answer (Watched σ) q.Reply :=
  ((Folder.ask f.inner q).1, ⟨(Folder.ask f.inner q).2, f.heard ++ [⟨q, (Folder.ask f.inner q).1⟩]⟩)

instance : Folder (Watched σ) where
  name f := Folder.name f.inner
  isOpen f := Folder.isOpen f.inner
  count f := Folder.count f.inner
  select access f := f.pass (Folder.select access f.inner)
  close expunge f := f.pass (Folder.close expunge f.inner)
  fetchIndices range items f := f.note (.fetchIndices range items)
  fetchIds set items f := f.note (.fetchIds set items)
  search query f := f.note (.search query)
  messageById id f := f.note (.messageById id)
  messageByIndex index f := f.note (.messageByIndex index)

theorem hom_inner : Folder.Hom (inner : Watched σ → σ) where
  isOpen _ := rfl
  count _ := rfl
  select _ _ := rfl
  close _ _ := rfl
  ask q _ := by cases q <;> rfl

theorem heard_search {query : Query} {f g : Watched σ}
    {answer : Except SessionError (List MessageId)} (h : Folder.search query f = (answer, g)) :
    g.heard = f.heard ++ [⟨.search query, answer⟩] := by
  obtain ⟨rfl, rfl⟩ := Prod.mk.inj h
  rfl

theorem heard_fetchIds {set : IdSet} {items : SummaryItems} {f g : Watched σ}
    {answer : Except SessionError (List Summary)}
    (h : Folder.fetchIds set items f = (answer, g)) :
    g.heard = f.heard ++ [⟨.fetchIds set items, answer⟩] := by
  obtain ⟨rfl, rfl⟩ := Prod.mk.inj h
  rfl

section Reading

theorem Reads.cons {f g : Watched σ} {t : Target} {ts : List Target}
    (h : (t.fetch f).2.Reads g ts) : f.Reads g (t :: ts) := by
  have hfetch : ∃ e : Exchange, (t.fetch f).2.heard = f.heard ++ [e] ∧ e.target? = some t := by
    cases t with
    | id id => exact ⟨_, rfl, rfl⟩
    | index index => exact ⟨_, rfl, rfl⟩
  obtain ⟨e, he, ht⟩ := hfetch
  obtain ⟨es, hes, hts⟩ := h
  refine ⟨e :: es, ?_, ?_⟩
  · rw [hes, he, List.append_assoc, List.singleton_append]
  · rw [List.map_cons, List.map_cons, ht, hts]

theorem reads_fetchEach (ts : List Target) (f : Watched σ) :
    f.Reads (Target.fetchEach ts f) ts := by
  induction ts generalizing f with
  | nil => exact .nil f
  | cons t ts ih => exact .cons (ih _)

theorem readsFirst_of_fetchesFirst {f g : Watched σ} {ts : List Target} (h : FetchesFirst ts f g) :
    f.ReadsFirst g ts := by
  obtain ⟨ts', hprefix, rfl⟩ := h
  exact ⟨ts', hprefix, reads_fetchEach ts' f⟩

end Reading

end Watched

namespace Reader

section Watching

variable [Folder σ]

theorem enter_ok {r r' : Reader σ} {v : Visit} (h : r.enter = (.ok v, r')) :
    (∃ count, v.plan = (r.spec.plan count r.config.searchCap).plan) ∧ r'.config = r.config := by
  rw [enter] at h
  rcases hacquire : Lease.acquire r.config.folderAccess r.retained r.folder with ⟨e | l, g⟩
  · rw [hacquire] at h
    cases h
  · rw [hacquire] at h
    cases h
    exact ⟨⟨Folder.count g, rfl⟩, rfl⟩

def watched (r : Reader σ) : Reader (Watched σ) := r.mapFolder fun f ↦ { inner := f }

theorem heard_closeQuietly (f : Watched σ) : (closeQuietly f).2.heard = f.heard := by
  rw [closeQuietly]
  rcases h : Folder.close false f with ⟨e | _, g⟩
  · exact congrArg (·.2.heard) h.symm
  · exact congrArg (·.2.heard) h.symm

theorem heard_enter (r : Reader (Watched σ)) : r.enter.2.folder.heard = r.folder.heard := by
  have hacquire : (Lease.acquire r.config.folderAccess r.retained r.folder).2.heard =
      r.folder.heard := by
    rw [Lease.acquire]
    split
    · rfl
    · rcases h : Folder.select r.config.folderAccess r.folder with ⟨e | _, g⟩
      · exact congrArg (·.2.heard) h.symm
      · exact congrArg (·.2.heard) h.symm
  rw [enter]
  rcases h : Lease.acquire r.config.folderAccess r.retained r.folder with ⟨e | l, g⟩
  · rw [h] at hacquire
    exact hacquire
  · rw [h] at hacquire
    exact hacquire

theorem heard_endVisit (r : Reader (Watched σ)) (v : Visit) (e : Ending) :
    (r.endVisit v e).folder.heard = r.folder.heard := by
  cases e with
  | done returned =>
    simp only [endVisit, leave, Lease.release, warn]
    split
    · rfl
    · split
      · rfl
      · exact heard_closeQuietly r.folder
  | failed =>
    simp only [endVisit, giveUp, Lease.abandon, warn]
    split
    · exact heard_closeQuietly r.folder
    · rfl
  | dropped => rfl

theorem attend_watched {idle : α} {refused : Error → α}
    {errand : Reader (Watched σ) → Visit → (α × Ending) × Watched σ} (r : Reader (Watched σ))
    (P : α → List Exchange → Prop) (hidle : r.spec.take.isZero = true → P idle r.folder.heard)
    (hrefused : ∀ e r', r.spec.take.isZero = false → r.enter = (.error e, r') →
      P (refused e) r.folder.heard)
    (herrand : ∀ v r', r.spec.take.isZero = false → r.enter = (.ok v, r') →
      r'.folder.heard = r.folder.heard → P (errand r' v).1.1 (errand r' v).2.heard) :
    P (r.attend idle refused errand).1 (r.attend idle refused errand).2.folder.heard := by
  have henter := heard_enter r
  rw [attend]
  cases ht : r.spec.take.isZero with
  | true => exact hidle ht
  | false =>
    rcases he : r.enter with ⟨e | v, r'⟩
    · rw [he] at henter
      have hsame : r'.folder.heard = r.folder.heard := henter
      simp only [Bool.false_eq_true, if_false, hsame]
      exact hrefused e r' ht he
    · rw [he] at henter
      simp only [Bool.false_eq_true, if_false, heard_endVisit]
      exact herrand v r' ht he henter

end Watching

end Reader

end MailWindow
