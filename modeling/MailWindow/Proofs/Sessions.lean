import MailWindow.Proofs.Ownership
import MailWindow.Proofs.Watching

namespace MailWindow

universe u

variable {σ ρ τ : Type} {α : Type u}

namespace Folder

/-- The way from one state of a folder to another, with what is asked on it. A folder is opened only
while it is closed; it is closed, and anything is asked of it, only while it is open. -/
inductive Session [Folder σ] : σ → List Exchange → σ → Prop
  | idle (f : σ) : Session f [] f
  | select {f g : σ} {es : List Exchange} (access : Access) (closed : Folder.isOpen f = false)
      (rest : Session (Folder.select access f).2 es g) : Session f es g
  | close {f g : σ} {es : List Exchange} (opened : Folder.isOpen f = true)
      (rest : Session (Folder.close false f).2 es g) : Session f es g
  | ask {f g : σ} {es : List Exchange} (q : Question) (opened : Folder.isOpen f = true)
      (rest : Session (Folder.ask f q).2 es g) : Session f (⟨q, (Folder.ask f q).1⟩ :: es) g

/-- A folder that is open once it has been opened, and stays so whatever it is asked. -/
structure Steady (σ : Type) [Folder σ] : Prop where
  select : ∀ access (f : σ), (Folder.select access f).1 = .ok () →
    Folder.isOpen (Folder.select access f).2 = true
  ask : ∀ q (f : σ), Folder.isOpen (Folder.ask f q).2 = Folder.isOpen f

variable [Folder σ] [Folder ρ] {f g g' : σ}

theorem Session.trans {es es' : List Exchange} (h : Session f es g) (h' : Session g es' g') :
    Session f (es ++ es') g' := by
  induction h with
  | idle => exact h'
  | select access closed _ ih => exact .select access closed (ih h')
  | close opened _ ih => exact .close opened (ih h')
  | ask q opened _ ih => exact .ask q opened (ih h')

section Homs

variable {φ : σ → ρ} (hφ : Hom φ)

include hφ

theorem Hom.select_snd (access : Access) (f : σ) :
    (Folder.select access (φ f)).2 = φ (Folder.select access f).2 :=
  congrArg Prod.snd (hφ.select access f)

theorem Hom.ask_snd (q : Question) (f : σ) : (Folder.ask (φ f) q).2 = φ (Folder.ask f q).2 :=
  congrArg Prod.snd (hφ.ask q f)

theorem Session.map {es : List Exchange} (h : Session f es g) : Session (φ f) es (φ g) := by
  induction h with
  | idle f => exact .idle (φ f)
  | @select f g es access closed _ ih =>
    rw [← hφ.select_snd] at ih
    exact .select access ((hφ.isOpen f).trans closed) ih
  | @close f g es opened _ ih =>
    have hclose : (Folder.close false (φ f)).2 = φ (Folder.close false f).2 :=
      congrArg Prod.snd (hφ.close false f)
    rw [← hclose] at ih
    exact .close ((hφ.isOpen f).trans opened) ih
  | @ask f g es q opened _ ih =>
    have hanswer : (Folder.ask (φ f) q).1 = (Folder.ask f q).1 := congrArg Prod.fst (hφ.ask q f)
    rw [← hφ.ask_snd] at ih
    rw [← hanswer]
    exact .ask q ((hφ.isOpen f).trans opened) ih

theorem Hom.steady (h : Steady ρ) : Steady σ where
  select access f hok := by
    rw [← hφ.isOpen, ← hφ.select_snd]
    exact h.select access (φ f) ((congrArg Prod.fst (hφ.select access f)).trans hok)
  ask q f := by
    rw [← hφ.isOpen, ← hφ.isOpen, ← hφ.ask_snd]
    exact h.ask q (φ f)

end Homs

def Leads (f g : σ) : Prop := ∃ es, Session f es g

def LeadsOpen (f g : σ) : Prop := Folder.isOpen g = true ∧ Leads f g

theorem Leads.refl (f : σ) : Leads f f := ⟨[], .idle f⟩

theorem Leads.trans (h : Leads f g) (h' : Leads g g') : Leads f g' := by
  obtain ⟨es, h⟩ := h
  obtain ⟨es', h'⟩ := h'
  exact ⟨es ++ es', h.trans h'⟩

theorem LeadsOpen.refl (hf : Folder.isOpen f = true) : LeadsOpen f f := ⟨hf, .refl f⟩

theorem LeadsOpen.trans (h : LeadsOpen f g) (h' : LeadsOpen g g') : LeadsOpen f g' :=
  ⟨h'.1, h.2.trans h'.2⟩

theorem leads_closeQuietly (hf : Folder.isOpen f = true) : Leads f (closeQuietly f).2 := by
  have hclose : (closeQuietly f).2 = (Folder.close false f).2 := by
    rw [closeQuietly]
    rcases Folder.close false f with ⟨e | _, g⟩ <;> rfl
  rw [hclose]
  exact ⟨[], .close hf (.idle _)⟩

theorem leads_release (hf : Folder.isOpen f = true) (l : Lease) (pending : Bool) :
    Leads f (l.release pending f).2.2 := by
  rw [Lease.release]
  split
  · exact .refl f
  · split
    · exact .refl f
    · exact leads_closeQuietly hf

theorem leads_abandon (l : Lease) (f : σ) : Leads f (l.abandon f).2 := by
  rw [Lease.abandon]
  split
  · next hopen => exact leads_closeQuietly (Bool.and_eq_true_iff.mp hopen).2
  · exact .refl f

namespace Steady

variable (hσ : Steady σ)

include hσ

theorem leads_acquire (access : Access) (retained : Bool) (f : σ) :
    Leads f (Lease.acquire access retained f).2 ∧
      ∀ l g, Lease.acquire access retained f = (.ok l, g) → Folder.isOpen g = true := by
  rw [Lease.acquire]
  cases ho : Folder.isOpen f with
  | true =>
    refine ⟨.refl f, fun l g hg ↦ ?_⟩
    cases hg
    exact ho
  | false =>
    have hleads : Leads f (Folder.select access f).2 := ⟨[], .select access ho (.idle _)⟩
    have hopen := hσ.select access f
    rcases hselect : Folder.select access f with ⟨e | _, g⟩ <;> rw [hselect] at hleads hopen
    all_goals
      refine ⟨hleads, fun l g' hg ↦ ?_⟩
      cases hg
    exact hopen rfl

variable (hf : Folder.isOpen f = true)

include hf

theorem leadsOpen_ask (q : Question) : LeadsOpen f (Folder.ask f q).2 :=
  ⟨(hσ.ask q f).trans hf, [_], .ask q hf (.idle _)⟩

theorem leadsOpen_of_ask (q : Question) {answer : Except SessionError q.Reply}
    (h : Folder.ask f q = (answer, g)) : LeadsOpen f g := by
  have hask := hσ.leadsOpen_ask hf q
  rwa [h] at hask

theorem leadsOpen_resolve (cap : UInt32) (p : Plan) : LeadsOpen f (p.resolve cap f).2 := by
  cases p with
  | search query skip take =>
    rw [Plan.resolve]
    rcases hsearch : Folder.search query f with ⟨e | ids, g⟩
    all_goals exact hσ.leadsOpen_of_ask hf (.search query) hsearch
  | _ => exact .refl hf

theorem leadsOpen_summaries (items : SummaryItems) (w : Window) :
    LeadsOpen f (w.summaries items f).2 := by
  cases w with
  | empty => exact .refl hf
  | ids set =>
    rw [Window.summaries]
    rcases hfetch : Folder.fetchIds set items f with ⟨e | found, g⟩
    all_goals exact hσ.leadsOpen_of_ask hf (.fetchIds set items) hfetch
  | indices range | newest range =>
    rw [Window.summaries]
    rcases hfetch : Folder.fetchIndices range items f with ⟨e | found, g⟩
    all_goals exact hσ.leadsOpen_of_ask hf (.fetchIndices range items) hfetch

theorem leadsOpen_targets (w : Window) : LeadsOpen f (w.targets f).2 := by
  cases w with
  | ids set =>
    rw [Window.targets]
    rcases hfetch : Folder.fetchIds set .idOnly f with ⟨e | found, g⟩
    all_goals exact hσ.leadsOpen_of_ask hf (.fetchIds set .idOnly) hfetch
  | _ => exact .refl hf

theorem leadsOpen_fetch (t : Target) : LeadsOpen f (t.fetch f).2 := by
  cases t with
  | id id => exact hσ.leadsOpen_ask hf (.messageById id)
  | index index => exact hσ.leadsOpen_ask hf (.messageByIndex index)

theorem leadsOpen_fetchEach (ts : List Target) : LeadsOpen f (Target.fetchEach ts f) := by
  induction ts generalizing f with
  | nil => exact .refl hf
  | cons t ts ih =>
    have hfetch := hσ.leadsOpen_fetch hf t
    exact hfetch.trans (ih hfetch.1)

theorem leadsOpen_fetchesFirst {ts : List Target} (h : FetchesFirst ts f g) : LeadsOpen f g := by
  obtain ⟨ts', -, rfl⟩ := h
  exact hσ.leadsOpen_fetchEach hf ts'

end Steady

end Folder

namespace Reader

open Folder

variable [Folder σ]

theorem leads_endVisit {r : Reader σ} (hf : Folder.isOpen r.folder = true) (v : Visit)
    (e : Ending) : Leads r.folder (r.endVisit v e).folder := by
  cases e with
  | done returned => exact leads_release hf _ _
  | failed => exact leads_abandon _ _
  | dropped => exact .refl _

theorem leads_closeRetained (r : Reader σ) : Leads r.folder r.closeRetained.folder := by
  rw [closeRetained]
  split
  · next hopen => exact leads_closeQuietly (Bool.and_eq_true_iff.mp hopen).2
  · exact .refl _

section Calls

variable (hσ : Steady σ)

include hσ

theorem leads_enter (r : Reader σ) : Leads r.folder r.enter.2.folder ∧
    ∀ v r', r.enter = (.ok v, r') → Folder.isOpen r'.folder = true := by
  have hacquire := hσ.leads_acquire r.config.folderAccess r.retained r.folder
  rw [enter]
  rcases hl : Lease.acquire r.config.folderAccess r.retained r.folder with ⟨e | l, g⟩
  all_goals
    rw [hl] at hacquire
    obtain ⟨hleads, hopen⟩ := hacquire
    refine ⟨hleads, fun v r' hr ↦ ?_⟩
    cases hr
  exact hopen l g rfl

theorem leads_attend {idle : α} {refused : Error → α}
    {errand : Reader σ → Visit → (α × Ending) × σ}
    (herrand : ∀ r v, Folder.isOpen r.folder = true → LeadsOpen r.folder (errand r v).2)
    (r : Reader σ) : Leads r.folder (r.attend idle refused errand).2.folder := by
  obtain ⟨henter, hopen⟩ := leads_enter hσ r
  rw [attend]
  cases r.spec.take.isZero with
  | true => exact .refl _
  | false =>
    rcases he : r.enter with ⟨e | v, r'⟩ <;> rw [he] at henter
    · exact henter
    · have hwork := herrand r' v (hopen v r' he)
      have hend := leads_endVisit (r := { r' with folder := (errand r' v).2 }) hwork.1 v
        (errand r' v).1.2
      exact henter.trans (hwork.2.trans hend)

theorem leadsOpen_window {r : Reader σ} (hf : Folder.isOpen r.folder = true) (v : Visit) :
    LeadsOpen r.folder (r.window v).2 := hσ.leadsOpen_resolve hf r.config.searchCap v.plan

theorem leadsOpen_targets {r : Reader σ} (hf : Folder.isOpen r.folder = true) (v : Visit) :
    LeadsOpen r.folder (r.targets v).2 := by
  have hwindow := leadsOpen_window hσ hf v
  rw [targets]
  rcases hw : r.window v with ⟨e | w, g⟩ <;> rw [hw] at hwindow
  · exact hwindow
  · exact hwindow.trans (hσ.leadsOpen_targets hwindow.1 w)

theorem leads_attend_of_onlyFetches {idle : α} {refused : Error → α}
    {errand : Reader σ → Visit → (α × Ending) × σ} (h : OnlyFetches errand) (r : Reader σ) :
    Leads r.folder (r.attend idle refused errand).2.folder := by
  refine leads_attend hσ (fun r v hf ↦ ?_) r
  obtain ⟨herror, hok⟩ := h r v
  have htargets := leadsOpen_targets hσ hf v
  rcases hts : r.targets v with ⟨e | ts, g⟩ <;> rw [hts] at htargets
  · rw [herror e g hts]
    exact htargets
  · have hfetch : LeadsOpen g (errand r v).2 := (hok ts g hts).elim
      (hσ.leadsOpen_fetchesFirst htargets.1) (hσ.leadsOpen_fetchesFirst htargets.1)
    exact htargets.trans hfetch

theorem leads_fetchSummaries (r : Reader σ) : Leads r.folder r.fetchSummaries.2.folder := by
  rw [fetchSummaries_eq_attend]
  refine leads_attend hσ (fun r v hf ↦ ?_) r
  have hwindow := leadsOpen_window hσ hf v
  rw [summarizing]
  rcases hw : r.window v with ⟨e | w, g⟩ <;> rw [hw] at hwindow
  · exact hwindow
  · have hsummaries := hσ.leadsOpen_summaries hwindow.1 v.spec.items w
    dsimp only
    rcases hs : w.summaries v.spec.items g with ⟨e | found, g'⟩
    all_goals
      rw [hs] at hsummaries
      exact hwindow.trans hsummaries

theorem leads_fetchMessages (cancelled : σ → Bool) (r : Reader σ) :
    Leads r.folder (r.fetchMessages cancelled).2.folder := by
  rw [fetchMessages_eq_attend]
  exact leads_attend_of_onlyFetches hσ (onlyFetches_retrieving cancelled) r

theorem leads_streamMessages (cancelled : σ → Bool) (n : Nat) (r : Reader σ) :
    Leads r.folder (r.streamMessages cancelled n).2.folder := by
  cases n with
  | zero => exact .refl _
  | succ n =>
    rw [streamMessages_eq_attend]
    exact leads_attend_of_onlyFetches hσ (onlyFetches_streaming cancelled (n + 1)) r

theorem leads_saveAll [Sink τ] (dir : String) (create : Bool) (cancelled : σ → τ → Bool) (s : τ)
    (r : Reader σ) : Leads r.folder (r.saveAll dir create cancelled s).2.1.folder := by
  rw [saveAll_eq_prepare]
  rcases Sink.prepare dir create s with ⟨e | _, s'⟩
  · exact .refl _
  · simp only [saveWindow_eq_attend]
    exact leads_attend_of_onlyFetches hσ (onlyFetches_saving dir cancelled s') r

theorem leads_fetchMessage (i : MessageId) (r : Reader σ) :
    Leads r.folder (r.fetchMessage i).2.folder := by
  obtain ⟨henter, hopen⟩ := hσ.leads_acquire r.config.folderAccess r.retained r.folder
  rw [fetchMessage]
  rcases hl : Lease.acquire r.config.folderAccess r.retained r.folder with ⟨e | l, g⟩
  all_goals rw [hl] at henter
  · exact henter
  · have hfetch := hσ.leadsOpen_fetch (hopen l g hl) (.id i)
    dsimp only
    rcases hm : Target.fetch g (.id i) with ⟨e | m?, g'⟩ <;> rw [hm] at hfetch
    · exact henter.trans (hfetch.2.trans (leads_abandon l g'))
    · exact henter.trans (hfetch.2.trans (leads_release hfetch.1 l r.retained))

theorem leads_processRounds {η : Type} (handler : Summary → η → Except Error Unit × η)
    (cancelled : σ → η → Bool) (rounds processed : Nat) (x : η) (r : Reader σ) :
    Leads r.folder (r.processRounds handler cancelled rounds processed x).2.1.folder :=
  processRounds_induction (P := fun r r' ↦ Leads r.folder r'.folder) (fun _ ↦ .refl _)
    (fun _ _ _ ↦ .trans) (leads_fetchSummaries hσ) leads_closeRetained handler cancelled rounds
    processed r x

end Calls

end Reader

namespace Watched

variable [Folder σ]

theorem heard_session {f g : Watched σ} {es : List Exchange} (h : Folder.Session f es g) :
    g.heard = f.heard ++ es := by
  induction h with
  | idle f => exact (List.append_nil _).symm
  | select access _ _ ih => exact ih
  | close _ _ ih => exact ih
  | @ask f g es q _ _ ih =>
    have hheard : (Folder.ask f q).2.heard = f.heard ++ [⟨q, (Folder.ask f q).1⟩] := by
      cases q <;> rfl
    rw [ih, hheard, List.append_assoc, List.singleton_append]

end Watched

namespace MemoryFolder

theorem steady : Folder.Steady MemoryFolder where
  select access f hok := by
    by_cases hf : Fault.select ∈ f.faults
    · obtain ⟨e, he⟩ := select_of_denied hf access
      rw [he] at hok
      cases hok
    · rw [select_of_granted hf]
      rfl
  ask q f := by cases q <;> rfl

variable {β : Type} {f : MemoryFolder}

theorem read_folderNotOpen_iff (call : Call) {result : MemoryFolder → Except SessionError β}
    (hr : ∀ g name, result g ≠ .error (.folderNotOpen name)) (name : String) :
    (f.read call result).1 = .error (.folderNotOpen name) ↔ f.isOpen = false ∧ name = f.name := by
  cases ho : f.isOpen with
  | true =>
    rw [read_of_open ho]
    exact iff_of_false (hr _ _) fun h ↦ nomatch h.1
  | false =>
    have hclosed : (f.log call).checkOpen = .error (.folderNotOpen f.name) :=
      if_neg (ho ▸ Bool.false_ne_true)
    have hread : (f.read call result).1 = .error (.folderNotOpen f.name) := by
      simp only [read, hclosed]
      rfl
    rw [hread]
    simp [eq_comm]

theorem check_ne_folderNotOpen (f : MemoryFolder) (fault : Fault) (φ : Unit → β) (name : String) :
    (f.check fault).map φ ≠ .error (.folderNotOpen name) := by
  rw [check]
  split <;> simp [Except.map]

theorem deliver_ne_folderNotOpen (f : MemoryFolder) (found : Option (Stored × UInt32))
    (name : String) : f.deliver found ≠ .error (.folderNotOpen name) := by
  cases found with
  | none => simp [deliver]
  | some x => exact f.check_ne_folderNotOpen _ _ name

theorem ask_folderNotOpen_iff (f : MemoryFolder) (q : Question) (name : String) :
    (Folder.ask f q).1 = .error (.folderNotOpen name) ↔ f.isOpen = false ∧ name = f.name := by
  cases q with
  | search query => exact read_folderNotOpen_iff _ (fun g ↦ g.check_ne_folderNotOpen _ _) name
  | fetchIds set items => exact read_folderNotOpen_iff _ (fun g ↦ g.check_ne_folderNotOpen _ _) name
  | fetchIndices range items =>
    exact read_folderNotOpen_iff _ (fun g ↦ g.check_ne_folderNotOpen _ _) name
  | messageById id => exact read_folderNotOpen_iff _ (fun g ↦ g.deliver_ne_folderNotOpen _) name
  | messageByIndex i => exact read_folderNotOpen_iff _ (fun g ↦ g.deliver_ne_folderNotOpen _) name

theorem session_answers {g : MemoryFolder} {es : List Exchange} (h : Folder.Session f es g) :
    ∀ e ∈ es, ∀ name, e.answer ≠ .error (.folderNotOpen name) := by
  induction h with
  | idle f => exact fun e he ↦ nomatch he
  | select _ _ _ ih => exact ih
  | close _ _ ih => exact ih
  | @ask f g es q opened _ ih =>
    refine List.forall_mem_cons.mpr ⟨fun name hname ↦ ?_, ih⟩
    have hclosed := ((f.ask_folderNotOpen_iff q name).mp hname).1
    exact Bool.eq_false_iff.mp hclosed opened

end MemoryFolder

namespace Reader

open Folder

/-- A call finds the folder open whenever it asks for anything. What it asks is what the same folder
hears when it is watched, and the answer is never that the folder is not open. -/
structure FindsOpen (r r' : Reader MemoryFolder) (w : Reader (Watched MemoryFolder)) : Prop where
  watched : r' = w.mapFolder (·.inner)
  session : Session r.folder w.folder.heard r'.folder
  answered : ∀ e ∈ w.folder.heard, ∀ name, e.answer ≠ .error (.folderNotOpen name)

variable {r r' : Reader MemoryFolder}

theorem findsOpen_of_leads {w : Reader (Watched MemoryFolder)} (hw : r' = w.mapFolder (·.inner))
    (h : Leads r.watched.folder w.folder) : r.FindsOpen r' w := by
  obtain ⟨es, hs⟩ := h
  obtain rfl : w.folder.heard = es := Watched.heard_session hs
  have hsession : Session r.folder w.folder.heard w.folder.inner := hs.map Watched.hom_inner
  rw [hw]
  exact ⟨rfl, hsession, MemoryFolder.session_answers hsession⟩

/-- Whatever a reader is to retrieve, whatever it believes to have kept open, whether the folder is
open or not and whichever of its operations fail: all that a call asks of the folder is asked while
the folder is open. -/
theorem calls_find_folder_open (r : Reader MemoryFolder) :
    r.FindsOpen r.fetchSummaries.2 r.watched.fetchSummaries.2 ∧
    (∀ cancelled : MemoryFolder → Bool,
      r.FindsOpen (r.fetchMessages cancelled).2
        (r.watched.fetchMessages fun f ↦ cancelled f.inner).2) ∧
    (∀ (cancelled : MemoryFolder → Bool) n,
      r.FindsOpen (r.streamMessages cancelled n).2
        (r.watched.streamMessages (fun f ↦ cancelled f.inner) n).2) ∧
    (∀ (τ : Type) [Sink τ] dir create (cancelled : MemoryFolder → τ → Bool) s,
      r.FindsOpen (r.saveAll dir create cancelled s).2.1
        (r.watched.saveAll dir create (fun f ↦ cancelled f.inner) s).2.1) ∧
    (∀ id, r.FindsOpen (r.fetchMessage id).2 (r.watched.fetchMessage id).2) ∧
    ∀ (η : Type) handler (cancelled : MemoryFolder → η → Bool) x,
      r.FindsOpen (r.processSummaries handler cancelled x).2.1
        (r.watched.processSummaries handler (fun f ↦ cancelled f.inner) x).2.1 := by
  have hom : Hom (Watched.inner : Watched MemoryFolder → MemoryFolder) := Watched.hom_inner
  have hsteady : Steady (Watched MemoryFolder) := hom.steady MemoryFolder.steady
  refine ⟨findsOpen_of_leads ?_ (leads_fetchSummaries hsteady _),
    fun cancelled ↦ findsOpen_of_leads ?_ (leads_fetchMessages hsteady _ _),
    fun cancelled n ↦ findsOpen_of_leads ?_ (leads_streamMessages hsteady _ n _),
    fun τ _ dir create cancelled s ↦ findsOpen_of_leads ?_ (leads_saveAll hsteady dir create _ s _),
    fun id ↦ findsOpen_of_leads ?_ (leads_fetchMessage hsteady id _),
    fun η handler cancelled x ↦
      findsOpen_of_leads ?_ (leads_processRounds hsteady handler _ _ _ x _)⟩
  · exact congrArg Prod.snd (fetchSummaries_mapFolder hom r.watched)
  · exact congrArg Prod.snd (fetchMessages_mapFolder hom cancelled r.watched)
  · exact congrArg Prod.snd (streamMessages_mapFolder hom cancelled n r.watched)
  · exact congrArg (·.2.1) (saveAll_mapFolder hom dir create cancelled s r.watched)
  · exact congrArg Prod.snd (fetchMessage_mapFolder hom id r.watched)
  · exact congrArg (·.2.1) (processRounds_mapFolder hom handler cancelled _ 0 r.watched x)

/-- A folder closed behind the back of a reader that has kept it open is opened again. -/
example :
    let r : Reader MemoryFolder := { folder := .gapped, retained := true }
    r.folder.isOpen = false ∧
      (r.fetchMessage ⟨5⟩).2.folder.calls = [.select .readWrite, .messageById ⟨5⟩] := by
  decide +kernel

end Reader

end MailWindow
