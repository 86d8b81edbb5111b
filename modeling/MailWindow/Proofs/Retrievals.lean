import Mathlib.Data.Fintype.Card
import MailWindow.Proofs.Attendance
import MailWindow.Proofs.Calls
import MailWindow.Proofs.Requests

namespace MailWindow

variable {α β : Type}

theorem filterMap_range_getElem? (l : List α) (φ : α × Nat → β) (a n : Nat) :
    (List.range n).filterMap (fun i ↦ (l[a + i]?).map fun x ↦ φ (x, a + i)) =
      ((l.zipIdx.drop a).take n).map φ := by
  induction n with
  | zero => rfl
  | succ n ih =>
    rw [List.range_succ, List.filterMap_append, ih, List.take_add_one, List.map_append]
    congr 1
    rw [List.getElem?_drop, List.getElem?_zipIdx]
    cases h : l[a + n]? <;> simp [h]

namespace MemoryFolder

variable {f : MemoryFolder}

/-- Identifiers are words, so there are no more messages than words. -/
theorem length_le_size (h : f.ids.Pairwise (· < ·)) : f.messages.length ≤ UInt32.size := by
  have hnodup : (f.ids.map (·.val.toFin)).Nodup := by
    refine List.pairwise_map.mpr (h.imp fun {a b} hab heq ↦ ?_)
    exact MessageId.ne_of_lt hab (MessageId.eq_iff_toNat.mpr (congrArg Fin.val heq))
  have hle := hnodup.length_le_card
  rwa [Fintype.card_fin, List.length_map, ids, List.length_map] at hle

theorem locate?_of_mem (h : f.ids.Pairwise (· < ·)) {e : Stored × Nat} (he : e ∈ f.entries) :
    f.locate? e.1.id = some (e.1, .ofNat e.2) := by
  have hids : f.indexed.map (·.1.id) = f.ids := by
    rw [indexed_eq_map_entries, List.map_map]
    exact map_id_entries f
  have hmem : e.1.id ∈ f.ids := by
    rw [← map_id_entries]
    exact List.mem_map_of_mem he
  have hfound := halve_map (fun p : Stored × UInt32 ↦ p.1.id) (fun id ↦ decide (e.1.id < id)) f.indexed
  rw [hids, halve_of_mem h hmem] at hfound
  obtain ⟨p, hp, hid⟩ := Option.map_eq_some_iff.mp hfound
  have hindexed := mem_of_halve hp
  rw [indexed_eq_map_entries] at hindexed
  obtain ⟨d, hd, rfl⟩ := List.mem_map.mp hindexed
  have hde : d = e := List.inj_on_of_nodup_map (nodup_map_id_entries h) hd he hid
  subst hde
  rw [locate?, hp]
  simp

theorem messageById_of_open (ho : f.isOpen = true) (id : MessageId) :
    Folder.messageById id f = (f.deliver (f.locate? id), f.logs [.messageById id]) :=
  read_of_open ho (.messageById id) fun g ↦ g.deliver (g.locate? id)

theorem messageByIndex_of_open (ho : f.isOpen = true) (i : UInt32) :
    Folder.messageByIndex i f =
      (f.deliver ((f.messages[i.toNat]?).map fun m ↦ (m, i)), f.logs [.messageByIndex i]) :=
  read_of_open ho (.messageByIndex i) fun g ↦
    g.deliver ((g.messages[i.toNat]?).map fun m ↦ (m, i))

def find? (f : MemoryFolder) : Target → Option Message
  | .id id => (f.locate? id).map fun p ↦ p.1.message p.2
  | .index i => (f.messages[i.toNat]?).map (·.message i)

theorem fetch_delivers (ho : f.isOpen = true) (t : Target) :
    ∃ c found, t.fetch f = (f.deliver found, f.logs [c]) ∧
      (found.map fun p ↦ p.1.message p.2) = f.find? t := by
  cases t with
  | id id => exact ⟨_, _, messageById_of_open ho id, rfl⟩
  | index i => exact ⟨_, _, messageByIndex_of_open ho i, Option.map_map ..⟩

def deliveries (es : List (Stored × Nat)) : List Message := es.map fun e ↦ e.1.message (.ofNat e.2)

theorem map_id_deliveries (es : List (Stored × Nat)) :
    (deliveries es).map (·.id) = es.map (·.1.id) := by
  rw [deliveries, List.map_map]
  rfl

theorem map_id_summarize (items : SummaryItems) (es : List (Stored × Nat)) :
    (summarize items es).map (·.id) = es.map (·.1.id) := by
  rw [summarize, List.map_map]
  rfl

theorem filterMap_find?_ids (h : f.ids.Pairwise (· < ·)) {es : List (Stored × Nat)}
    (hes : es.Sublist f.entries) :
    (es.map fun e ↦ Target.id e.1.id).filterMap f.find? = deliveries es := by
  rw [List.filterMap_map, deliveries, ← List.filterMap_eq_map]
  refine List.filterMap_congr fun e he ↦ ?_
  simp only [Function.comp_apply, find?, locate?_of_mem h (hes.subset he), Option.map_some]

theorem filterMap_find?_indices (range : IndexRange) :
    (range.toList.map Target.index).filterMap f.find? =
      deliveries ((f.entries.drop range.start.toNat).take range.size) := by
  rw [range.toList_eq, List.map_map, List.filterMap_map, deliveries, entries,
    ← filterMap_range_getElem? f.messages (fun e ↦ e.1.message (.ofNat e.2))]
  refine List.filterMap_congr fun i hi ↦ ?_
  have htoNat : (UInt32.ofNat (range.start.toNat + i)).toNat = range.start.toNat + i :=
    UInt32.toNat_ofNat_of_lt' (range.start_add_lt_size (List.mem_range.mp hi))
  simp only [Function.comp_apply, find?, htoNat]

section Loops

variable (hf : f.faults = []) (ho : f.isOpen = true)

include hf ho

theorem fetch_of_open (t : Target) : ∃ c, t.fetch f = (.ok (f.find? t), f.logs [c]) := by
  obtain ⟨c, found, hfetch, hfound⟩ := fetch_delivers ho t
  refine ⟨c, ?_⟩
  rw [hfetch, ← hfound]
  cases found with
  | none => rfl
  | some p =>
    rw [deliver, check_of_faultless hf]
    rfl

theorem retrieveEach_of_open (ts : List Target) :
    ∃ cs, retrieveEach (fun _ ↦ false) ts f =
      ({ messages := ts.filterMap f.find? }, f.logs cs) := by
  induction ts generalizing f with
  | nil => exact ⟨[], by rw [logs_nil]; rfl⟩
  | cons t ts ih =>
    obtain ⟨c, hc⟩ := fetch_of_open hf ho t
    obtain ⟨cs, hcs⟩ := ih (f := f.logs [c]) hf ho
    refine ⟨c :: cs, ?_⟩
    rw [logs_logs] at hcs
    simp only [retrieveEach, hc, hcs]
    cases h : f.find? t with
    | none => rw [List.filterMap_cons_none h]; rfl
    | some m => rw [List.filterMap_cons_some h]; rfl

theorem messages_of_open (ts : Targets) :
    ∃ cs, ts.messages (fun _ ↦ false) f = (.ok (ts.ascending.filterMap f.find?), f.logs cs) := by
  obtain ⟨cs, hcs⟩ := retrieveEach_of_open hf ho ts.list
  refine ⟨cs, ?_⟩
  simp only [Targets.messages, hcs, Targets.ascending]
  cases ts.newestFirst with
  | false => rfl
  | true => simp only [if_true, List.filterMap_reverse]

theorem draw_of_open (ts : List Target) (n : Nat) :
    ∃ cs, draw (fun _ ↦ false) n ts f =
      (((ts.filterMap f.find?).take n,
        if (ts.filterMap f.find?).length < n then .ended else .dropped), f.logs cs) := by
  induction ts generalizing f n with
  | nil => cases n <;> exact ⟨[], by rw [logs_nil]; rfl⟩
  | cons t ts ih =>
    cases n with
    | zero => exact ⟨[], by rw [logs_nil]; rfl⟩
    | succ n =>
      obtain ⟨c, hc⟩ := fetch_of_open hf ho t
      cases h : f.find? t with
      | none =>
        obtain ⟨cs, hcs⟩ := ih (f := f.logs [c]) hf ho (n + 1)
        refine ⟨c :: cs, ?_⟩
        rw [logs_logs] at hcs
        rw [h] at hc
        simp only [draw, hc, hcs, List.filterMap_cons_none h]
        rfl
      | some m =>
        obtain ⟨cs, hcs⟩ := ih (f := f.logs [c]) hf ho n
        refine ⟨c :: cs, ?_⟩
        rw [logs_logs] at hcs
        rw [h] at hc
        simp only [draw, hc, hcs, List.filterMap_cons_some h, List.take_succ_cons,
          List.length_cons, Nat.add_lt_add_iff_right]
        rfl

end Loops

end MemoryFolder

namespace Sink

variable {τ : Type} [Sink τ]

/-- What is written to a sink, one message after the other, and the message that it refused, if
any. -/
inductive Writes (path : Message → String) : List Message → Option Message → τ → τ → Prop
  | nothing (s : τ) : Writes path [] none s s
  | refused {m : Message} {s s' : τ} (e : Error) (write : Sink.write m (path m) s = (.error e, s')) :
      Writes path [] (some m) s s'
  | written {m : Message} {ms : List Message} {refused? : Option Message} {s s₁ s' : τ}
      (write : Sink.write m (path m) s = (.ok (), s₁)) (rest : Writes path ms refused? s₁ s') :
      Writes path (m :: ms) refused? s s'

/-- A sink does not fail a call: it has the directory or makes it, and takes all messages. -/
def Serves (dir : String) (create : Bool) (path : Message → String) (ms : List Message)
    (s s' : τ) : Prop :=
  ∃ s₁, prepare dir create s = (.ok (), s₁) ∧ Writes path ms none s₁ s'

end Sink

namespace MemoryFolder

variable {f : MemoryFolder}

theorem saveEach_of_open {τ : Type} [Sink τ] (hf : f.faults = []) (ho : f.isOpen = true)
    {path : Message → String} (ts : List Target) {s s' : τ}
    (hs : Sink.Writes path (ts.filterMap f.find?) none s s') :
    ∃ cs, saveEach (fun _ _ ↦ false) path ts f s =
      (((ts.filterMap f.find?).map path, none), f.logs cs, s') := by
  induction ts generalizing f s with
  | nil =>
    cases hs
    exact ⟨[], by rw [logs_nil]; rfl⟩
  | cons t ts ih =>
    obtain ⟨c, hc⟩ := fetch_of_open hf ho t
    cases h : f.find? t with
    | none =>
      rw [List.filterMap_cons_none h] at hs ⊢
      obtain ⟨cs, hcs⟩ := ih (f := f.logs [c]) hf ho hs
      refine ⟨c :: cs, ?_⟩
      rw [logs_logs] at hcs
      rw [h] at hc
      simp only [saveEach, hc, hcs]
      rfl
    | some m =>
      rw [List.filterMap_cons_some h] at hs ⊢
      cases hs with
      | written hw hrest =>
        obtain ⟨cs, hcs⟩ := ih (f := f.logs [c]) hf ho hrest
        refine ⟨c :: cs, ?_⟩
        rw [logs_logs] at hcs
        rw [h] at hc
        simp only [saveEach, hc, hw, hcs, List.map_cons]
        rfl

end MemoryFolder

section Windows

open MemoryFolder

variable {f : MemoryFolder}

/-- The messages in a window, in the order of the folder. -/
def Window.contents (f : MemoryFolder) : Window → List (Stored × Nat)
  | .empty => []
  | .ids set => f.entries.filter fun e ↦ set.contains e.1.id
  | .indices range | .newest range => (f.entries.drop range.start.toNat).take range.size

def Plan.contents (cap : UInt32) (f : MemoryFolder) : Plan → List (Stored × Nat)
  | .empty => []
  | .ids range => f.entries.filter fun e ↦ range.contains e.1.id
  | .indices range | .newest range => (f.entries.drop range.start.toNat).take range.size
  | .search query skip take =>
    f.entries.filter fun e ↦
      (IdSet.list (sliceResults (f.results query) skip take cap)).contains e.1.id

theorem Plan.contents_sublist (cap : UInt32) (f : MemoryFolder) (p : Plan) :
    (p.contents cap f).Sublist f.entries := by
  cases p with
  | empty => exact List.nil_sublist _
  | ids range => exact List.filter_sublist
  | search query skip take => exact List.filter_sublist
  | indices range => exact (List.take_sublist _ _).trans (List.drop_sublist _ _)
  | newest range => exact (List.take_sublist _ _).trans (List.drop_sublist _ _)

variable (hf : f.faults = []) (ho : f.isOpen = true)

include hf ho

theorem resolve_of_open (cap : UInt32) (p : Plan) :
    ∃ w cs, p.resolve cap f = (.ok w, f.logs cs) ∧ w.contents f = p.contents cap f := by
  cases p with
  | empty => exact ⟨.empty, [], by rw [logs_nil]; rfl, rfl⟩
  | ids range => exact ⟨.ids (.range range), [], by rw [logs_nil]; rfl, rfl⟩
  | indices range => exact ⟨.indices range, [], by rw [logs_nil]; rfl, rfl⟩
  | newest range => exact ⟨.newest range, [], by rw [logs_nil]; rfl, rfl⟩
  | search query skip take =>
    refine ⟨_, [.search query.toText], by simp only [Plan.resolve, search_of_open hf ho]; rfl, ?_⟩
    cases he : (sliceResults (f.results query) skip take cap).isEmpty with
    | false => rfl
    | true =>
      rw [List.isEmpty_iff] at he
      refine (List.filter_eq_nil_iff.mpr fun e _ ↦ ?_).symm
      rw [he]
      simp [IdSet.contains, halve]

variable (h : f.ids.Pairwise (· < ·))

include h

theorem summaries_of_open (items : SummaryItems) (w : Window) :
    ∃ cs, w.summaries items f = (.ok (summarize items (w.contents f)), f.logs cs) := by
  have hl := length_le_size h
  cases w with
  | empty => exact ⟨[], by rw [logs_nil]; rfl⟩
  | ids set => exact ⟨_, summaries_ids items hf ho h set⟩
  | indices range => exact ⟨_, summaries_indices items hf ho hl range (.inl rfl)⟩
  | newest range => exact ⟨_, summaries_indices items hf ho hl range (.inr rfl)⟩

theorem targets_of_open (w : Window) :
    ∃ ts cs, w.targets f = (.ok ts, f.logs cs) ∧
      ts.ascending.filterMap f.find? = deliveries (w.contents f) := by
  cases w with
  | empty => exact ⟨_, [], by rw [logs_nil]; rfl, rfl⟩
  | indices range => exact ⟨_, [], by rw [logs_nil]; rfl, filterMap_find?_indices range⟩
  | newest range =>
    refine ⟨_, [], by rw [logs_nil]; rfl, ?_⟩
    simp only [Targets.ascending, if_true, List.map_reverse, List.reverse_reverse]
    exact filterMap_find?_indices range
  | ids set =>
    -- the folder reports the identifiers in order, each once, and none but those asked for
    let es := f.entries.filter fun e ↦ set.contains e.1.id
    have hes : es.Sublist f.entries := List.filter_sublist
    have hasc : (es.map (·.1.id)).Pairwise (· < ·) :=
      List.pairwise_map.mpr ((entries_pairwise_id h).sublist hes)
    have hfilter : (es.map (·.1.id)).filter set.contains = es.map (·.1.id) := by
      refine List.filter_eq_self.mpr fun id hid ↦ ?_
      obtain ⟨e, he, rfl⟩ := List.mem_map.mp hid
      exact (List.mem_filter.mp he).2
    have hsort : (es.map (·.1.id)).mergeSort (fun a b ↦ a ≤ b) = es.map (·.1.id) :=
      List.mergeSort_of_pairwise (hasc.imp fun hab ↦ decide_eq_true (MessageId.le_of_lt hab))
    have hsqueeze : squeeze (es.map (·.1.id)) = es.map (·.1.id) :=
      squeeze_of_pairwise_ne (hasc.imp MessageId.ne_of_lt)
    refine ⟨⟨(es.map (·.1.id)).map .id, false⟩, [.fetchIds set], ?_, ?_⟩
    · simp only [Window.targets, fetchIds_of_open hf ho, map_id_summarize, es, hfilter, hsort,
        hsqueeze]
    · rw [List.map_map]
      exact filterMap_find?_ids h hes

end Windows

namespace Reader

open MemoryFolder

variable {r r' : Reader MemoryFolder}

def contents (r : Reader MemoryFolder) : List (Stored × Nat) :=
  r.visit.plan.contents r.config.searchCap r.folder

theorem contents_sublist (r : Reader MemoryFolder) : r.contents.Sublist r.folder.entries :=
  r.visit.plan.contents_sublist _ _

theorem ids_contents_sublist (r : Reader MemoryFolder) :
    (r.contents.map (·.1.id)).Sublist r.folder.ids :=
  map_id_entries r.folder ▸ r.contents_sublist.map _

theorem contents_of_isZero (ht : r.spec.take.isZero = true) : r.contents = [] := by
  have hplan : r.visit.plan = .empty := by
    simp only [visit, Spec.plan, ht, if_true]
  rw [contents, hplan]
  rfl

/-- Where a call leaves the reader that retrieves all of its window. -/
inductive Covered (r : Reader MemoryFolder) : Reader MemoryFolder → Prop
  | idle (ht : r.spec.take.isZero = true) : r.Covered r
  | visited {r' : Reader MemoryFolder} {reads : List Call} (ht : r.spec.take.isZero = false)
      (h : r.Advanced r.contents.length reads r') : r.Covered r'

section Inside

variable (hf : r.folder.faults = []) (h : r.folder.ids.Pairwise (· < ·))

theorem faults_during (hf : r.folder.faults = []) (reads : List Call) :
    (r.during reads).faults = [] := (faults_of_stored (r.stored_during reads)).trans hf

theorem ids_during (h : r.folder.ids.Pairwise (· < ·)) (reads : List Call) :
    (r.during reads).ids.Pairwise (· < ·) := ids_of_stored (r.stored_during reads) ▸ h

include hf

theorem window_of_inside : ∃ w cs, r.inside.window r.visit = (.ok w, r.during cs) ∧
    w.contents (r.during cs) = r.contents := by
  have hfaults : r.inside.folder.faults = [] := (faults_of_stored (stored_opened _ _)).trans hf
  obtain ⟨w, cs, hw, hcontents⟩ := resolve_of_open hfaults (isOpen_opened _ _)
    r.config.searchCap r.visit.plan
  refine ⟨w, cs, hw, ?_⟩
  have hlogs : w.contents (r.during cs) = w.contents r.inside.folder := by cases w <;> rfl
  have hstored := eq_of_stored (r.visit.plan.contents r.config.searchCap)
    (fun _ ↦ by cases r.visit.plan <;> rfl) (stored_opened r.config.folderAccess r.folder)
  exact (hlogs.trans hcontents).trans hstored

include h

theorem targets_of_inside : ∃ ts cs, r.inside.targets r.visit = (.ok ts, r.during cs) ∧
    ts.ascending.filterMap (r.during cs).find? = deliveries r.contents := by
  obtain ⟨w, cs, hw, hcontents⟩ := window_of_inside hf
  obtain ⟨ts, ds, hts, hfound⟩ := targets_of_open (faults_during hf cs) (r.isOpen_during cs)
    (ids_during h cs) w
  refine ⟨ts, cs ++ ds, ?_, ?_⟩
  · rw [targets, hw]
    exact hts.trans (by rw [during, logs_logs]; rfl)
  · rw [← hcontents]
    exact hfound

theorem summarizing_of_inside : ∃ cs, r.inside.summarizing r.visit =
    ((.ok (summarize r.visit.spec.items r.contents), .done r.contents.length), r.during cs) := by
  obtain ⟨w, cs, hw, hcontents⟩ := window_of_inside hf
  obtain ⟨ds, hds⟩ := summaries_of_open (faults_during hf cs) (r.isOpen_during cs) (ids_during h cs)
    r.visit.spec.items w
  refine ⟨cs ++ ds, ?_⟩
  rw [hcontents, during, logs_logs] at hds
  simp only [summarizing, hw, during, hds]
  rw [summarize, List.length_map]

theorem retrieving_of_inside : ∃ cs, r.inside.retrieving r.visit (fun _ ↦ false) =
    ((.ok (deliveries r.contents), .done r.contents.length), r.during cs) := by
  obtain ⟨ts, cs, hts, hfound⟩ := targets_of_inside hf h
  obtain ⟨ds, hds⟩ := messages_of_open (faults_during hf cs) (r.isOpen_during cs) ts
  refine ⟨cs ++ ds, ?_⟩
  rw [hfound, during, logs_logs] at hds
  simp only [retrieving, hts, during, hds]
  rw [deliveries, List.length_map]

theorem streaming_of_inside (n : Nat) : ∃ cs, r.inside.streaming r.visit (fun _ ↦ false) n =
    if r.contents.length < n then
      ((((deliveries r.contents).map .ok, true), .done r.contents.length), r.during cs)
    else (((((deliveries r.contents).take n).map .ok, false), .dropped), r.during cs) := by
  obtain ⟨ts, cs, hts, hfound⟩ := targets_of_inside hf h
  obtain ⟨ds, hds⟩ := draw_of_open (faults_during hf cs) (r.isOpen_during cs) ts.ascending n
  refine ⟨cs ++ ds, ?_⟩
  have hlength : (deliveries r.contents).length = r.contents.length := by
    rw [deliveries, List.length_map]
  rw [hfound, hlength, during, logs_logs] at hds
  simp only [streaming, hts, during, hds]
  split
  · next hlt =>
    rw [List.take_of_length_le (by omega)]
    simp only [Halt.pulled, Halt.ending, hlength]
  · rfl

theorem saving_of_inside {τ : Type} [Sink τ] (dir : String) {s s' : τ}
    (hs : Sink.Writes (r.savePath dir) (deliveries r.contents) none s s') :
    ∃ cs, r.inside.saving r.visit dir (fun _ _ ↦ false) s =
      (((.ok ((deliveries r.contents).map (r.savePath dir)), s'), .done r.contents.length),
        r.during cs) := by
  obtain ⟨ts, cs, hts, hfound⟩ := targets_of_inside hf h
  rw [← hfound] at hs
  obtain ⟨ds, hds⟩ := saveEach_of_open (faults_during hf cs) (r.isOpen_during cs) ts.ascending hs
  refine ⟨cs ++ ds, ?_⟩
  have hpath : r.inside.savePath dir = r.savePath dir := rfl
  rw [hfound, during, logs_logs] at hds
  simp only [saving, hts, during, hpath, hds, List.length_map, deliveries]

end Inside

section Calls

variable (hf : r.folder.faults = []) (h : r.folder.ids.Pairwise (· < ·))

include hf

theorem attend_covered {idle : α} {refusal : Error → α}
    {errand : Reader MemoryFolder → Visit → (α × Ending) × MemoryFolder} {a : α}
    (hidle : r.contents = [] → idle = a)
    (herrand : ∃ cs, errand r.inside r.visit = ((a, .done r.contents.length), r.during cs)) :
    ∃ r', r.attend idle refusal errand = (a, r') ∧ r.Covered r' := by
  cases ht : r.spec.take.isZero with
  | true =>
    refine ⟨r, ?_, .idle ht⟩
    rw [attend, if_pos ht, hidle (contents_of_isZero ht)]
  | false =>
    obtain ⟨cs, hcs⟩ := herrand
    have hc : Fault.close ∉ r.folder.faults := by simp [hf]
    have hs : Fault.select ∉ r.folder.faults := by simp [hf]
    exact ⟨_, attend_of_accessible (.inr hs) hc ht hcs, .visited ht (r.visited_outside _ _ cs)⟩

include h

theorem fetchSummaries_covered : ∃ r', r.fetchSummaries =
    (.ok (summarize r.visit.spec.items r.contents), r') ∧ r.Covered r' := by
  rw [fetchSummaries_eq_attend]
  exact attend_covered hf (fun h ↦ by rw [h]; rfl) (summarizing_of_inside hf h)

theorem fetchMessages_covered : ∃ r', r.fetchMessages (fun _ ↦ false) =
    (.ok (deliveries r.contents), r') ∧ r.Covered r' := by
  rw [fetchMessages_eq_attend]
  exact attend_covered hf (fun h ↦ by rw [h]; rfl) (retrieving_of_inside hf h)

theorem streamMessages_covered {n : Nat} (hn : r.contents.length < n) :
    ∃ r', r.streamMessages (fun _ ↦ false) n = (((deliveries r.contents).map .ok, true), r') ∧
      r.Covered r' := by
  obtain ⟨m, rfl⟩ : ∃ m, n = m + 1 := Nat.exists_eq_succ_of_ne_zero (by omega)
  rw [streamMessages_eq_attend]
  refine attend_covered hf (fun h ↦ by rw [h]; rfl) ?_
  obtain ⟨cs, hcs⟩ := streaming_of_inside hf h (m + 1)
  rw [if_pos hn] at hcs
  exact ⟨cs, hcs⟩

theorem saveAll_covered {τ : Type} [Sink τ] {dir : String} {create : Bool} {s s' : τ}
    (hs : Sink.Serves dir create (r.savePath dir) (deliveries r.contents) s s') :
    ∃ r', r.saveAll dir create (fun _ _ ↦ false) s =
        (.ok ((deliveries r.contents).map (r.savePath dir)), r', s') ∧ r.Covered r' := by
  obtain ⟨s₁, hprepare, hwrites⟩ := hs
  rw [saveAll_eq_prepare, hprepare]
  simp only [saveWindow_eq_attend]
  have hidle (hnone : r.contents = []) : (Except.ok [], s₁) =
      ((Except.ok ((deliveries r.contents).map (r.savePath dir)) :
        Except (Interruption String) (List String)), s') := by
    rw [hnone] at hwrites ⊢
    cases hwrites
    rfl
  have hcall : ∃ r', r.attend (.ok [], s₁) (fun e ↦ (.error (.ofError e), s₁))
      (saving · · dir (fun _ _ ↦ false) s₁) =
        ((.ok ((deliveries r.contents).map (r.savePath dir)), s'), r') ∧ r.Covered r' :=
    attend_covered hf hidle (saving_of_inside hf h dir hwrites)
  obtain ⟨r', hr, hcovered⟩ := hcall
  exact ⟨r', by rw [hr], hcovered⟩

/-- A stream whose end is seen was pulled once more than it has messages. -/
theorem contents_lt_of_seen {n : Nat} (hn : (r.streamMessages (fun _ ↦ false) n).1.2 = true) :
    r.contents.length < n := by
  by_contra hge
  cases n with
  | zero => cases hn
  | succ n =>
    cases ht : r.spec.take.isZero with
    | true =>
      rw [contents_of_isZero ht, List.length_nil] at hge
      omega
    | false =>
      obtain ⟨cs, hcs⟩ := streaming_of_inside hf h (n + 1)
      rw [if_neg hge] at hcs
      have hc : Fault.close ∉ r.folder.faults := by simp [hf]
      have hs : Fault.select ∉ r.folder.faults := by simp [hf]
      rw [streamMessages_eq_attend, attend_of_accessible (.inr hs) hc ht hcs] at hn
      cases hn

end Calls

end Reader

end MailWindow
