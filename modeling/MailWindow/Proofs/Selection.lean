import MailWindow.Folder.Memory
import MailWindow.Proofs.Ascending
import MailWindow.Window

namespace MailWindow

variable {α : Type}

theorem filter_between_zipIdx (l : List α) (k a b : Nat) :
    (l.zipIdx k).filter (fun e ↦ a ≤ e.2 && e.2 < b) =
      ((l.zipIdx k).drop (a - k)).take (b - max a k) := by
  induction l generalizing k with
  | nil => simp
  | cons x l ih =>
    rw [List.zipIdx_cons]
    rcases Nat.lt_or_ge k a with hk | hk
    · rw [List.filter_cons_of_neg (by simp; omega), ih, show a - k = a - (k + 1) + 1 by omega,
        List.drop_succ_cons, show max a (k + 1) = max a k by omega]
    · rw [Nat.sub_eq_zero_of_le hk, List.drop_zero, Nat.max_eq_right hk]
      rcases Nat.lt_or_ge k b with hb | hb
      · rw [List.filter_cons_of_pos (by simp; omega), ih, show b - k = b - (k + 1) + 1 by omega,
          List.take_succ_cons, show a - (k + 1) = 0 by omega, List.drop_zero,
          show max a (k + 1) = k + 1 by omega]
      · rw [List.filter_cons_of_neg (by simp; omega), ih, show b - max a (k + 1) = 0 by omega,
          show b - k = 0 by omega, List.take_zero, List.take_zero]

/-- What a summary has to say of a message at a position: the fields of its header, its size, its
flags and its date as far as they are requested, and nothing else. The day of arrival, if requested,
stands in for a date field. -/
structure Stored.Summarizes (m : Stored) (position : Nat) (items : SummaryItems) (s : Summary) :
    Prop where
  index : s.index.toNat = position
  id : s.id = m.id
  subject : s.subject = if items.contains .envelope then Header.value? m.raw "subject" else none
  sender : s.sender = if items.contains .envelope then Header.value? m.raw "from" else none
  messageId : s.messageId =
    if items.contains .envelope then Header.value? m.raw "message-id" else none
  recipients : s.recipients =
    match if items.contains .envelope then Header.value? m.raw "to" else none with
    | some field => (Text.splitOn ',' field.toList).map fun a ↦ String.ofList (Text.trim a)
    | none => []
  date : s.date = Option.or
    (if items.contains .envelope then
      (Header.value? m.raw "date").bind fun field ↦ MailDate.parse? field.toList
    else none)
    (if items.contains .internalDate then some m.received else none)
  size : s.size.map (·.toNat) =
    if items.contains .size then some (min m.raw.length (UInt32.size - 1)) else none
  flags : s.flags = if items.contains .flags then m.flags else []

theorem Stored.summarizes_summary (m : Stored) {position : Nat} (h : position < UInt32.size)
    (items : SummaryItems) : m.Summarizes position items (m.summary (.ofNat position) items) where
  index := UInt32.toNat_ofNat_of_lt' h
  id := rfl
  subject := rfl
  sender := rfl
  messageId := rfl
  recipients := by
    simp only [summary, header?]
    cases items.contains .envelope with
    | false => rfl
    | true => cases Header.value? m.raw "to" <;> rfl
  date := by
    simp only [summary, header?]
    cases items.contains .internalDate with
    | false => rw [if_neg Bool.false_ne_true, if_neg Bool.false_ne_true, Option.or_none]
    | true => rfl
  size := by
    simp only [summary, Stored.size]
    cases items.contains .size with
    | false => rfl
    | true =>
      have hsize : (UInt32.ofNat (min m.raw.length (UInt32.size - 1))).toNat =
          min m.raw.length (UInt32.size - 1) :=
        UInt32.toNat_ofNat_of_lt' (Nat.lt_of_le_of_lt (Nat.min_le_right _ _) (by decide))
      exact congrArg some hsize
  flags := rfl

def summarize (items : SummaryItems) (es : List (Stored × Nat)) : List Summary :=
  es.map fun e ↦ e.1.summary (.ofNat e.2) items

namespace MemoryFolder

def entries (f : MemoryFolder) : List (Stored × Nat) := f.messages.zipIdx

/-- The first messages that a query matches, as many as a search returns. -/
def candidates (f : MemoryFolder) (q : Query) : List (Stored × Nat) :=
  (f.entries.filter (·.1.satisfies q)).take f.searchCap

/-- What a spec selects under a search cap: an identifier range by itself, else a slice of the
candidates, else the newest messages, else those at some positions; in the order of the folder. -/
def selection (f : MemoryFolder) (s : Spec) (cap : UInt32) : List (Stored × Nat) :=
  match s.idRange with
  | some range => f.entries.filter fun e ↦ range.start ≤ e.1.id && e.1.id ≤ range.stop
  | none =>
    if !s.query.isAll then
      if cap ≤ s.skip then []
      else slice (f.candidates s.query) s.skip.toNat (s.take.limit cap.toNat)
    else
      match s.newest with
      | some n => f.entries.drop (f.entries.length - n.val.toNat)
      | none => (f.entries.drop s.skip.toNat).take (s.take.limit f.entries.length)

theorem forall₂_summarize {f : MemoryFolder} (hl : f.messages.length ≤ UInt32.size)
    (items : SummaryItems) {es : List (Stored × Nat)} (hes : es.Sublist f.entries) :
    List.Forall₂ (fun e s ↦ e.1.Summarizes e.2 items s) es (summarize items es) := by
  rw [summarize, List.forall₂_map_right_iff, List.forall₂_same]
  intro e he
  have hposition := List.snd_lt_of_mem_zipIdx (hes.subset he)
  exact e.1.summarizes_summary (by omega) items

def logs (f : MemoryFolder) (calls : List Call) : MemoryFolder := { f with calls := f.calls ++ calls }

variable {f : MemoryFolder}

section Entries

theorem length_entries (f : MemoryFolder) : f.entries.length = f.messages.length :=
  List.length_zipIdx

theorem map_id_entries (f : MemoryFolder) : f.entries.map (·.1.id) = f.ids := by
  have h : f.entries.map (·.1.id) = (f.entries.map Prod.fst).map (·.id) := by
    rw [List.map_map]
    rfl
  rw [h, entries, List.zipIdx_map_fst]
  rfl

theorem indexed_eq_map_entries (f : MemoryFolder) :
    f.indexed = f.entries.map fun e ↦ (e.1, .ofNat e.2) := rfl

theorem snd_lt_of_mem_entries {e : Stored × Nat} (h : e ∈ f.entries) : e.2 < f.messages.length := by
  simpa using List.snd_lt_of_mem_zipIdx h

theorem entries_pairwise_snd (f : MemoryFolder) : f.entries.Pairwise fun a b ↦ a.2 < b.2 := by
  have h : (f.entries.map Prod.snd).Pairwise (· < ·) := by
    rw [entries, List.zipIdx_map_snd]
    exact List.pairwise_lt_range'
  exact List.pairwise_map.mp h

theorem entries_pairwise_id (h : f.ids.Pairwise (· < ·)) :
    f.entries.Pairwise fun a b ↦ a.1.id < b.1.id :=
  List.pairwise_map.mp (map_id_entries f ▸ h)

theorem summarize_pairwise_id (h : f.ids.Pairwise (· < ·)) (items : SummaryItems)
    {es : List (Stored × Nat)} (hs : es.Sublist f.entries) :
    (summarize items es).Pairwise fun a b ↦ a.id < b.id :=
  List.pairwise_map.mpr ((entries_pairwise_id h).sublist hs)

theorem nodup_map_id_entries (h : f.ids.Pairwise (· < ·)) : (f.entries.map (·.1.id)).Nodup := by
  rw [map_id_entries]
  exact h.imp MessageId.ne_of_lt

theorem candidates_sublist (f : MemoryFolder) (q : Query) : (f.candidates q).Sublist f.entries :=
  (List.take_sublist _ _).trans List.filter_sublist

theorem results_eq_map_candidates (f : MemoryFolder) (q : Query) :
    f.results q = (f.candidates q).map (·.1.id) := by
  have h : f.messages.filter (·.satisfies q) =
      (f.entries.filter (·.1.satisfies q)).map Prod.fst := by
    have hm : f.messages = f.entries.map Prod.fst := (List.zipIdx_map_fst _ _).symm
    conv_lhs => rw [hm]
    exact List.filter_map
  rw [results, h, candidates, List.map_take, List.map_map]
  rfl

theorem length_results_le (f : MemoryFolder) (query : Query) :
    (f.results query).length ≤ f.messages.length := by
  rw [results_eq_map_candidates, List.length_map, ← length_entries]
  exact (candidates_sublist f query).length_le

theorem results_ascending (h : f.ids.Pairwise (· < ·)) (q : Query) :
    (f.results q).Pairwise (· < ·) := by
  rw [results_eq_map_candidates]
  exact List.pairwise_map.mpr ((entries_pairwise_id h).sublist (candidates_sublist f q))

end Entries

section Sorting

theorem mergeSort_id_summarize (h : f.ids.Pairwise (· < ·)) (items : SummaryItems)
    {es : List (Stored × Nat)} (hes : es.Sublist f.entries) :
    (summarize items es).mergeSort (fun a b ↦ a.id ≤ b.id) = summarize items es := by
  refine List.mergeSort_of_pairwise ?_
  exact (summarize_pairwise_id h items hes).imp fun hab ↦ decide_eq_true (MessageId.le_of_lt hab)

theorem toNat_ofNat_snd {e : Stored × Nat} (h : f.messages.length ≤ UInt32.size)
    (he : e ∈ f.entries) : (UInt32.ofNat e.2).toNat = e.2 :=
  UInt32.toNat_ofNat_of_lt' (Nat.lt_of_lt_of_le (snd_lt_of_mem_entries he) h)

theorem mergeSort_index_summarize (h : f.messages.length ≤ UInt32.size) (items : SummaryItems)
    {es : List (Stored × Nat)} (hes : es.Sublist f.entries) :
    (summarize items es).mergeSort (fun a b ↦ a.index ≤ b.index) = summarize items es := by
  refine List.mergeSort_of_pairwise (List.pairwise_map.mpr ?_)
  refine ((entries_pairwise_snd f).sublist hes).imp_of_mem fun {a b} ha hb hab ↦ decide_eq_true ?_
  change UInt32.ofNat a.2 ≤ UInt32.ofNat b.2
  rw [UInt32.le_iff_toNat_le, toNat_ofNat_snd h (hes.subset ha), toNat_ofNat_snd h (hes.subset hb)]
  exact Nat.le_of_lt hab

end Sorting

section Reading

theorem logs_logs (f : MemoryFolder) (cs ds : List Call) :
    (f.logs cs).logs ds = f.logs (cs ++ ds) := by
  simp only [logs, List.append_assoc]

theorem check_of_faultless (hf : f.faults = []) (fault : Fault) : f.check fault = .ok () := by
  simp [check, hf]

theorem read_of_open (ho : f.isOpen = true) (call : Call)
    (result : MemoryFolder → Except SessionError α) :
    f.read call result = (result (f.logs [call]), f.logs [call]) := by
  have hopen : (f.log call).checkOpen = .ok () := if_pos ho
  simp only [read, hopen, bind, Except.bind]
  rfl

theorem fetchIds_checked (ho : f.isOpen = true) (set : IdSet) (items : SummaryItems) :
    Folder.fetchIds set items f =
      ((f.check .fetch).map fun _ ↦
        summarize items (f.entries.filter fun e ↦ set.contains e.1.id), f.logs [.fetchIds set]) := by
  refine (read_of_open ho (.fetchIds set) fun g ↦ (g.check .fetch).map fun _ ↦
    (g.indexed.filter fun p ↦ set.contains p.1.id).map fun p ↦ p.1.summary p.2 items).trans ?_
  simp only [indexed_eq_map_entries, List.filter_map, List.map_map]
  rfl

theorem fetchIndices_checked (ho : f.isOpen = true) (range : IndexRange) (items : SummaryItems) :
    Folder.fetchIndices range items f =
      ((f.check .fetch).map fun _ ↦
        summarize items (f.entries.filter fun e ↦ range.contains (.ofNat e.2)),
          f.logs [.fetchIndices range]) := by
  refine (read_of_open ho (.fetchIndices range) fun g ↦ (g.check .fetch).map fun _ ↦
    (g.indexed.filter fun p ↦ range.contains p.2).map fun p ↦ p.1.summary p.2 items).trans ?_
  simp only [indexed_eq_map_entries, List.filter_map, List.map_map]
  rfl

section Faultless

variable (hf : f.faults = []) (ho : f.isOpen = true)

include hf ho

theorem fetchIds_of_open (set : IdSet) (items : SummaryItems) :
    Folder.fetchIds set items f =
      (.ok (summarize items (f.entries.filter fun e ↦ set.contains e.1.id)),
        f.logs [.fetchIds set]) := by
  rw [fetchIds_checked ho, check_of_faultless hf]
  rfl

theorem fetchIndices_of_open (range : IndexRange) (items : SummaryItems) :
    Folder.fetchIndices range items f =
      (.ok (summarize items (f.entries.filter fun e ↦ range.contains (.ofNat e.2))),
        f.logs [.fetchIndices range]) := by
  rw [fetchIndices_checked ho, check_of_faultless hf]
  rfl

theorem search_of_open (query : Query) :
    Folder.search query f = (.ok (f.results query), f.logs [.search query.toText]) := by
  have hcheck : (f.logs [.search query.toText]).check .search = .ok () := check_of_faultless hf _
  refine (read_of_open ho (.search query.toText) fun g ↦
    (g.check .search).map fun _ ↦ g.results query).trans ?_
  rw [hcheck]
  rfl

end Faultless

end Reading

end MemoryFolder

section Yields

/-- Carrying out a plan succeeds with some summaries, and some calls reach the folder. -/
def Plan.Yields (cap : UInt32) (items : SummaryItems) (f : MemoryFolder) (p : Plan)
    (found : List Summary) (calls : List Call) : Prop :=
  ∃ w g, p.resolve cap f = (.ok w, g) ∧ w.summaries items g = (.ok found, f.logs calls)

open MemoryFolder

variable {f : MemoryFolder} {cap : UInt32} {items : SummaryItems}

theorem logs_nil (f : MemoryFolder) : f.logs [] = f := by
  simp only [logs, List.append_nil]

theorem summaries_indices (items : SummaryItems) (hf : f.faults = []) (ho : f.isOpen = true)
    (hl : f.messages.length ≤ UInt32.size) (range : IndexRange) {w : Window}
    (hw : w = .indices range ∨ w = .newest range) :
    w.summaries items f =
      (.ok (summarize items ((f.entries.drop range.start.toNat).take range.size)),
        f.logs [.fetchIndices range]) := by
  have hfilter : f.entries.filter (fun e ↦ range.contains (.ofNat e.2)) =
      (f.entries.drop range.start.toNat).take range.size := by
    have hle := UInt32.le_iff_toNat_le.mp range.start_le_stop
    have hcongr : f.entries.filter (fun e ↦ range.contains (.ofNat e.2)) =
        f.entries.filter fun e ↦ range.start.toNat ≤ e.2 && e.2 < range.stop.toNat + 1 := by
      refine List.filter_congr fun e he ↦ ?_
      simp only [IndexRange.contains, UInt32.le_iff_toNat_le, toNat_ofNat_snd hl he,
        Nat.lt_succ_iff]
    rw [hcongr, entries, filter_between_zipIdx, Nat.sub_zero, Nat.max_zero, IndexRange.size]
    congr 1
    omega
  have hsort := mergeSort_index_summarize hl items
    (List.filter_sublist (p := fun e ↦ range.contains (.ofNat e.2)))
  rw [hfilter] at hsort
  rcases hw with rfl | rfl <;>
    simp only [Window.summaries, fetchIndices_of_open hf ho, hfilter, hsort]

theorem summaries_ids (items : SummaryItems) (hf : f.faults = []) (ho : f.isOpen = true)
    (h : f.ids.Pairwise (· < ·)) (set : IdSet) :
    (Window.ids set).summaries items f =
      (.ok (summarize items (f.entries.filter fun e ↦ set.contains e.1.id)),
        f.logs [.fetchIds set]) := by
  have hfilter : (summarize items (f.entries.filter fun e ↦ set.contains e.1.id)).filter
      (fun s ↦ set.contains s.id) =
        summarize items (f.entries.filter fun e ↦ set.contains e.1.id) := by
    refine List.filter_eq_self.mpr fun s hs ↦ ?_
    obtain ⟨e, he, rfl⟩ := List.mem_map.mp hs
    exact (List.mem_filter.mp he).2
  simp only [Window.summaries, fetchIds_of_open hf ho, hfilter,
    mergeSort_id_summarize h items List.filter_sublist]

theorem yields_empty (cap : UInt32) (items : SummaryItems) (f : MemoryFolder) :
    Plan.empty.Yields cap items f [] [] :=
  ⟨.empty, f, rfl, by rw [logs_nil]; rfl⟩

theorem yields_ids (hf : f.faults = []) (ho : f.isOpen = true) (h : f.ids.Pairwise (· < ·))
    (range : IdRange) :
    (Plan.ids range).Yields cap items f
      (summarize items (f.entries.filter fun e ↦ range.contains e.1.id))
      [.fetchIds (.range range)] :=
  ⟨.ids (.range range), f, rfl, summaries_ids items hf ho h (.range range)⟩

theorem yields_indices (hf : f.faults = []) (ho : f.isOpen = true)
    (hl : f.messages.length ≤ UInt32.size) (range : IndexRange) :
    (Plan.indices range).Yields cap items f
      (summarize items ((f.entries.drop range.start.toNat).take range.size))
      [.fetchIndices range] :=
  ⟨.indices range, f, rfl, summaries_indices items hf ho hl range (.inl rfl)⟩

theorem yields_newest (hf : f.faults = []) (ho : f.isOpen = true)
    (hl : f.messages.length ≤ UInt32.size) (range : IndexRange) :
    (Plan.newest range).Yields cap items f
      (summarize items ((f.entries.drop range.start.toNat).take range.size))
      [.fetchIndices range] :=
  ⟨.newest range, f, rfl, summaries_indices items hf ho hl range (.inr rfl)⟩

theorem slice_results (f : MemoryFolder) (query : Query) (skip limit : Nat) :
    slice (f.results query) skip limit =
      (slice (f.candidates query) skip limit).map (·.1.id) := by
  rw [map_slice, results_eq_map_candidates]

theorem filter_contains_slice (h : f.ids.Pairwise (· < ·)) (query : Query) (skip limit : Nat) :
    f.entries.filter (fun e ↦ (IdSet.list (slice (f.results query) skip limit)).contains e.1.id) =
      slice (f.candidates query) skip limit := by
  have hasc : (slice (f.results query) skip limit).Pairwise (· < ·) :=
    (results_ascending h query).sublist (slice_sublist _ _ _)
  rw [← filter_key_mem_of_sublist (·.1.id)
    ((slice_sublist (f.candidates query) skip limit).trans (candidates_sublist f query))
    (nodup_map_id_entries h), ← slice_results]
  exact List.filter_congr fun e _ ↦ Bool.eq_iff_iff.mpr
    ((contains_list_iff hasc e.1.id).trans decide_eq_true_iff.symm)

theorem yields_search (hf : f.faults = []) (ho : f.isOpen = true) (h : f.ids.Pairwise (· < ·))
    (query : Query) (skip : UInt32) (take : Take) :
    ∃ calls, (Plan.search query skip take).Yields cap items f
      (summarize items (slice (f.candidates query) skip.toNat (take.limit cap.toNat)))
      (.search query.toText :: calls) := by
  have hsliced := sliceResults_of_ascending (results_ascending h query) skip take cap
  by_cases he : slice (f.results query) skip.toNat (take.limit cap.toNat) = []
  · have hnone := List.map_eq_nil_iff.mp (slice_results f query _ _ ▸ he)
    refine ⟨[], .empty, f.logs [.search query.toText], ?_, ?_⟩
    · simp only [Plan.resolve, search_of_open hf ho, hsliced, he, List.isEmpty_nil, if_true]
    · rw [hnone]
      rfl
  · refine ⟨[.fetchIds (.list (slice (f.results query) skip.toNat (take.limit cap.toNat)))],
      .ids (.list (slice (f.results query) skip.toNat (take.limit cap.toNat))),
      f.logs [.search query.toText], ?_, ?_⟩
    · simp only [Plan.resolve, search_of_open hf ho, hsliced, List.isEmpty_iff, he, if_false]
    · have hw := summaries_ids (f := f.logs [.search query.toText]) items hf ho h
        (.list (slice (f.results query) skip.toNat (take.limit cap.toNat)))
      rw [logs_logs] at hw
      refine hw.trans ?_
      rw [← filter_contains_slice h query skip.toNat (take.limit cap.toNat)]
      rfl

end Yields

end MailWindow
