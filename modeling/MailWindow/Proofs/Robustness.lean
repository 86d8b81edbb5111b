import Mathlib
import MailWindow.Folder.Wayward
import MailWindow.Proofs.Leases
import MailWindow.Proofs.Planning
import MailWindow.Proofs.Watching

namespace MailWindow

variable {σ : Type}

namespace Spec

/-- The identifiers that a call may ask for, after what it asked before: the range, or some of what a
search came to. -/
inductive Asks (s : Spec) (cap : UInt32) : List Exchange → IdSet → Prop
  | range {range : IdRange} : s.idRange = some range → range.start ≤ range.stop →
      Asks s cap [] (.range range)
  | list {results ids : List MessageId} : s.idRange = none → ids ≠ [] → ids.Pairwise (· < ·) →
      ids.length ≤ s.take.limit cap.toNat → ids ⊆ results →
      Asks s cap [⟨.search s.query, .ok results⟩] (.list ids)

/-- All that is asked in a call by identifiers: the set of which they are asked for, if a call gets
that far, and the identifiers of the messages that are read. -/
inductive Talk (s : Spec) (cap : UInt32) : Option IdSet → List MessageId → List Exchange → Prop
  | nothing : Talk s cap none [] []
  | search (answer : Except SessionError (List MessageId)) : s.idRange = none →
      Talk s cap none [] [⟨.search s.query, answer⟩]
  | fetch {before reads : List Exchange} {set : IdSet} {items : SummaryItems}
      {answer : Except SessionError (List Summary)} {ids : List MessageId} :
      s.Asks cap before set → reads.map Exchange.target? = ids.map (fun id ↦ some (.id id)) →
      ids.Pairwise (· < ·) →
      (∀ id ∈ ids, set.Holds id ∧ ∃ found, answer = .ok found ∧ id ∈ found.map (·.id)) →
      Talk s cap (some set) ids (before ++ ⟨.fetchIds set items, answer⟩ :: reads)

variable {s : Spec} {cap : UInt32}

theorem Asks.isAscending {before : List Exchange} {set : IdSet} (h : s.Asks cap before set) :
    set.IsAscending := by
  cases h with
  | range _ _ => trivial
  | list _ _ hasc _ _ => exact hasc

theorem plan_of_identifiers (h : s.mode = .idRange ∨ s.mode = .search) (count cap : UInt32) :
    (s.plan count cap).plan = .empty ∨
    (∃ range, s.idRange = some range ∧ range.start ≤ range.stop ∧
      (s.plan count cap).plan = .ids range) ∨
    s.idRange = none ∧ (s.plan count cap).plan = .search s.query s.skip s.take := by
  by_cases ht : s.take = .count 0
  · left
    rw [plan, ht]
    rfl
  · cases hr : s.idRange with
    | some range =>
      rw [plan_idRange ht hr]
      cases hi : range.isInverted with
      | true => exact .inl rfl
      | false =>
        have hle : range.start ≤ range.stop := by
          rw [IdRange.isInverted, decide_eq_false_iff_not, MessageId.lt_iff_toNat] at hi
          exact MessageId.le_iff_toNat.mpr (Nat.le_of_not_lt hi)
        exact .inr (.inl ⟨range, rfl, hle, rfl⟩)
    | none =>
      have hq : s.query.isAll = false := by
        refine Bool.eq_false_iff.mpr fun hq ↦ ?_
        cases hn : s.newest with
        | none =>
          rw [mode_index hr hq hn] at h
          rcases h with h | h <;> cases h
        | some n =>
          rw [mode_newest hr hq hn] at h
          rcases h with h | h <;> cases h
      rw [(plan_search ht hr hq).2]
      by_cases hs : cap ≤ s.skip
      · rw [if_pos hs]
        exact .inl rfl
      · rw [if_neg hs]
        exact .inr (.inr ⟨rfl, rfl⟩)

variable [Folder σ]

theorem resolve_cases (h : s.mode = .idRange ∨ s.mode = .search) (count : UInt32)
    {f : Watched σ} (hf : f.heard = []) :
    (∃ set g, (s.plan count cap).plan.resolve cap f = (.ok (.ids set), g) ∧
      s.Asks cap g.heard set) ∨
    (∃ g, (s.plan count cap).plan.resolve cap f = (.ok .empty, g) ∧ s.Talk cap none [] g.heard) ∨
    ∃ e g, (s.plan count cap).plan.resolve cap f = (.error e, g) ∧ s.Talk cap none [] g.heard := by
  obtain hp | ⟨range, hr, hle, hp⟩ | ⟨hr, hp⟩ := plan_of_identifiers h count cap
  · rw [hp]
    exact .inr (.inl ⟨f, rfl, hf ▸ .nothing⟩)
  · rw [hp]
    exact .inl ⟨.range range, f, rfl, hf ▸ .range hr hle⟩
  · rw [hp, Plan.resolve]
    rcases hsearch : Folder.search s.query f with ⟨e | candidates, g⟩
    all_goals
      have hheard := Watched.heard_search hsearch
      rw [hf, List.nil_append] at hheard
    · exact .inr (.inr ⟨e, g, rfl, hheard ▸ .search _ hr⟩)
    · cases hempty : (sliceResults candidates s.skip s.take cap).isEmpty with
      | true =>
        refine .inr (.inl ⟨g, ?_, hheard ▸ .search _ hr⟩)
        simp only [hempty, if_true]
      | false =>
        refine .inl ⟨.list (sliceResults candidates s.skip s.take cap), g, ?_, ?_⟩
        · simp only [hempty, Bool.false_eq_true, if_false]
        · rw [hheard]
          refine .list hr ?_ (ascending_sliceResults _ _ _ _)
            (length_sliceResults_le_limit _ _ _ _) (sliceResults_subset _ _ _ _)
          intro hnil
          rw [hnil] at hempty
          cases hempty

theorem Asks.fetch {before : List Exchange} {set : IdSet} (h : s.Asks cap before set)
    (items : SummaryItems) (answer : Except SessionError (List Summary)) :
    s.Talk cap (some set) [] (before ++ [⟨.fetchIds set items, answer⟩]) :=
  .fetch h rfl .nil fun _ hid ↦ by cases hid

end Spec

namespace Reader

variable [Folder σ] {r : Reader (Watched σ)} {v : Visit} {s : Spec} {cap count : UInt32}

structure Visits (s : Spec) (r : Reader (Watched σ)) (v : Visit) : Prop where
  mode : s.mode = .idRange ∨ s.mode = .search
  planned : ∃ count, v.plan = (s.plan count r.config.searchCap).plan
  silent : r.folder.heard = []

theorem Visits.window_cases (h : Visits s r v) :
    (∃ set f, r.window v = (.ok (.ids set), f) ∧ s.Asks r.config.searchCap f.heard set) ∨
    (∃ f, r.window v = (.ok .empty, f) ∧ s.Talk r.config.searchCap none [] f.heard) ∨
    ∃ e f, r.window v = (.error e, f) ∧ s.Talk r.config.searchCap none [] f.heard := by
  obtain ⟨count, hplan⟩ := h.planned
  rw [window, hplan]
  exact Spec.resolve_cases h.mode count h.silent

theorem summarizing_talk (h : Visits s r v) :
    ∃ set?, s.Talk r.config.searchCap set? [] (r.summarizing v).2.heard ∧
      ∀ found, (r.summarizing v).1.1 = .ok found → found.Pairwise (fun a b ↦ a.id ≤ b.id) ∧
        ∀ x ∈ found, ∃ set, set? = some set ∧ set.Holds x.id := by
  rw [summarizing]
  obtain ⟨set, f, hw, hasks⟩ | ⟨f, hw, htalk⟩ | ⟨e, f, hw, htalk⟩ := h.window_cases
  · simp only [hw, Window.summaries]
    rcases hfetch : Folder.fetchIds set v.spec.items f with ⟨e | found, g⟩
    all_goals
      have htalk := hasks.fetch v.spec.items (Folder.fetchIds set v.spec.items f).1
      rw [hfetch, ← Watched.heard_fetchIds hfetch] at htalk
    · exact ⟨some set, htalk, fun _ hfound ↦ by cases hfound⟩
    · refine ⟨some set, htalk, fun found' hfound ↦ ?_⟩
      obtain rfl := Except.ok.inj hfound
      refine ⟨pairwise_mergeSort_key Summary.id _, fun x hx ↦ ⟨set, rfl, ?_⟩⟩
      have hx := (List.mem_filter.mp (List.mem_mergeSort.mp hx)).2
      exact (IdSet.contains_iff_holds hasks.isAscending x.id).mp hx
  · rw [hw]
    refine ⟨none, htalk, fun found hfound ↦ ?_⟩
    obtain rfl := Except.ok.inj hfound
    exact ⟨.nil, fun x hx ↦ by cases hx⟩
  · rw [hw]
    exact ⟨none, htalk, fun _ hfound ↦ by cases hfound⟩

theorem targets_talk (h : Visits s r v) :
    (∃ set?, s.Talk r.config.searchCap set? [] (r.targets v).2.heard) ∧
      ∀ ts, (r.targets v).1 = .ok ts → ts.newestFirst = false ∧
        ∀ g, (r.targets v).2.ReadsFirst g ts.list →
          ∃ set? ids, s.Talk r.config.searchCap set? ids g.heard := by
  rw [targets]
  obtain ⟨set, f, hw, hasks⟩ | ⟨f, hw, htalk⟩ | ⟨e, f, hw, htalk⟩ := h.window_cases
  · simp only [hw, Window.targets]
    rcases hfetch : Folder.fetchIds set .idOnly f with ⟨e | found, g⟩
    all_goals
      have hheard := Watched.heard_fetchIds hfetch
      have htalk := hasks.fetch .idOnly (Folder.fetchIds set .idOnly f).1
      rw [hfetch, ← hheard] at htalk
    · exact ⟨⟨some set, htalk⟩, fun _ hts ↦ by cases hts⟩
    · refine ⟨⟨some set, htalk⟩, fun ts hts ↦ ?_⟩
      obtain rfl := Except.ok.inj hts
      refine ⟨rfl, fun g' hreads ↦ ?_⟩
      obtain ⟨ts', hprefix, es, hes, hread⟩ := hreads
      obtain ⟨ids, hids, rfl⟩ := List.prefix_map_iff.mp hprefix
      have hsorted := pairwise_mergeSort_key id ((found.map (·.id)).filter set.contains)
      have hasc := (ascending_squeeze hsorted).sublist hids.sublist
      rw [List.map_map] at hread
      rw [hheard, List.append_assoc, List.singleton_append] at hes
      rw [hes]
      refine ⟨some set, ids, .fetch hasks hread hasc fun id hid ↦ ?_⟩
      have hmem := List.mem_mergeSort.mp (mem_squeeze.mp (hids.subset hid))
      obtain ⟨hreported, hset⟩ := List.mem_filter.mp hmem
      exact ⟨(IdSet.contains_iff_holds hasks.isAscending id).mp hset, found, rfl, hreported⟩
  · rw [hw]
    refine ⟨⟨none, htalk⟩, fun ts hts ↦ ?_⟩
    obtain rfl := Except.ok.inj hts
    refine ⟨rfl, fun g hreads ↦ ?_⟩
    obtain ⟨ts', hprefix, es, hes, hread⟩ := hreads
    obtain rfl := List.prefix_nil.mp hprefix
    obtain rfl := List.map_eq_nil_iff.mp hread
    rw [List.append_nil] at hes
    rw [hes]
    exact ⟨none, [], htalk⟩
  · rw [hw]
    exact ⟨⟨none, htalk⟩, fun _ hts ↦ by cases hts⟩

def OnlyReads {α : Type} (errand : Reader (Watched σ) → Visit → (α × Ending) × Watched σ) : Prop :=
  ∀ r v, (∀ e f, r.targets v = (.error e, f) → (errand r v).2 = f) ∧
    ∀ ts f, r.targets v = (.ok ts, f) → ts.newestFirst = false →
      f.ReadsFirst (errand r v).2 ts.list

theorem OnlyFetches.onlyReads {α : Type}
    {errand : Reader (Watched σ) → Visit → (α × Ending) × Watched σ} (h : OnlyFetches errand) :
    OnlyReads errand := by
  intro r v
  obtain ⟨herror, hok⟩ := h r v
  refine ⟨herror, fun ts f hts hascending ↦ Watched.readsFirst_of_fetchesFirst ?_⟩
  have hlist : ts.ascending = ts.list := by
    rw [Targets.ascending, hascending]
    rfl
  exact (hok ts f hts).elim (fun h ↦ h) fun h ↦ hlist ▸ h

theorem onlyReads_retrieving (cancelled : Watched σ → Bool) :
    OnlyReads (retrieving · · cancelled) := (onlyFetches_retrieving cancelled).onlyReads

theorem onlyReads_streaming (cancelled : Watched σ → Bool) (n : Nat) :
    OnlyReads (streaming · · cancelled n) := (onlyFetches_streaming cancelled n).onlyReads

theorem onlyReads_saving {τ : Type} [Sink τ] (dir : String) (cancelled : Watched σ → τ → Bool)
    (s : τ) : OnlyReads (saving · · dir cancelled s) := (onlyFetches_saving dir cancelled s).onlyReads

theorem attend_talk {α : Type} (r : Reader (Watched σ)) (hf : r.folder.heard = [])
    (h : r.spec.mode = .idRange ∨ r.spec.mode = .search) {idle : α} {refused : Error → α}
    {errand : Reader (Watched σ) → Visit → (α × Ending) × Watched σ} (herrand : OnlyReads errand) :
    ∃ set? ids, r.spec.Talk r.config.searchCap set? ids
      (r.attend idle refused errand).2.folder.heard := by
  have hsilent : ∃ set? ids, r.spec.Talk r.config.searchCap set? ids r.folder.heard := by
    rw [hf]
    exact ⟨none, [], .nothing⟩
  refine attend_watched r (fun _ heard ↦ ∃ set? ids, r.spec.Talk r.config.searchCap set? ids heard)
    (fun _ ↦ hsilent) (fun _ _ _ _ ↦ hsilent) ?_
  intro v r' _ henter hheard
  obtain ⟨hplanned, hconfig⟩ := enter_ok henter
  rw [← hconfig] at hplanned ⊢
  obtain ⟨⟨set?, hunread⟩, hread⟩ := targets_talk ⟨h, hplanned, hheard.trans hf⟩
  obtain ⟨herror, hok⟩ := herrand r' v
  rcases hts : r'.targets v with ⟨e | ts, f⟩
  · rw [hts] at hunread
    rw [herror e f hts]
    exact ⟨set?, [], hunread⟩
  · rw [hts] at hread
    obtain ⟨hascending, hread⟩ := hread ts rfl
    exact hread _ (hok ts f hts hascending)

theorem fetchSummaries_talk (r : Reader (Watched σ)) (hf : r.folder.heard = [])
    (h : r.spec.mode = .idRange ∨ r.spec.mode = .search) :
    ∃ set?, r.spec.Talk r.config.searchCap set? [] r.fetchSummaries.2.folder.heard ∧
      ∀ found, r.fetchSummaries.1 = .ok found → found.Pairwise (fun a b ↦ a.id ≤ b.id) ∧
        ∀ x ∈ found, ∃ set, set? = some set ∧ set.Holds x.id := by
  rw [fetchSummaries_eq_attend]
  refine attend_watched r (fun (result : Except Error (List Summary)) heard ↦
    ∃ set?, r.spec.Talk r.config.searchCap set? [] heard ∧
      ∀ found, result = .ok found → found.Pairwise (fun a b ↦ a.id ≤ b.id) ∧
        ∀ x ∈ found, ∃ set, set? = some set ∧ set.Holds x.id) ?_ ?_ ?_
  · intro _
    rw [hf]
    refine ⟨none, .nothing, fun found hfound ↦ ?_⟩
    obtain rfl := Except.ok.inj hfound
    exact ⟨.nil, fun x hx ↦ by cases hx⟩
  · intro e r' _ _
    rw [hf]
    exact ⟨none, .nothing, fun _ hfound ↦ by cases hfound⟩
  · intro v r' _ henter hheard
    obtain ⟨hplanned, hconfig⟩ := enter_ok henter
    rw [← hconfig] at hplanned ⊢
    exact summarizing_talk ⟨h, hplanned, hheard.trans hf⟩

/-- Whatever a server answers, a call by identifiers asks for those of the range, if it is not
inverted, or for an ascending list of some of the search results, no more than are taken and no more
than the cap. The summaries returned are of that set and ascend; the messages read are of that set
and were reported, and each is read once, in ascending order. -/
theorem calls_keep_to_identifiers (r : Reader σ)
    (h : r.spec.mode = .idRange ∨ r.spec.mode = .search) :
    let summaries := r.watched.fetchSummaries
    (r.fetchSummaries = (summaries.1, summaries.2.mapFolder (·.inner)) ∧
      ∃ set?, r.spec.Talk r.config.searchCap set? [] summaries.2.folder.heard ∧
        ∀ found, summaries.1 = .ok found → found.Pairwise (fun a b ↦ a.id ≤ b.id) ∧
          ∀ x ∈ found, ∃ set, set? = some set ∧ set.Holds x.id) ∧
    (∀ cancelled : σ → Bool,
      let call := r.watched.fetchMessages (fun f ↦ cancelled f.inner)
      r.fetchMessages cancelled = (call.1, call.2.mapFolder (·.inner)) ∧
      ∃ set? ids, r.spec.Talk r.config.searchCap set? ids call.2.folder.heard) ∧
    (∀ (cancelled : σ → Bool) n,
      let call := r.watched.streamMessages (fun f ↦ cancelled f.inner) n
      r.streamMessages cancelled n = (call.1, call.2.mapFolder (·.inner)) ∧
      ∃ set? ids, r.spec.Talk r.config.searchCap set? ids call.2.folder.heard) ∧
    ∀ (τ : Type) [Sink τ] dir create (cancelled : σ → τ → Bool) s,
      let call := r.watched.saveAll dir create (fun f ↦ cancelled f.inner) s
      r.saveAll dir create cancelled s = (call.1, call.2.1.mapFolder (·.inner), call.2.2) ∧
      ∃ set? ids, r.spec.Talk r.config.searchCap set? ids call.2.1.folder.heard := by
  intro summaries
  have hom : Folder.Hom (Watched.inner : Watched σ → σ) := Watched.hom_inner
  refine ⟨⟨fetchSummaries_mapFolder hom r.watched, fetchSummaries_talk r.watched rfl h⟩,
    fun cancelled ↦ ⟨fetchMessages_mapFolder hom cancelled r.watched, ?_⟩,
    fun cancelled n ↦ ⟨streamMessages_mapFolder hom cancelled n r.watched, ?_⟩,
    fun τ _ dir create cancelled s ↦ ⟨saveAll_mapFolder hom dir create cancelled s r.watched, ?_⟩⟩
  · rw [fetchMessages_eq_attend]
    exact attend_talk r.watched rfl h (onlyReads_retrieving _)
  · cases n with
    | zero => exact ⟨none, [], .nothing⟩
    | succ n =>
      rw [streamMessages_eq_attend]
      exact attend_talk r.watched rfl h (onlyReads_streaming _ _)
  · rw [saveAll_eq_prepare]
    rcases Sink.prepare dir create s with ⟨e | _, s'⟩
    · exact ⟨none, [], .nothing⟩
    · simp only [saveWindow_eq_attend]
      exact attend_talk r.watched rfl h (onlyReads_saving _ _ _)

def unruly : WaywardFolder where
  inner := .gapped
  conduct := { sendsAll := true, duplicates := true, reverses := true }

theorem calls_keep_to_identifiers_unruly :
    let r : Reader WaywardFolder := { folder := unruly, spec := { idRange := some ⟨⟨3⟩, ⟨9⟩⟩ } }
    let call := r.watched.fetchMessages fun _ ↦ false
    call.2.folder.tried = [.id ⟨3⟩, .id ⟨5⟩, .id ⟨9⟩] ∧
      ∃ set? ids, r.spec.Talk r.config.searchCap set? ids call.2.folder.heard := by
  intro r call
  obtain ⟨-, hmessages, -⟩ := calls_keep_to_identifiers r (.inl rfl)
  refine ⟨?_, (hmessages fun _ ↦ false).2⟩
  dsimp only [call, r]
  cbv

end Reader

end MailWindow
