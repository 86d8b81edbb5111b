import MailWindow.Proofs.Changes

namespace MailWindow

variable {α : Type}

theorem length_sliceResults_le (candidates : List MessageId) (skip : UInt32) (take : Take)
    (cap : UInt32) : (sliceResults candidates skip take cap).length ≤
      candidates.length - skip.toNat := by
  have hsqueeze := (squeeze_sublist (candidates.mergeSort fun a b ↦ b ≤ a)).length_le
  rw [List.length_mergeSort] at hsqueeze
  rw [sliceResults, List.length_reverse]
  refine (List.length_take_le' _ _).trans ?_
  rw [List.length_drop]
  omega

theorem IdRange.stop_lt_of_next? {range next : IdRange} (h : range.next? = some next) :
    range.stop < next.stop := by
  obtain ⟨hstart, hle⟩ := lt_start_of_next? h
  unfold next? at h
  split at h
  · cases h
  · obtain rfl := Option.some.inj h
    have hstart : range.stop.val.toNat < (range.stop.val + 1).toNat :=
      MessageId.lt_iff_toNat.mp hstart
    rw [MessageId.le_iff_toNat] at hle
    have hwidth : (range.stop.val + 1 - range.start.val).toNat =
        (range.stop.val + 1).toNat - range.start.val.toNat := by
      refine UInt32.toNat_sub_of_le _ _ ?_
      rw [UInt32.le_iff_toNat_le]
      omega
    have hlt := (range.stop.val + 1).toNat_lt_size
    have hstop := MessageId.toNat_addOrTop range.stop (range.stop.val + 1 - range.start.val)
    rw [hwidth] at hstop
    change range.stop < range.stop.addOrTop (range.stop.val + 1 - range.start.val)
    rw [MessageId.lt_iff_toNat, hstop]
    omega

namespace Spec

variable {s : Spec} {returned : Nat} {count : UInt32}

/-- How far a spec can still move on: a range by its end, and everything else by its offset. -/
def remaining (s : Spec) : Nat :=
  UInt32.size - s.idRange.elim s.skip.toNat fun range ↦ range.stop.val.toNat

theorem remaining_pos (s : Spec) : 0 < s.remaining := by
  unfold remaining
  cases s.idRange with
  | none =>
    have hlt := s.skip.toNat_lt_size
    exact Nat.sub_pos_of_lt hlt
  | some range =>
    have hlt := range.stop.val.toNat_lt_size
    exact Nat.sub_pos_of_lt hlt

theorem remaining_le (s : Spec) : s.remaining ≤ UInt32.size := Nat.sub_le _ _

theorem mode_of_idRange_eq_none (hr : s.idRange = none) :
    (s.mode = .search ∨ s.mode = .index) ∨ s.mode = .newest := by
  cases hq : s.query.isAll with
  | false => exact .inl (.inl (mode_search hr hq))
  | true =>
    cases hn : s.newest with
    | none => exact .inl (.inr (mode_index hr hq hn))
    | some n => exact .inr (mode_newest hr hq hn)

theorem advance_newest_stops :
    (s.advance .newest returned count).spec.continuous = false := by
  refine Bool.eq_false_iff.mpr fun hc ↦ ?_
  obtain ⟨hs, hreturned⟩ := advance_pending hc
  have hend : s.advance .newest returned count = .exhausted s.stopped := by
    simp [advance, hs, hreturned]
  rw [hend] at hc
  cases hc

theorem advance_cases (s : Spec) (mode : Mode) (returned : Nat) (count : UInt32) :
    (s.continuous = false ∧ s.advance mode returned count = .stopped s) ∨
    s.advance mode returned count = .exhausted s.stopped ∨
    ∃ idRange skip, s.continuous = true ∧
      s.advance mode returned count = .next { s with idRange, skip } := by
  cases hs : s.continuous with
  | false => exact .inl ⟨rfl, by simp [advance, hs]⟩
  | true =>
    by_cases hr : returned = 0
    · exact .inr (.inl (hr ▸ advance_zero hs mode))
    · cases mode with
      | newest => exact .inr (.inl (by simp [advance, hs, hr]))
      | idRange =>
        cases hn : s.idRange.bind IdRange.next? with
        | none => exact .inr (.inl (by simp [advance, hs, hr, hn]))
        | some range =>
          exact .inr (.inr ⟨some range, s.skip, rfl, by simp [advance, hs, hr, hn]⟩)
      | search | index =>
        cases hn : s.nextSkip? with
        | none => exact .inr (.inl (by simp [advance, hs, hr, hn]))
        | some skip =>
          exact .inr (.inr ⟨s.idRange, min skip count, rfl, by simp [advance, hs, hr, hn]⟩)

theorem advance_isPending (s : Spec) (mode : Mode) (returned : Nat) (count : UInt32) :
    (s.advance mode returned count).isPending =
      (s.advance mode returned count).spec.continuous := by
  obtain ⟨hs, h⟩ | h | ⟨idRange, skip, hs, h⟩ := s.advance_cases mode returned count <;> rw [h]
  · exact hs.symm
  · rfl
  · exact hs.symm

theorem advance_take (s : Spec) (mode : Mode) (returned : Nat) (count : UInt32) :
    (s.advance mode returned count).spec.take = s.take := by
  obtain ⟨-, h⟩ | h | ⟨idRange, skip, -, h⟩ := s.advance_cases mode returned count <;> rw [h] <;> rfl

theorem remaining_advance_idRange_lt {range : IdRange} (hr : s.idRange = some range)
    (hc : (s.advance .idRange returned count).spec.continuous = true) :
    (s.advance .idRange returned count).spec.remaining < s.remaining := by
  obtain ⟨next, hnext, hspec⟩ := advance_idRange_pending hc hr
  have hlt := MessageId.lt_iff_toNat.mp (IdRange.stop_lt_of_next? hnext)
  have hsize := next.stop.val.toNat_lt_size
  rw [hspec, remaining, remaining, hr]
  simp only [Option.elim_some]
  omega

/-- An offset before the end of the folder moves on, even if the folder holds more messages than can
be counted. -/
theorem remaining_advance_offset_lt {mode : Mode} (hm : mode = .search ∨ mode = .index)
    (hr : s.idRange = none) {m : Nat} (hs : s.skip.toNat < m)
    (hcount : count.toNat = min m (UInt32.size - 1))
    (hc : (s.advance mode returned count).spec.continuous = true) :
    (s.advance mode returned count).spec.remaining < s.remaining := by
  obtain ⟨n, skip, -, hn, hadd, hspec⟩ := advance_offset_pending hm hc
  have hpos := Word.toNat_pos hn
  have hskip := Word.toNat_of_add? hadd
  have hlt := skip.toNat_lt_size
  rw [hspec, remaining, remaining, hr]
  simp only [Option.elim_none]
  rw [Word.toNat_min, hskip, hcount]
  omega

end Spec

namespace MemoryFolder

variable {f : MemoryFolder}

theorem filter_indices_eq_nil {range : IndexRange}
    (hnone : (f.entries.drop range.start.toNat).take range.size = []) :
    f.entries.filter (fun e ↦ range.contains (.ofNat e.2)) = [] := by
  apply List.filter_eq_nil_iff.mpr
  intro e he hin
  have hlast := snd_lt_of_mem_entries he
  have hlt := range.start.toNat_lt_size
  have hstart : f.messages.length ≤ range.start.toNat := by
    rw [List.take_eq_nil_iff, List.drop_eq_nil_iff, length_entries, IndexRange.size] at hnone
    omega
  simp only [IndexRange.contains, Bool.and_eq_true, decide_eq_true_eq, UInt32.le_iff_toNat_le,
    UInt32.toNat_ofNat_of_lt' (show e.2 < UInt32.size by omega)] at hin
  omega

theorem summaries_of_faultless (hf : f.faults = []) (ho : f.isOpen = true) (items : SummaryItems)
    (w : Window) : ∃ found cs, w.summaries items f = (.ok found, f.logs cs) ∧
      (w.contents f = [] → found = []) := by
  cases w with
  | empty => exact ⟨[], [], by rw [logs_nil]; rfl, fun _ ↦ rfl⟩
  | ids set =>
    refine ⟨_, _, by rw [Window.summaries, fetchIds_of_open hf ho], ?_⟩
    intro hnone
    rw [show f.entries.filter (fun e ↦ set.contains e.1.id) = [] from hnone]
    exact List.mergeSort_nil
  | indices range | newest range =>
    refine ⟨_, _, by rw [Window.summaries, fetchIndices_of_open hf ho], ?_⟩
    intro hnone
    rw [filter_indices_eq_nil hnone]
    exact List.mergeSort_nil

end MemoryFolder

namespace Reader

open MemoryFolder

variable {σ : Type} [Folder σ]

/-- A loop that fetches as long as the spec is continuous: what its calls return, and the reader
after it. -/
inductive Exhausts : Reader σ → List (List Summary) → Reader σ → Prop
  | ended {r : Reader σ} : r.spec.continuous = false → Exhausts r [] r
  | call {r r' r'' : Reader σ} {batch : List Summary} {batches : List (List Summary)} :
      r.spec.continuous = true → r.fetchSummaries = (.ok batch, r') → Exhausts r' batches r'' →
      Exhausts r (batch :: batches) r''

theorem not_exhausts_of_isZero {r : Reader σ} (hc : r.spec.continuous = true)
    (ht : r.spec.take.isZero = true) {batches : List (List Summary)} {r' : Reader σ} :
    ¬r.Exhausts batches r' := by
  intro h
  induction h with
  | ended hover => exact absurd hc (Bool.eq_false_iff.mp hover)
  | @call r r' r'' batch batches _ he _ ih =>
    have hidle : r.fetchSummaries = (.ok [], r) := if_pos ht
    obtain ⟨-, rfl⟩ := Prod.mk.inj (hidle.symm.trans he)
    exact ih hc ht

variable {r r' : Reader MemoryFolder}

theorem skip_lt_of_contents_ne_nil (ht : r.spec.take ≠ .count 0) (hr : r.spec.idRange = none)
    (hm : r.spec.mode = .search ∨ r.spec.mode = .index) (hne : r.contents ≠ []) :
    r.spec.skip.toNat < r.folder.messages.length ∧
      (r.spec.plan (Folder.count r.folder) r.config.searchCap).spec = r.spec := by
  cases hq : r.spec.query.isAll with
  | false =>
    obtain ⟨hspec, hplan⟩ :=
      @Spec.plan_search r.spec (Folder.count r.folder) r.config.searchCap ht hr hq
    refine ⟨?_, hspec⟩
    rw [contents, visit, hplan] at hne
    split at hne
    · exact absurd rfl hne
    · -- some result is left after the skipped ones
      have hsome : sliceResults (r.folder.results r.spec.query) r.spec.skip r.spec.take
          r.config.searchCap ≠ [] := by
        intro hnone
        apply hne
        rw [Plan.contents, hnone]
        exact List.filter_eq_nil_iff.mpr fun e _ ↦ by simp [IdSet.contains, halve]
      have hlength := length_sliceResults_le (r.folder.results r.spec.query) r.spec.skip
        r.spec.take r.config.searchCap
      have hresults := length_results_le r.folder r.spec.query
      have hpos := List.length_pos_iff.mpr hsome
      omega
  | true =>
    cases hn : r.spec.newest with
    | some n =>
      rw [Spec.mode_newest hr hq hn] at hm
      rcases hm with hm | hm <;> cases hm
    | none =>
      by_cases hs : r.spec.skip < Folder.count r.folder
      · have hcount := toNat_count_eq_min r.folder
        rw [Spec.plan_index ht hr hq hn hs]
        rw [UInt32.lt_iff_toNat_lt] at hs
        exact ⟨by omega, rfl⟩
      · exact absurd (contents_beyond ht hr hq hn hs).1 hne

theorem fetchSummaries_advanced (hf : r.folder.faults = []) (ht : r.spec.take ≠ .count 0) :
    ∃ found reads r', r.fetchSummaries = (.ok found, r') ∧ r.Advanced found.length reads r' ∧
      (r.contents = [] → found = []) := by
  obtain ⟨w, cs, hw, hcontents⟩ := window_of_inside hf
  obtain ⟨found, ds, hs, hnone⟩ := summaries_of_faultless (faults_during hf cs)
    (r.isOpen_during cs) r.visit.spec.items w
  rw [hcontents] at hnone
  have herrand : r.inside.summarizing r.visit =
      ((.ok found, .done found.length), r.during (cs ++ ds)) := by
    rw [during, logs_logs] at hs
    simp only [summarizing, hw, during, hs]
  have hselect : Fault.select ∉ r.folder.faults := by simp [hf]
  have hclose : Fault.close ∉ r.folder.faults := by simp [hf]
  refine ⟨found, _, _, ?_, r.visited_outside _ _ (cs ++ ds), hnone⟩
  rw [fetchSummaries_eq_attend]
  exact attend_of_accessible (.inr hselect) hclose (Spec.isZero_eq_false ht) herrand

theorem advanced_of_fetched (hf : r.folder.faults = []) (ht : r.spec.take ≠ .count 0)
    {batch : List Summary} (he : r.fetchSummaries = (.ok batch, r')) :
    ∃ reads, r.Advanced batch.length reads r' ∧ (r.contents = [] → batch = []) := by
  obtain ⟨found, reads, r₁, hcall, hadvanced, hnone⟩ := fetchSummaries_advanced hf ht
  obtain ⟨hfound, rfl⟩ := Prod.mk.inj (hcall.symm.trans he)
  obtain rfl := Except.ok.inj hfound
  exact ⟨reads, hadvanced, hnone⟩

theorem Advanced.take {returned : Nat} {reads : List Call} (h : r.Advanced returned reads r') :
    r'.spec.take = r.spec.take := by
  rw [h.spec, following, Spec.advance_take]
  have hspec := Spec.plan_spec_eq r.spec (Folder.count r.folder) r.config.searchCap
  rcases hspec with hs | hs <;> rw [hs]

/-- The step of the loop: where the spec is continuous after a call, it has less ahead of it. -/
theorem Advanced.remaining_lt {returned : Nat} {reads : List Call}
    (h : r.Advanced returned reads r') (ht : r.spec.take ≠ .count 0)
    (hreturned : r.contents = [] → returned = 0) (hc : r'.spec.continuous = true) :
    r'.spec.remaining < r.spec.remaining := by
  have hspec := h.spec
  rw [hspec] at hc
  have hne : r.contents ≠ [] := fun hnone ↦ (Spec.advance_pending hc).2 (hreturned hnone)
  rw [hspec]
  cases hr : r.spec.idRange with
  | some range =>
    rw [following_idRange ht hr] at hc ⊢
    exact Spec.remaining_advance_idRange_lt hr hc
  | none =>
    rcases Spec.mode_of_idRange_eq_none hr with hm | hm
    · obtain ⟨hskip, hplan⟩ := skip_lt_of_contents_ne_nil ht hr hm hne
      rw [following, hplan] at hc ⊢
      exact Spec.remaining_advance_offset_lt hm hr hskip (toNat_count_eq_min r.folder) hc
    · rw [following, hm, Spec.advance_newest_stops] at hc
      cases hc

theorem Advanced.finished {returned : Nat} {reads : List Call} (h : r.Advanced returned reads r')
    (hc : r'.spec.continuous = false) : r.Finished r' := by
  have hpending : (r.following returned).isPending = false := by
    rw [following, Spec.advance_isPending, ← hc, h.spec]
    rfl
  refine ⟨h.stored, hc, ?_, ?_⟩
  · rw [h.retained, hpending, Bool.and_false]
  · rw [h.isOpen, hpending, Bool.or_false]

theorem Finished.of_follows {r'' : Reader MemoryFolder} (h : r'.Finished r'') (hr : r.Follows r') :
    r.Finished r'' :=
  ⟨h.stored.trans hr.stored, h.continuous, h.retained, h.isOpen.trans hr.borrowed⟩

/-- The run of the loop: it makes no more calls than the spec has ahead of it, none but the last
comes back empty, and the folder is left as it was found. -/
theorem Exhausts.bounded {batches : List (List Summary)} (h : r.Exhausts batches r')
    (hf : r.folder.faults = []) (hc : r.spec.continuous = true) :
    batches.length ≤ r.spec.remaining ∧ [] ∉ batches.dropLast ∧ r.Finished r' := by
  induction h with
  | ended hover => exact absurd hc (Bool.eq_false_iff.mp hover)
  | @call r r' r'' batch batches _ he hrest ih =>
    have ht : r.spec.take ≠ .count 0 := fun ht ↦
      not_exhausts_of_isZero hc (decide_eq_true ht) (.call hc he hrest)
    obtain ⟨reads, hadvanced, hnone⟩ := advanced_of_fetched hf ht he
    cases hc' : r'.spec.continuous with
    | false =>
      have hpos := r.spec.remaining_pos
      cases hrest with
      | ended => exact ⟨hpos, by simp, hadvanced.finished hc'⟩
      | call hcontinuous => exact absurd hcontinuous (Bool.eq_false_iff.mp hc')
    | true =>
      have hlt := hadvanced.remaining_lt ht (fun h ↦ congrArg List.length (hnone h)) hc'
      obtain ⟨hlength, hfull, hfinished⟩ :=
        ih ((faults_of_stored hadvanced.stored).trans hf) hc'
      have hne : batches ≠ [] := by
        rintro rfl
        cases hrest with
        | ended hover => exact absurd hc' (Bool.eq_false_iff.mp hover)
      have hfound : [] ≠ batch := by
        rintro rfl
        rw [hadvanced.spec] at hc'
        exact (Spec.advance_pending hc').2 rfl
      refine ⟨?_, ?_, hfinished.of_follows ((Follows.refl r).next hadvanced)⟩
      · rw [List.length_cons]
        omega
      · rw [List.dropLast_cons_of_ne_nil hne, List.mem_cons, not_or]
        exact ⟨hfound, hfull⟩

theorem exists_exhausts (hf : r.folder.faults = []) (ht : r.spec.take ≠ .count 0) :
    ∃ batches r', r.Exhausts batches r' := by
  induction hn : r.spec.remaining using Nat.strong_induction_on generalizing r with
  | h n ih =>
    cases hc : r.spec.continuous with
    | false => exact ⟨[], r, .ended hc⟩
    | true =>
      obtain ⟨found, reads, r', hcall, hadvanced, hnone⟩ := fetchSummaries_advanced hf ht
      cases hc' : r'.spec.continuous with
      | false => exact ⟨[found], r', .call hc hcall (.ended hc')⟩
      | true =>
        have hlt := hadvanced.remaining_lt ht (fun h ↦ congrArg List.length (hnone h)) hc'
        obtain ⟨batches, r'', hrest⟩ := ih _ (hn ▸ hlt)
          ((faults_of_stored hadvanced.stored).trans hf) (hadvanced.take ▸ ht) rfl
        exact ⟨found :: batches, r'', .call hc hcall hrest⟩

/-- The loop ends, after finitely many calls, unless the spec is continuous and takes nothing: then
each call leaves the reader as it is. A loop that ends makes no more calls than there are words, all
but the last of them return something, and the folder is left as it was found. -/
theorem exhausts_iff (hf : r.folder.faults = []) :
    ((∃ batches r', r.Exhausts batches r') ↔
      ¬(r.spec.continuous = true ∧ r.spec.take = .count 0)) ∧
    ∀ batches r', r.Exhausts batches r' → batches.length ≤ UInt32.size ∧ [] ∉ batches.dropLast ∧
      (r.spec.continuous = true → r.Finished r') := by
  refine ⟨⟨?_, ?_⟩, ?_⟩
  · rintro ⟨batches, r', h⟩ ⟨hc, ht⟩
    exact not_exhausts_of_isZero hc (decide_eq_true ht) h
  · intro hstuck
    cases hc : r.spec.continuous with
    | false => exact ⟨[], r, .ended hc⟩
    | true => exact exists_exhausts hf fun ht ↦ hstuck ⟨hc, ht⟩
  · intro batches r' h
    cases hc : r.spec.continuous with
    | false =>
      cases h with
      | ended => exact ⟨Nat.zero_le _, List.not_mem_nil, fun h ↦ nomatch h⟩
      | call hcontinuous => exact absurd hcontinuous (Bool.eq_false_iff.mp hc)
    | true =>
      obtain ⟨hlength, hfull, hfinished⟩ := h.bounded hf hc
      exact ⟨hlength.trans r.spec.remaining_le, hfull, fun _ ↦ hfinished⟩

theorem exhausts_iff_gapped : ∃ batches r',
    ({ folder := gapped, spec := { take := .count 4, continuous := true } } :
      Reader MemoryFolder).Exhausts batches r' ∧
    batches.length ≤ UInt32.size ∧ r'.retained = false ∧ r'.folder.isOpen = false := by
  obtain ⟨hends, hend⟩ := exhausts_iff
    (r := { folder := gapped, spec := { take := .count 4, continuous := true } }) rfl
  obtain ⟨batches, r', h⟩ := hends.mpr (by decide)
  obtain ⟨hlength, -, hfinished⟩ := hend batches r' h
  exact ⟨batches, r', h, hlength, (hfinished rfl).retained, (hfinished rfl).isOpen⟩

/-- A count of nothing is an accepted setting, also of a continuous spec. -/
theorem not_exhausts_nothing_taken : ∃ spec, ({} : Spec).withTake 0 true = .ok spec ∧
    ¬∃ batches r', ({ folder := gapped, spec } : Reader MemoryFolder).Exhausts batches r' :=
  ⟨_, rfl, fun ⟨_, _, h⟩ ↦ not_exhausts_of_isZero rfl rfl h⟩

end Reader

end MailWindow
