import MailWindow.Proofs.Drains

namespace MailWindow

open MemoryFolder

section Pieces

variable {α : Type} {n : Nat}

/-- A list in pieces of width `n`, from an offset on; the last piece may be shorter. -/
def pieces (l : List α) (s n : Nat) : List (List α) :=
  (List.range ((l.length - s + n - 1) / n)).map fun k ↦ (l.drop (s + k * n)).take n

theorem lt_count_iff (hn : 0 < n) (m s k : Nat) : k < (m - s + n - 1) / n ↔ s + k * n < m := by
  rw [Nat.lt_iff_add_one_le, Nat.le_div_iff_mul_le hn, Nat.succ_mul]
  omega

theorem length_pieces_le (hn : 0 < n) (l : List α) (s : Nat) : (pieces l s n).length ≤ l.length := by
  rw [pieces, List.length_map, List.length_range]
  refine Nat.le_of_not_lt fun h ↦ ?_
  have hlt := (lt_count_iff hn _ _ _).mp h
  have hle := Nat.le_mul_of_pos_right l.length hn
  omega

theorem flatten_consecutive (l : List α) (n c : Nat) :
    ((List.range c).map fun k ↦ (l.drop (k * n)).take n).flatten = l.take (c * n) := by
  induction c with
  | zero => simp
  | succ c ih =>
    rw [List.range_succ, List.map_append, List.flatten_append, ih, Nat.succ_mul, List.take_add]
    simp

theorem flatten_pieces (hn : 0 < n) (l : List α) (s : Nat) : (pieces l s n).flatten = l.drop s := by
  have hend : ¬s + (l.length - s + n - 1) / n * n < l.length := fun h ↦
    Nat.lt_irrefl _ ((lt_count_iff hn _ _ _).mpr h)
  simp only [pieces, ← List.drop_drop]
  rw [flatten_consecutive]
  refine List.take_of_length_le ?_
  rw [List.length_drop]
  omega

theorem pieces_sublist {l : List α} {s : Nat} {piece : List α} (h : piece ∈ pieces l s n) :
    piece.Sublist l := by
  obtain ⟨k, -, rfl⟩ := List.mem_map.mp h
  exact (List.take_sublist _ _).trans (List.drop_sublist _ _)

theorem flatten_map_reverse_perm (ls : List (List α)) :
    (ls.map List.reverse).flatten.Perm ls.flatten := by
  induction ls with
  | nil => exact .refl _
  | cons l ls ih => exact (List.reverse_perm l).append ih

end Pieces

theorem flatten_summarize_pieces_perm {n : Nat} (hn : 0 < n) (items : SummaryItems)
    (es : List (Stored × Nat)) (s : Nat) :
    ((pieces es s n).map fun piece ↦ summarize items piece.reverse).flatten.Perm
      (summarize items (es.drop s)) := by
  have hp := (flatten_map_reverse_perm (pieces es s n)).map fun e ↦ e.1.summary (.ofNat e.2) items
  rwa [flatten_pieces hn, List.map_flatten, List.map_map] at hp

theorem MemoryFolder.pairwise_id_of_mem_pieces {f : MemoryFolder} (h : f.ids.Pairwise (· < ·))
    (items : SummaryItems) {q : Query} {s n : Nat} {batch : List Summary}
    (hb : batch ∈ (pieces (f.candidates q).reverse s n).map
      fun piece ↦ summarize items piece.reverse) : batch.Pairwise fun a b ↦ a.id < b.id := by
  obtain ⟨piece, hp, rfl⟩ := List.mem_map.mp hb
  have hs := (pieces_sublist hp).reverse
  rw [List.reverse_reverse] at hs
  exact summarize_pairwise_id h items (hs.trans (candidates_sublist f q))

namespace Spec

variable {s : Spec} {returned : Nat} {count : UInt32}

section Offsets

variable {mode : Mode} {n : UInt32} (hm : mode = .search ∨ mode = .index)
  (hc : s.continuous = true) (ht : s.take = .count n) (hn : n ≠ 0) (hr : returned ≠ 0)

include hm hc ht hn hr

theorem advance_of_add?_eq_some {skip : UInt32} (ha : Word.add? s.skip n = some skip) :
    s.advance mode returned count = .next { s with skip := min skip count } := by
  rcases hm with rfl | rfl <;> simp [advance, hc, hr, nextSkip?, ht, hn, ha]

theorem advance_of_add?_eq_none (ha : Word.add? s.skip n = none) :
    s.advance mode returned count = .exhausted s.stopped := by
  rcases hm with rfl | rfl <;> simp [advance, hc, hr, nextSkip?, ht, hn, ha]

end Offsets

end Spec

namespace Reader

structure AtOffset (r₀ : Reader MemoryFolder) (o : Nat) (r : Reader MemoryFolder) : Prop
    extends Follows r₀ r where
  spec : r.spec = { r₀.spec with skip := r.spec.skip }
  skip : r.spec.skip.toNat = o

variable {r₀ r r' : Reader MemoryFolder} {o returned : Nat} {reads : List Call}

theorem AtOffset.refl (r : Reader MemoryFolder) : r.AtOffset r.spec.skip.toNat r :=
  ⟨.refl r, rfl, rfl⟩

theorem AtOffset.take (h : r₀.AtOffset o r) : r.spec.take = r₀.spec.take := by rw [h.spec]

theorem AtOffset.continuous (h : r₀.AtOffset o r) : r.spec.continuous = r₀.spec.continuous := by
  rw [h.spec]

theorem AtOffset.mode (h : r₀.AtOffset o r) : r.spec.mode = r₀.spec.mode := by
  rw [h.spec, Spec.mode_skip]

theorem AtOffset.next (h : r₀.AtOffset o r) (ha : r.Advanced returned reads r') {skip : UInt32}
    (hs : r.following returned = .next { r.spec with skip }) : r₀.AtOffset skip.toNat r' := by
  have hspec : r'.spec = { r.spec with skip } := ha.spec.trans (congrArg Continuation.spec hs)
  refine ⟨h.toFollows.next ha, ?_, ?_⟩
  · rw [hspec, h.spec]
  · rw [hspec]

theorem AtOffset.moved {n : UInt32} (hc : r₀.spec.continuous = true)
    (ht : r₀.spec.take = .count n) (hn : n ≠ 0)
    (hmode : r₀.spec.mode = .search ∨ r₀.spec.mode = .index) (ha : r₀.AtOffset o r)
    (hplan : (r.spec.plan (Folder.count r.folder) r.config.searchCap).spec = r.spec)
    (hr : returned ≠ 0) (hr' : r.Advanced returned reads r') :
    if o + n.toNat < UInt32.size then
      r₀.AtOffset (min (o + n.toNat) (Folder.count r₀.folder).toNat) r'
    else r.following returned = .exhausted r.spec.stopped := by
  have hmode : r.spec.mode = .search ∨ r.spec.mode = .index := ha.mode ▸ hmode
  have hc := ha.continuous.trans hc
  have ht := ha.take.trans ht
  cases hadd : Word.add? r.spec.skip n with
  | some skip =>
    have hskip := Word.toNat_of_add? hadd
    have hf : r.following returned =
        .next { r.spec with skip := min skip (Folder.count r.folder) } := by
      rw [following, hplan, Spec.advance_of_add?_eq_some hmode hc ht hn hr hadd]
    have hnext := ha.next hr' hf
    rw [Word.toNat_min, hskip, ha.skip, count_of_stored ha.stored] at hnext
    rw [ha.skip] at hskip
    rwa [if_pos (hskip ▸ skip.toNat_lt_size)]
  | none =>
    have hsize := Word.size_le_of_add?_eq_none hadd
    rw [ha.skip] at hsize
    rw [if_neg (Nat.not_lt_of_le hsize), following, hplan,
      Spec.advance_of_add?_eq_none hmode hc ht hn hr hadd]

section Offsets

variable {n : UInt32} (hl : r₀.folder.messages.length < UInt32.size)
  (hc : r₀.spec.continuous = true) (ht : r₀.spec.take = .count n) (hn : n ≠ 0)
  (hmode : r₀.spec.mode = .search ∨ r₀.spec.mode = .index)

include hl hc ht hn hmode

theorem AtOffset.advanced (ha : r₀.AtOffset o r)
    (hplan : (r.spec.plan (Folder.count r.folder) r.config.searchCap).spec = r.spec)
    (hr : returned ≠ 0) (hr' : r.Advanced returned reads r') :
    r₀.AtOffset (min (o + n.toNat) r₀.folder.messages.length) r' ∨
      UInt32.size ≤ o + n.toNat ∧ r₀.Finished r' := by
  have hmoved := ha.moved hc ht hn hmode hplan hr hr'
  rw [toNat_count hl] at hmoved
  split at hmoved
  · exact .inl hmoved
  · exact .inr ⟨by omega, ha.toFollows.finished hr' hmoved⟩

theorem drains_of_offsets {m : Nat} (window : Nat → List (Stored × Nat))
    (hm : m ≤ r₀.folder.messages.length) (hw : ∀ o, window o = [] ↔ m ≤ o)
    (hplan : ∀ o r, r₀.AtOffset o r → o < m →
      (r.spec.plan (Folder.count r.folder) r.config.searchCap).spec = r.spec)
    (hcall : ∀ o r, r₀.AtOffset o r → ∃ reads r',
      r.fetchSummaries = (.ok (summarize r₀.spec.items (window o)), r') ∧
      r.Advanced (window o).length reads r') :
    ∃ r', r₀.Drains ((List.range ((m - r₀.spec.skip.toNat + n.toNat - 1) / n.toNat)).map fun k ↦
        summarize r₀.spec.items (window (r₀.spec.skip.toNat + k * n.toNat))) r' ∧
      r₀.Finished r' := by
  have hcount := lt_count_iff (Word.toNat_pos hn) m r₀.spec.skip.toNat
  -- the offset is the one counted from the start, unless both are past the end
  refine drains_of_chain (fun k r ↦ ∃ o, r₀.AtOffset o r ∧ (o = r₀.spec.skip.toNat + k * n.toNat ∨
    m ≤ o ∧ m ≤ r₀.spec.skip.toNat + k * n.toNat)) _ _ ?_ ?_ r₀ ⟨_, .refl r₀, .inl (by omega)⟩
  · rintro k r hk ⟨o, ha, ho⟩
    have hkm := (hcount k).mp hk
    obtain rfl : o = r₀.spec.skip.toNat + k * n.toNat := ho.resolve_right fun h ↦ by omega
    have hne : window (r₀.spec.skip.toNat + k * n.toNat) ≠ [] :=
      fun h ↦ Nat.not_lt_of_le ((hw _).mp h) hkm
    obtain ⟨reads, r', he, hr'⟩ := hcall _ r ha
    refine ⟨r', he, mt List.map_eq_nil_iff.mp hne, ?_⟩
    obtain hnext | ⟨hsize, hfin⟩ := ha.advanced hl hc ht hn hmode (hplan _ r ha hkm)
      (mt List.eq_nil_of_length_eq_zero hne) hr'
    · refine .inl ⟨hnext.continuous.trans hc, _, hnext, ?_⟩
      rw [Nat.succ_mul]
      omega
    · have hlast : ¬k + 1 < (m - r₀.spec.skip.toNat + n.toNat - 1) / n.toNat := by
        rw [hcount, Nat.succ_mul]
        omega
      exact .inr ⟨hfin.continuous, by omega, hfin⟩
  · rintro r ⟨o, ha, ho⟩
    have hend := mt (hcount _).mpr (Nat.lt_irrefl _)
    obtain ⟨reads, r', he, hr'⟩ := hcall o r ha
    have hnil : window o = [] := (hw o).mpr (by omega)
    rw [hnil] at he hr'
    refine ⟨r', he, ha.toFollows.finished hr' (Spec.advance_zero ?_ _)⟩
    rw [Spec.plan_continuous, ha.continuous, hc]

end Offsets

section Walks

variable {η : Type} {handler : Summary → η → Except Error Unit × η} {n : UInt32}

theorem AtOffset.fetchSummaries_positions (hf : r₀.folder.faults = [])
    (hl : r₀.folder.messages.length < UInt32.size) (hr : r₀.spec.idRange = none)
    (hq : r₀.spec.query.isAll = true) (hw : r₀.spec.newest = none) (ht : r₀.spec.take = .count n)
    (hn : n ≠ 0) (ha : r₀.AtOffset o r) :
    ∃ reads r', r.fetchSummaries =
        (.ok (summarize r₀.spec.items ((r₀.folder.entries.drop o).take n.toNat)), r') ∧
      r.Advanced ((r₀.folder.entries.drop o).take n.toNat).length reads r' := by
  have hspec := ha.spec
  have hsel : r.folder.selection r.spec r.config.searchCap =
      (r₀.folder.entries.drop o).take n.toNat := by
    rw [selection_of_stored ha.stored, selection_index (by rw [hspec, hr]) (by rw [hspec, hq])
      (by rw [hspec, hw]), ha.take, ht, ha.skip]
    exact take_limit_count _ n (by rw [List.length_drop]; omega)
  have hcall := fetchSummaries_of_position ((faults_of_stored ha.stored).trans hf)
    (by rw [ha.take, ht]; simpa using hn) (messages_of_stored ha.stored ▸ hl) (by rw [hspec, hr])
    (by rw [hspec, hq])
  rwa [hsel, show r.spec.items = r₀.spec.items by rw [hspec]] at hcall

/-- At an offset of a walk over search results, a call returns the results of that rank, counted from
the newest, and of the ranks after it. The cap of the reader hides none of them. -/
theorem AtOffset.fetchSummaries_candidates (hf : r₀.folder.faults = [])
    (h : r₀.folder.ids.Pairwise (· < ·))
    (hcap : r₀.folder.searchCap ≤ r₀.config.searchCap.toNat) (hr : r₀.spec.idRange = none)
    (hq : r₀.spec.query.isAll = false) (ht : r₀.spec.take = .count n) (hn : n ≠ 0)
    (ha : r₀.AtOffset o r) :
    ∃ reads r', r.fetchSummaries = (.ok (summarize r₀.spec.items
        (slice (r₀.folder.candidates r₀.spec.query) o n.toNat)), r') ∧
      r.Advanced (slice (r₀.folder.candidates r₀.spec.query) o n.toNat).length reads r' := by
  have hn0 : 0 < n.toNat := Word.toNat_pos hn
  have hspec := ha.spec
  have hle : (r₀.folder.candidates r₀.spec.query).length ≤ r₀.config.searchCap.toNat :=
    Nat.le_trans (List.length_take_le _ _) hcap
  have hsel : r.folder.selection r.spec r.config.searchCap =
      slice (r₀.folder.candidates r₀.spec.query) o n.toNat := by
    rw [selection_of_stored ha.stored, ha.config, selection_query (by rw [hspec, hr])
      (by rw [hspec, hq]), ha.take, ht, ha.skip, show r.spec.query = r₀.spec.query by rw [hspec]]
    split
    · next hs =>
      rw [UInt32.le_iff_toNat_le, ha.skip] at hs
      exact ((slice_eq_nil_iff hn0).mpr (by omega)).symm
    · rw [slice, take_limit_count _ n (by rw [List.length_drop, List.length_reverse]; omega)]
      rfl
  have hcall := fetchSummaries_of_query ((faults_of_stored ha.stored).trans hf)
    (by rw [ha.take, ht]; simpa using hn) (ids_of_stored ha.stored ▸ h) (by rw [hspec, hr])
    (by rw [hspec, hq])
  rwa [hsel, show r.spec.items = r₀.spec.items by rw [hspec]] at hcall

/-- Processing a continuous spec of positions hands over the messages from the offset to the end of
the folder, in pieces of the width that is taken, and ends with the folder as it was found. -/
theorem processSummaries_walks_positions (hf : r.folder.faults = [])
    (hl : r.folder.messages.length < UInt32.size) (hr : r.spec.idRange = none)
    (hq : r.spec.query.isAll = true) (hw : r.spec.newest = none) (hc : r.spec.continuous = true)
    (ht : r.spec.take = .count n) (hn : n ≠ 0) (hh : ∀ s x, (handler s x).1 = .ok ()) (x : η) :
    ∃ batches r', r.Drains batches r' ∧
      batches = (pieces r.folder.entries r.spec.skip.toNat n.toNat).map (summarize r.spec.items) ∧
      batches.flatten = summarize r.spec.items (r.folder.entries.drop r.spec.skip.toNat) ∧
      r.processSummaries handler (fun _ _ ↦ false) x =
        (some (.ok (r.folder.entries.length - r.spec.skip.toNat)), r',
          handed handler x batches.flatten) ∧
      r.Finished r' := by
  have hn0 : 0 < n.toNat := Word.toNat_pos hn
  have hlen := length_entries r.folder
  have hplan : ∀ o r', r.AtOffset o r' → o < r.folder.entries.length →
      (r'.spec.plan (Folder.count r'.folder) r'.config.searchCap).spec = r'.spec := by
    intro o r' ha ho
    have hspec := ha.spec
    rw [Spec.plan_index (by rw [ha.take, ht]; simpa using hn) (by rw [hspec, hr])
      (by rw [hspec, hq]) (by rw [hspec, hw])]
    rw [UInt32.lt_iff_toNat_lt, ha.skip, count_of_stored ha.stored, toNat_count hl]
    omega
  obtain ⟨r', hd, hfin⟩ := drains_of_offsets hl hc ht hn
    (.inr (Spec.mode_index hr hq hw)) (fun o ↦ (r.folder.entries.drop o).take n.toNat) (Nat.le_of_eq hlen)
    (fun o ↦ by rw [List.take_eq_nil_iff, List.drop_eq_nil_iff]; omega) hplan
    (fun o r' ha ↦ ha.fetchSummaries_positions hf hl hr hq hw ht hn)
  have hd : r.Drains ((pieces r.folder.entries r.spec.skip.toNat n.toNat).map
      (summarize r.spec.items)) r' := by
    rw [pieces, List.map_map]
    exact hd
  have hflat : ((pieces r.folder.entries r.spec.skip.toNat n.toNat).map
      (summarize r.spec.items)).flatten =
        summarize r.spec.items (r.folder.entries.drop r.spec.skip.toNat) := by
    rw [← flatten_pieces hn0 r.folder.entries]
    exact List.map_flatten.symm
  have hcount := length_pieces_le hn0 r.folder.entries r.spec.skip.toNat
  have hp := hd.processSummaries_eq hh (by rw [List.length_map]; omega) x
  refine ⟨_, r', hd, rfl, hflat, hp.trans ?_, hfin⟩
  rw [hflat, summarize, List.length_map, List.length_drop]

theorem processSummaries_walks_positions_gapped : ∃ r',
    ({ folder := gapped, spec := { skip := 1, take := .count 4, continuous := true } } :
      Reader MemoryFolder).processSummaries collect (fun _ _ ↦ false) [] =
        (some (.ok 5), r', [⟨3⟩, ⟨5⟩, ⟨9⟩, ⟨10⟩, ⟨12⟩]) ∧ r'.retained = false := by
  obtain ⟨_, r', -, -, hflat, hp, hfin⟩ := processSummaries_walks_positions (n := 4) (r :=
    { folder := gapped, spec := { skip := 1, take := .count 4, continuous := true } }) rfl
    (by decide) rfl rfl rfl rfl rfl (by decide) collect_succeeds []
  rw [hflat] at hp
  exact ⟨r', hp.trans (by rfl), hfin.retained⟩

/-- Processing a continuous search hands over each result from the offset on once: the newest ones
first, in pieces of the width that is taken, and each piece in ascending order. -/
theorem processSummaries_walks_candidates (hf : r.folder.faults = [])
    (h : r.folder.ids.Pairwise (· < ·)) (hl : r.folder.messages.length < UInt32.size)
    (hcap : r.folder.searchCap ≤ r.config.searchCap.toNat) (hr : r.spec.idRange = none)
    (hq : r.spec.query.isAll = false) (hc : r.spec.continuous = true)
    (ht : r.spec.take = .count n) (hn : n ≠ 0) (hh : ∀ s x, (handler s x).1 = .ok ()) (x : η) :
    ∃ batches r', r.Drains batches r' ∧
      batches = (pieces (r.folder.candidates r.spec.query).reverse r.spec.skip.toNat n.toNat).map
        (fun piece ↦ summarize r.spec.items piece.reverse) ∧
      (∀ batch ∈ batches, batch.Pairwise fun a b ↦ a.id < b.id) ∧
      batches.flatten.Perm (summarize r.spec.items
        ((r.folder.candidates r.spec.query).reverse.drop r.spec.skip.toNat)) ∧
      r.processSummaries handler (fun _ _ ↦ false) x =
        (some (.ok ((r.folder.results r.spec.query).length - r.spec.skip.toNat)), r',
          handed handler x batches.flatten) ∧
      r.Finished r' := by
  have hn0 : 0 < n.toNat := Word.toNat_pos hn
  have hle : (r.folder.candidates r.spec.query).length ≤ r.folder.messages.length :=
    length_entries r.folder ▸ (candidates_sublist r.folder r.spec.query).length_le
  have hplan : ∀ o r', r.AtOffset o r' → o < (r.folder.candidates r.spec.query).length →
      (r'.spec.plan (Folder.count r'.folder) r'.config.searchCap).spec = r'.spec := by
    intro o r' ha _
    have hspec := ha.spec
    exact (Spec.plan_search (by rw [ha.take, ht]; simpa using hn) (by rw [hspec, hr])
      (by rw [hspec, hq])).1
  obtain ⟨r', hd, hfin⟩ := drains_of_offsets hl hc ht hn
    (.inl (Spec.mode_search hr hq)) (fun o ↦ slice (r.folder.candidates r.spec.query) o n.toNat) hle
    (fun o ↦ slice_eq_nil_iff hn0) hplan
    (fun o r' ha ↦ ha.fetchSummaries_candidates hf h hcap hr hq ht hn)
  have hd : r.Drains ((pieces (r.folder.candidates r.spec.query).reverse r.spec.skip.toNat
      n.toNat).map fun piece ↦ summarize r.spec.items piece.reverse) r' := by
    rw [pieces, List.map_map, List.length_reverse]
    exact hd
  have hperm := flatten_summarize_pieces_perm hn0 r.spec.items
    (r.folder.candidates r.spec.query).reverse r.spec.skip.toNat
  have hcount := length_pieces_le hn0 (r.folder.candidates r.spec.query).reverse
    r.spec.skip.toNat
  rw [List.length_reverse] at hcount
  have hp := hd.processSummaries_eq hh (by rw [List.length_map]; omega) x
  refine ⟨_, r', hd, rfl, fun _ ↦ pairwise_id_of_mem_pieces h _, hperm, hp.trans ?_, hfin⟩
  rw [hperm.length_eq, summarize, List.length_map, List.length_drop, List.length_reverse,
    results_eq_map_candidates, List.length_map]

theorem processSummaries_walks_candidates_unseen : ∃ r',
    ({ folder := gapped, spec := { query := .unseen, take := .count 3, continuous := true } } :
      Reader MemoryFolder).processSummaries collect (fun _ _ ↦ false) [] =
        (some (.ok 4), r', [⟨5⟩, ⟨10⟩, ⟨12⟩, ⟨3⟩]) ∧ r'.retained = false := by
  obtain ⟨_, r', -, rfl, -, -, hp, hfin⟩ := processSummaries_walks_candidates (n := 3) (r :=
    { folder := gapped, spec := { query := .unseen, take := .count 3, continuous := true } }) rfl
    (by decide) (by decide) (by decide) rfl rfl rfl rfl (by decide) collect_succeeds []
  exact ⟨r', hp.trans (by rfl), hfin.retained⟩

end Walks

end Reader

end MailWindow
