import MailWindow.Proofs.Selection

namespace MailWindow

theorem newestRange_of_ne {count n : UInt32} (hc : count ≠ 0) (hn : n ≠ 0) :
    ∃ range, newestRange count n = some range ∧
      range.start.toNat = count.toNat - n.toNat ∧
      range.size = count.toNat - range.start.toNat := by
  have hc0 : 0 < count.toNat := Word.toNat_pos hc
  have hn0 : 0 < n.toNat := Word.toNat_pos hn
  have hlast : (count - 1).toNat = count.toNat - 1 :=
    UInt32.toNat_sub_of_le count 1 (UInt32.le_iff_toNat_le.mpr hc0)
  have hstart : (Word.subOrZero (count - 1) (Word.subOrZero n 1)).toNat =
      count.toNat - n.toNat := by
    rw [Word.toNat_subOrZero, Word.toNat_subOrZero, hlast]
    change count.toNat - 1 - (n.toNat - 1) = _
    omega
  have hle : Word.subOrZero (count - 1) (Word.subOrZero n 1) ≤ count - 1 := by
    rw [UInt32.le_iff_toNat_le, hstart, hlast]
    omega
  refine ⟨⟨_, _, hle⟩, ?_, hstart, ?_⟩
  · rw [newestRange, if_neg hc, IndexRange.of?, dif_pos hle]
  · simp only [IndexRange.size, hlast, hstart]
    omega

theorem indexRange_of_lt {count skip : UInt32} {take : Take} (hs : skip < count)
    (ht : take ≠ .count 0) :
    ∃ range, indexRange count skip take = some range ∧ range.start = skip ∧
      min range.size (count.toNat - skip.toNat) =
        min (take.limit count.toNat) (count.toNat - skip.toNat) := by
  have hs' := UInt32.lt_iff_toNat_lt.mp hs
  have hlast : (Word.subOrZero count 1).toNat = count.toNat - 1 := Word.toNat_subOrZero count 1
  cases take with
  | all =>
    have hle : skip ≤ Word.subOrZero count 1 := by
      rw [UInt32.le_iff_toNat_le, hlast]
      omega
    refine ⟨⟨skip, _, hle⟩, dif_pos hle, rfl, ?_⟩
    simp only [IndexRange.size, hlast, Take.limit]
    omega
  | count n =>
    have hn0 : 0 < n.toNat := Word.toNat_pos fun h ↦ ht (congrArg Take.count h)
    have hstop : (min (Word.addOrMax skip (Word.subOrZero n 1)) (Word.subOrZero count 1)).toNat =
        min (skip.toNat + (n.toNat - 1)) (count.toNat - 1) := by
      rw [Word.toNat_min, Word.toNat_addOrMax, Word.toNat_subOrZero, hlast]
      have hlt := count.toNat_lt_size
      change min (min (skip.toNat + (n.toNat - 1)) _) _ = _
      omega
    have hle : skip ≤ min (Word.addOrMax skip (Word.subOrZero n 1)) (Word.subOrZero count 1) := by
      rw [UInt32.le_iff_toNat_le, hstop]
      omega
    refine ⟨⟨skip, _, hle⟩, dif_pos hle, rfl, ?_⟩
    simp only [IndexRange.size, hstop, Take.limit]
    omega

namespace Spec

variable {s : Spec} {count cap : UInt32}

theorem isZero_eq_false (ht : s.take ≠ .count 0) : s.take.isZero = false := decide_eq_false ht

theorem plan_idRange (ht : s.take ≠ .count 0) {range : IdRange} (hr : s.idRange = some range) :
    s.plan count cap = ⟨s, if range.isInverted then .empty else .ids range, []⟩ := by
  simp [plan, selection, isZero_eq_false ht, hr]

theorem plan_search (ht : s.take ≠ .count 0) (hr : s.idRange = none) (hq : s.query.isAll = false) :
    (s.plan count cap).spec = s ∧ (s.plan count cap).plan =
      if cap ≤ s.skip then .empty else .search s.query s.skip s.take := by
  by_cases hc : cap ≤ s.skip <;> simp [plan, selection, isZero_eq_false ht, hr, hq, hc]

theorem plan_newest (ht : s.take ≠ .count 0) (hr : s.idRange = none) (hq : s.query.isAll = true)
    {n : { n : UInt32 // n ≠ 0 }} (hn : s.newest = some n) :
    s.plan count cap = ⟨s, (newestRange count n).elim .empty .newest, []⟩ := by
  simp [plan, selection, isZero_eq_false ht, hr, hq, hn]

theorem plan_index (ht : s.take ≠ .count 0) (hr : s.idRange = none) (hq : s.query.isAll = true)
    (hn : s.newest = none) (hs : s.skip < count) :
    s.plan count cap = ⟨s, (indexRange count s.skip s.take).elim .empty .indices, []⟩ := by
  simp [plan, selection, isZero_eq_false ht, hr, hq, hn, hs]

/-- Beyond the end of the folder there is nothing to retrieve, and a continuous spec waits at the
end. -/
theorem plan_beyond (ht : s.take ≠ .count 0) (hr : s.idRange = none) (hq : s.query.isAll = true)
    (hn : s.newest = none) (hs : ¬s.skip < count) :
    (s.plan count cap).spec = (if s.continuous then { s with skip := count } else s) ∧
      (s.plan count cap).plan = .empty := by
  by_cases hc : s.continuous = true <;>
    simp [plan, selection, isZero_eq_false ht, hr, hq, hn, hs, hc]

theorem mode_idRange {range : IdRange} (hr : s.idRange = some range) : s.mode = .idRange := by
  simp [mode, selection, hr, Selection.mode]

theorem mode_search (hr : s.idRange = none) (hq : s.query.isAll = false) : s.mode = .search := by
  simp [mode, selection, hr, hq, Selection.mode]

theorem mode_newest (hr : s.idRange = none) (hq : s.query.isAll = true)
    {n : { n : UInt32 // n ≠ 0 }} (hn : s.newest = some n) : s.mode = .newest := by
  simp [mode, selection, hr, hq, hn, Selection.mode]

theorem mode_index (hr : s.idRange = none) (hq : s.query.isAll = true) (hn : s.newest = none) :
    s.mode = .index := by
  simp [mode, selection, hr, hq, hn, Selection.mode]

theorem idRange_of_search (hm : s.mode = .search) :
    s.idRange = none ∧ s.query.isAll = false := by
  cases hr : s.idRange with
  | some range =>
    rw [mode_idRange hr] at hm
    cases hm
  | none =>
    cases hq : s.query.isAll with
    | false => exact ⟨rfl, rfl⟩
    | true =>
      cases hn : s.newest with
      | none =>
        rw [mode_index hr hq hn] at hm
        cases hm
      | some n =>
        rw [mode_newest hr hq hn] at hm
        cases hm

theorem mode_skip (s : Spec) (skip : UInt32) : { s with skip }.mode = s.mode := by
  cases hr : s.idRange <;> cases hq : s.query.isAll <;> cases hn : s.newest <;>
    simp [mode, selection, hr, hq, hn, Selection.mode]

theorem plan_spec_eq (s : Spec) (count cap : UInt32) :
    (s.plan count cap).spec = s ∨ (s.plan count cap).spec = { s with skip := count } := by
  unfold plan
  repeat' split
  all_goals first
    | exact .inl rfl
    | exact .inr rfl

theorem plan_continuous (s : Spec) (count cap : UInt32) :
    (s.plan count cap).spec.continuous = s.continuous := by
  rcases plan_spec_eq s count cap with h | h <;> rw [h]

end Spec

namespace MemoryFolder

variable {f : MemoryFolder} {s : Spec} {cap : UInt32}

theorem toNat_count_eq_min (f : MemoryFolder) :
    (Folder.count f).toNat = min f.messages.length (UInt32.size - 1) := by
  change (UInt32.ofNat (min f.messages.length (UInt32.size - 1))).toNat = _
  exact UInt32.toNat_ofNat_of_lt' (Nat.lt_of_le_of_lt (Nat.min_le_right _ _) (by decide))

theorem toNat_count (hl : f.messages.length < UInt32.size) :
    (Folder.count f).toNat = f.messages.length := by
  rw [toNat_count_eq_min]
  omega

theorem selection_idRange {range : IdRange} (hr : s.idRange = some range) :
    f.selection s cap = f.entries.filter fun e ↦ range.contains e.1.id := by
  simp only [selection, hr]
  rfl

theorem selection_query (hr : s.idRange = none) (hq : s.query.isAll = false) :
    f.selection s cap =
      if cap ≤ s.skip then [] else slice (f.candidates s.query) s.skip.toNat
        (s.take.limit cap.toNat) := by
  simp [selection, hr, hq]

theorem selection_newest (hr : s.idRange = none) (hq : s.query.isAll = true)
    {n : { n : UInt32 // n ≠ 0 }} (hn : s.newest = some n) :
    f.selection s cap = f.entries.drop (f.entries.length - n.val.toNat) := by
  simp [selection, hr, hq, hn]

theorem selection_index (hr : s.idRange = none) (hq : s.query.isAll = true)
    (hn : s.newest = none) :
    f.selection s cap = (f.entries.drop s.skip.toNat).take (s.take.limit f.entries.length) := by
  simp [selection, hr, hq, hn]

theorem selection_sublist (f : MemoryFolder) (s : Spec) (cap : UInt32) :
    (f.selection s cap).Sublist f.entries := by
  unfold selection
  repeat' split
  · exact List.filter_sublist
  · exact List.nil_sublist _
  · exact (slice_sublist _ _ _).trans (candidates_sublist f s.query)
  · exact List.drop_sublist _ _
  · exact (List.take_sublist _ _).trans (List.drop_sublist _ _)

end MemoryFolder

section Yields

open MemoryFolder

variable {f : MemoryFolder} {s : Spec} {cap : UInt32}

theorem yields_of_idRange (hf : f.faults = []) (ho : f.isOpen = true)
    (h : f.ids.Pairwise (· < ·)) (ht : s.take ≠ .count 0) {range : IdRange}
    (hr : s.idRange = some range) :
    (s.plan (Folder.count f) cap).plan.Yields cap s.items f (summarize s.items (f.selection s cap))
      (if range.isInverted then [] else [.fetchIds (.range range)]) := by
  rw [Spec.plan_idRange ht hr, selection_idRange hr]
  cases hi : range.isInverted with
  | true =>
    have hnone : f.entries.filter (fun e ↦ range.contains e.1.id) = [] := by
      refine List.filter_eq_nil_iff.mpr fun e _ he ↦ ?_
      simp only [IdRange.contains, Bool.and_eq_true, decide_eq_true_eq,
        MessageId.le_iff_toNat] at he
      simp only [IdRange.isInverted, decide_eq_true_eq, MessageId.lt_iff_toNat] at hi
      omega
    rw [hnone]
    exact yields_empty cap s.items f
  | false => exact yields_ids hf ho h range

theorem yields_of_query (hf : f.faults = []) (ho : f.isOpen = true)
    (h : f.ids.Pairwise (· < ·)) (ht : s.take ≠ .count 0) (hr : s.idRange = none)
    (hq : s.query.isAll = false) :
    ∃ calls, (s.plan (Folder.count f) cap).plan.Yields cap s.items f
      (summarize s.items (f.selection s cap)) calls := by
  rw [(Spec.plan_search ht hr hq).2, selection_query hr hq]
  by_cases hc : cap ≤ s.skip
  · rw [if_pos hc, if_pos hc]
    exact ⟨_, yields_empty cap s.items f⟩
  · rw [if_neg hc, if_neg hc]
    obtain ⟨calls, hy⟩ := yields_search hf ho h s.query s.skip s.take
    exact ⟨_, hy⟩

theorem yields_of_newest (hf : f.faults = []) (ho : f.isOpen = true)
    (hl : f.messages.length < UInt32.size) (ht : s.take ≠ .count 0) (hr : s.idRange = none)
    (hq : s.query.isAll = true) {n : { n : UInt32 // n ≠ 0 }} (hn : s.newest = some n) :
    ∃ calls, (s.plan (Folder.count f) cap).plan.Yields cap s.items f
      (summarize s.items (f.selection s cap)) calls := by
  have hlen : (Folder.count f).toNat = f.entries.length :=
    (toNat_count hl).trans (length_entries f).symm
  rw [Spec.plan_newest ht hr hq hn, selection_newest hr hq hn]
  by_cases hc : Folder.count f = 0
  · have hnil : f.entries = [] := by
      refine List.eq_nil_of_length_eq_zero ?_
      rw [← hlen, hc]
      rfl
    rw [hnil, newestRange, if_pos hc, List.drop_nil]
    exact ⟨_, yields_empty cap s.items f⟩
  · obtain ⟨range, he, hstart, hsize⟩ := newestRange_of_ne hc n.property
    have hy : (Plan.newest range).Yields cap s.items f _ _ :=
      yields_newest hf ho (Nat.le_of_lt hl) range
    rw [List.take_of_length_le (by rw [List.length_drop]; omega), hstart, hlen] at hy
    rw [he]
    exact ⟨_, hy⟩

theorem yields_of_index (hf : f.faults = []) (ho : f.isOpen = true)
    (hl : f.messages.length < UInt32.size) (ht : s.take ≠ .count 0) (hr : s.idRange = none)
    (hq : s.query.isAll = true) (hn : s.newest = none) :
    ∃ calls, (s.plan (Folder.count f) cap).plan.Yields cap s.items f
      (summarize s.items (f.selection s cap)) calls := by
  have hlen : (Folder.count f).toNat = f.entries.length :=
    (toNat_count hl).trans (length_entries f).symm
  rw [selection_index hr hq hn]
  by_cases hs : s.skip < Folder.count f
  · obtain ⟨range, he, hstart, hsize⟩ := indexRange_of_lt hs ht
    have hy : (Plan.indices range).Yields cap s.items f _ _ :=
      yields_indices hf ho (Nat.le_of_lt hl) range
    have htake : (f.entries.drop s.skip.toNat).take range.size =
        (f.entries.drop s.skip.toNat).take (s.take.limit f.entries.length) := by
      refine List.take_eq_take_iff.mpr ?_
      rw [List.length_drop, ← hlen]
      exact hsize
    rw [hstart, htake] at hy
    rw [Spec.plan_index ht hr hq hn hs, he]
    exact ⟨_, hy⟩
  · have hnil : f.entries.drop s.skip.toNat = [] := by
      rw [UInt32.lt_iff_toNat_lt] at hs
      exact List.drop_of_length_le (by omega)
    rw [(Spec.plan_beyond ht hr hq hn hs).2, hnil, List.take_nil]
    exact ⟨_, yields_empty cap s.items f⟩

theorem yields_of_position (hf : f.faults = []) (ho : f.isOpen = true)
    (hl : f.messages.length < UInt32.size) (ht : s.take ≠ .count 0) (hr : s.idRange = none)
    (hq : s.query.isAll = true) :
    ∃ calls, (s.plan (Folder.count f) cap).plan.Yields cap s.items f
      (summarize s.items (f.selection s cap)) calls := by
  cases hn : s.newest with
  | some n => exact yields_of_newest hf ho hl ht hr hq hn
  | none => exact yields_of_index hf ho hl ht hr hq hn

end Yields

end MailWindow
