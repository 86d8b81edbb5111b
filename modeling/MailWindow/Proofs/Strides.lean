import MailWindow.Proofs.Exhaustion

namespace MailWindow

namespace IdRange

variable {range next : IdRange}

theorem toNat_start_of_next? (h : range.next? = some next) :
    next.start.val.toNat = range.stop.val.toNat + 1 := by
  have hlt := (lt_start_of_next? h).1
  unfold next? at h
  split at h
  · cases h
  · obtain rfl := Option.some.inj h
    rw [MessageId.lt_iff_toNat] at hlt
    have hsucc := UInt32.toNat_add range.stop.val 1
    have hle := Nat.mod_le (range.stop.val.toNat + (1 : UInt32).toNat) UInt32.size
    have hone : (1 : UInt32).toNat = 1 := rfl
    change (range.stop.val + 1).toNat = _
    change _ < (range.stop.val + 1).toNat at hlt
    omega

theorem start_le_stop_of_next? (h : range.next? = some next) : next.start ≤ next.stop := by
  have hstop := MessageId.lt_iff_toNat.mp (stop_lt_of_next? h)
  rw [MessageId.le_iff_toNat, toNat_start_of_next? h]
  omega

theorem next?_eq_none_iff : range.next? = none ↔ ¬(range.start ≤ range.stop ∧ range.stop ≠ .top) := by
  have hinverted : range.isInverted = true ↔ ¬range.start ≤ range.stop := by
    rw [isInverted, decide_eq_true_eq, MessageId.lt_iff_toNat, MessageId.le_iff_toNat, Nat.not_le]
  unfold next?
  rw [not_and_or, not_not, ← hinverted]
  split
  · next hstop => simpa [MessageId.isTop, or_comm] using hstop
  · next hstop => simpa [MessageId.isTop, or_comm] using hstop

end IdRange

namespace Spec

/-- Whether a spec has a window after its own: identifiers above a proper range, or a word for the
next offset. -/
def HasNext (s : Spec) : Mode → Prop
  | .idRange => ∃ range, s.idRange = some range ∧ range.start ≤ range.stop ∧ range.stop ≠ .top
  | .search | .index => ∃ n, s.take = .count n ∧ n ≠ 0 ∧ s.skip.toNat + n.toNat < UInt32.size
  | .newest => False

/-- Another spec with nothing changed but the window, which lies ahead. -/
inductive Onward (s : Spec) : Mode → Spec → Prop
  | range {range next : IdRange} (now : s.idRange = some range) (above : range.stop < next.start)
      (proper : next.start ≤ next.stop) : s.Onward .idRange { s with idRange := some next }
  | offset {mode : Mode} {skip : UInt32} (hm : mode = .search ∨ mode = .index)
      (later : s.skip < skip) : s.Onward mode { s with skip }

variable {s : Spec} {mode : Mode} {returned : Nat} {count : UInt32}

theorem stopped_of_not_continuous (hc : s.continuous = false) : s.stopped = s := by
  rw [stopped, ← hc]

theorem Onward.continuous {s' : Spec} (h : s.Onward mode s') : s'.continuous = s.continuous := by
  cases h <;> rfl

theorem hasNext_offset (hm : mode = .search ∨ mode = .index) : s.HasNext mode ↔
    ∃ n, s.take = .count n ∧ n ≠ 0 ∧ s.skip.toNat + n.toNat < UInt32.size := by
  rcases hm with rfl | rfl <;> rfl

theorem nextSkip?_of_not_count (h : ¬∃ n, s.take = .count n ∧ n ≠ 0) : s.nextSkip? = none := by
  unfold nextSkip?
  split
  · rfl
  · next n ht => exact if_pos (Decidable.not_not.mp fun hn ↦ h ⟨n, ht, hn⟩)

section Advances

variable (hc : s.continuous = true) (hr : returned ≠ 0)

include hc hr

theorem advance_idRange_cases :
    (s.HasNext .idRange ∧ ∃ s', s.Onward .idRange s' ∧ s.advance .idRange returned count = .next s') ∨
    (¬s.HasNext .idRange ∧ s.advance .idRange returned count = .exhausted s.stopped) := by
  cases hrange : s.idRange with
  | none =>
    refine .inr ⟨fun ⟨_, h, _⟩ ↦ ?_, by simp [advance, hc, hr, hrange]⟩
    rw [hrange] at h
    cases h
  | some range =>
    cases hn : range.next? with
    | none =>
      refine .inr ⟨?_, advance_of_next?_eq_none hc hrange hr hn⟩
      rintro ⟨other, h, hproper⟩
      obtain rfl := Option.some.inj (hrange.symm.trans h)
      exact IdRange.next?_eq_none_iff.mp hn hproper
    | some next =>
      refine .inl ⟨⟨range, hrange, ?_⟩, _, .range hrange (IdRange.lt_start_of_next? hn).1
        (IdRange.start_le_stop_of_next? hn), advance_of_next?_eq_some hc hrange hr hn⟩
      refine Decidable.not_not.mp fun h ↦ ?_
      rw [IdRange.next?_eq_none_iff.mpr h] at hn
      cases hn

theorem advance_offset_cases (hm : mode = .search ∨ mode = .index) :
    (s.HasNext mode ∧ ∃ skip, (if s.skip < count then s.skip < skip else skip = count) ∧
      s.advance mode returned count = .next { s with skip }) ∨
    (¬s.HasNext mode ∧ s.advance mode returned count = .exhausted s.stopped) := by
  rw [hasNext_offset hm]
  by_cases htake : ∃ n, s.take = .count n ∧ n ≠ 0
  · obtain ⟨n, ht, hn⟩ := htake
    cases ha : Word.add? s.skip n with
    | some skip =>
      have hskip := Word.toNat_of_add? ha
      refine .inl ⟨⟨n, ht, hn, hskip ▸ skip.toNat_lt_size⟩, min skip count, ?_,
        advance_of_add?_eq_some hm hc ht hn hr ha⟩
      have hpos := Word.toNat_pos hn
      have hmin := Word.toNat_min skip count
      simp only [UInt32.lt_iff_toNat_lt, ← UInt32.toNat_inj]
      split <;> omega
    | none =>
      refine .inr ⟨?_, advance_of_add?_eq_none hm hc ht hn hr ha⟩
      rintro ⟨m, hm, -, hlt⟩
      obtain rfl := Take.count.inj (ht.symm.trans hm)
      exact Nat.not_le_of_lt hlt (Word.size_le_of_add?_eq_none ha)
  · refine .inr ⟨fun ⟨n, ht, hn, _⟩ ↦ htake ⟨n, ht, hn⟩, ?_⟩
    have hskip := nextSkip?_of_not_count htake
    rcases hm with rfl | rfl <;> simp [advance, hc, hr, hskip]

end Advances

/-- A spec moves on just if it is continuous, something was returned and there is a next window. What
it moves on to differs in the window alone and lies ahead, unless the folder is said to hold no more
messages than an offset skips: then the offset becomes their number. A spec that does not move on is
no longer continuous, and nothing else about it changes. -/
theorem advance_onward_or_stopped (s : Spec) (mode : Mode) (returned : Nat) (count : UInt32) :
    match s.advance mode returned count with
    | .next s' => (s.continuous = true ∧ returned ≠ 0 ∧ s.HasNext mode) ∧ s'.continuous = true ∧
        if mode = .idRange ∨ s.skip < count then s.Onward mode s' else s' = { s with skip := count }
    | .stopped s' | .exhausted s' =>
      ¬(s.continuous = true ∧ returned ≠ 0 ∧ s.HasNext mode) ∧ s' = s.stopped := by
  by_cases hc : s.continuous = true
  · by_cases hr : returned = 0
    · rw [hr, advance_zero hc]
      exact ⟨fun h ↦ h.2.1 rfl, rfl⟩
    · have hoffset (hm : mode = .search ∨ mode = .index) :=
        @advance_offset_cases s mode returned count hc hr hm
      cases mode with
      | idRange =>
        rcases @advance_idRange_cases s returned count hc hr with
          ⟨hnext, s', honward, heq⟩ | ⟨hnone, heq⟩
        · rw [heq]
          refine ⟨⟨hc, hr, hnext⟩, honward.continuous.trans hc, ?_⟩
          rwa [if_pos (.inl rfl)]
        · rw [heq]
          exact ⟨fun h ↦ hnone h.2.2, rfl⟩
      | search | index =>
        rcases hoffset (by decide) with ⟨hnext, skip, hskip, heq⟩ | ⟨hnone, heq⟩
        · rw [heq]
          refine ⟨⟨hc, hr, hnext⟩, hc, ?_⟩
          by_cases hlt : s.skip < count
          · rw [if_pos hlt] at hskip
            rw [if_pos (.inr hlt)]
            exact .offset (by decide) hskip
          · rw [if_neg hlt] at hskip
            rw [if_neg (by simp [hlt]), hskip]
        · rw [heq]
          exact ⟨fun h ↦ hnone h.2.2, rfl⟩
      | newest =>
        have hend : s.advance .newest returned count = .exhausted s.stopped := by
          simp [advance, hc, hr]
        rw [hend]
        exact ⟨fun h ↦ h.2.2, rfl⟩
  · have hc : s.continuous = false := Bool.not_eq_true _ ▸ hc
    have hstopped : s.advance mode returned count = .stopped s := by simp [advance, hc]
    rw [hstopped]
    exact ⟨fun h ↦ Bool.eq_false_iff.mp hc h.1, (stopped_of_not_continuous hc).symm⟩

/-- With five results skipped in a folder that is said to hold three messages, the next window begins
at the fourth result. -/
theorem falls_back_beyond_count :
    let s : Spec := { skip := 5, take := .count 5, query := .unseen, continuous := true }
    s.mode = .search ∧ ∃ s', s.advance .search 1 3 = .next s' ∧ s'.skip = 3 ∧ s'.skip < s.skip :=
  ⟨rfl, _, rfl, rfl, by decide⟩

end Spec

end MailWindow
