import MailWindow.Proofs.Changes

namespace MailWindow

def Plan.positions : Plan → List UInt32
  | .indices range | .newest range => range.toList
  | _ => []

namespace Spec

inductive Transition where
  | skip (n : Int)
  | take (n : Int) (continuous : Bool)
  | newest (n : UInt32)
  | range (range : IdRange) (continuous : Bool)
  | batch (start : MessageId) (size : UInt32) (continuous : Bool)
  | query (query : Query) (cap : UInt32)
  | items (items : SummaryItems)
  | stopped

namespace Transition

def apply (s : Spec) : Transition → Except Error Spec
  | skip n => s.withSkip n
  | take n continuous => s.withTake n continuous
  | newest n => s.withNewest n
  | range ids continuous => .ok (s.withRange ids continuous)
  | batch start size continuous => .ok (s.withBatch start size continuous)
  | query q cap => .ok (s.withQuery q cap)
  | items xs => .ok (s.withItems xs)
  | stopped => .ok s.stopped

def step (s : Spec) (t : Transition) : Spec := (t.apply s).toOption.getD s

/-- Whether a count is set, which takes a count that is accepted. -/
def setsTake : Transition → Bool
  | take n _ => (Take.ofInt n).isOk
  | _ => false

def cap? : Transition → Option UInt32
  | query q cap => if q.isAll then none else some cap
  | _ => none

variable {s : Spec} {t : Transition}

theorem step_untaken (ht : t.setsTake = false) (hs : s.takeIsSet = false) :
    (t.step s).takeIsSet = false ∧ (t.step s).take = t.cap?.elim s.take .count := by
  cases t with
  | skip n =>
    simp only [step, apply, withSkip]
    split
    · exact ⟨hs, rfl⟩
    · split <;> exact ⟨hs, rfl⟩
  | newest n =>
    simp only [step, apply, withNewest]
    split <;> exact ⟨hs, rfl⟩
  | take n continuous =>
    simp only [setsTake] at ht
    simp only [step, apply, withTake]
    cases hn : Take.ofInt n with
    | error e => exact ⟨hs, rfl⟩
    | ok count =>
      rw [hn] at ht
      cases ht
  | query q cap =>
    have htake : (step s (query q cap)).take = if q.isAll then s.take else .count cap := by
      change (if q.isAll || s.takeIsSet then s.take else .count cap) = _
      rw [hs, Bool.or_false]
    refine ⟨hs, ?_⟩
    rw [htake, cap?]
    cases q.isAll <;> rfl
  | _ => exact ⟨hs, rfl⟩

end Transition

def built (ts : List Transition) : Spec := ts.foldl Transition.step {}

def lastCap? (ts : List Transition) : Option UInt32 := (ts.filterMap Transition.cap?).getLast?

theorem lastCap?_eq_none_iff (ts : List Transition) :
    lastCap? ts = none ↔ ∀ t ∈ ts, t.cap? = none := by
  rw [lastCap?, List.getLast?_eq_none_iff, List.filterMap_eq_nil_iff]

theorem foldl_untaken {ts : List Transition} (h : ∀ t ∈ ts, t.setsTake = false) {s : Spec}
    (hs : s.takeIsSet = false) :
    (ts.foldl Transition.step s).take = (lastCap? ts).elim s.take .count := by
  induction ts generalizing s with
  | nil => rfl
  | cons t ts ih =>
    obtain ⟨ht, hts⟩ := List.forall_mem_cons.mp h
    obtain ⟨hstep, htake⟩ := Transition.step_untaken ht hs
    rw [List.foldl_cons, ih hts hstep, htake, lastCap?, lastCap?]
    cases hcap : t.cap? with
    | none => rw [List.filterMap_cons_none hcap, Option.elim_none]
    | some cap =>
      rw [List.filterMap_cons_some hcap, List.getLast?_cons]
      cases (ts.filterMap Transition.cap?).getLast? <;> rfl

theorem selection_eq_index {s : Spec} {skip : UInt32} {take : Take}
    (h : s.selection = .index skip take) : s.idRange = none ∧ s.query.isAll = true ∧
      s.newest = none ∧ s.skip = skip ∧ s.take = take := by
  unfold selection at h
  split at h
  · cases h
  · next hr =>
    split at h
    · cases h
    · next hq =>
      split at h
      · cases h
      · next hn =>
        obtain ⟨rfl, rfl⟩ := Selection.index.inj h
        exact ⟨hr, by simpa using hq, hn, rfl, rfl⟩

theorem positions_of_index {s : Spec} (hr : s.idRange = none) (hq : s.query.isAll = true)
    (hn : s.newest = none) (count cap : UInt32) :
    (s.plan count cap).plan.positions.map UInt32.toNat = List.range' s.skip.toNat
      (min (s.take.limit count.toNat) (count.toNat - s.skip.toNat)) := by
  by_cases ht : s.take = .count 0
  · have hplan : s.plan count cap = ⟨s, .empty, []⟩ := if_pos (decide_eq_true ht)
    have hlimit : s.take.limit count.toNat = 0 := by rw [ht]; exact Nat.zero_min _
    rw [hplan, hlimit, Nat.zero_min]
    rfl
  · by_cases hs : s.skip < count
    · obtain ⟨range, he, hstart, hsize⟩ := indexRange_of_lt hs ht
      obtain ⟨-, hwithin, -⟩ := indexRange_within hs he
      rw [plan_index ht hr hq hn hs, he, ← hsize, Nat.min_eq_left (by omega), ← hstart]
      exact range.toNat_toList
    · rw [(plan_beyond ht hr hq hn hs).2]
      rw [UInt32.lt_iff_toNat_lt, Nat.not_lt] at hs
      rw [Nat.sub_eq_zero_of_le hs, Nat.min_zero]
      rfl

/-- A spec for which no count is set takes as much as its last search was capped at, and everything
if it has never searched. So it takes everything by position just if there was no search before, and
a plan then asks for all positions from the offset on; after a search it asks for as many of them as
the cap allows. -/
theorem take_of_untaken (ts : List Transition) (h : ∀ t ∈ ts, t.setsTake = false) :
    (built ts).take = (lastCap? ts).elim .all .count ∧
    ∀ skip take, (built ts).selection = .index skip take →
      (take = .all ↔ ∀ t ∈ ts, t.cap? = none) ∧
      ∀ count cap, ((built ts).plan count cap).plan.positions.map UInt32.toNat =
        List.range' skip.toNat (min ((lastCap? ts).elim count.toNat UInt32.toNat)
          (count.toNat - skip.toNat)) := by
  have htake : (built ts).take = (lastCap? ts).elim .all .count := foldl_untaken h rfl
  refine ⟨htake, fun skip take hsel ↦ ?_⟩
  obtain ⟨hr, hq, hn, rfl, rfl⟩ := selection_eq_index hsel
  refine ⟨?_, fun count cap ↦ ?_⟩
  · rw [← lastCap?_eq_none_iff, htake]
    cases lastCap? ts <;> simp
  · rw [positions_of_index hr hq hn, htake]
    cases lastCap? ts with
    | none => rfl
    | some c =>
      simp only [Option.elim_some, Take.limit]
      congr 1
      omega

theorem take_of_untaken_refused :
    let ts : List Transition :=
      [.query .unseen 2, .take (-5) true, .query .seen 3, .query .all 9, .newest 0, .skip 1]
    (built ts).take = .count 3 ∧
      ((built ts).plan 6 250).plan.positions.map UInt32.toNat = [1, 2, 3] := by
  intro ts
  obtain ⟨htake, hplan⟩ := take_of_untaken ts (by decide)
  exact ⟨htake, (hplan 1 (.count 3) rfl).2 6 250⟩

/-- A search that is given up again leaves its cap behind. -/
theorem capped_without_search :
    let ts : List Transition := [.query .unseen 2, .query .all 2]
    (∀ t ∈ ts, t.setsTake = false) ∧ (built ts).selection = .index 0 (.count 2) ∧
      ((built ts).plan 5 2).plan.positions = [0, 1] :=
  ⟨by decide, rfl, by decide⟩

end Spec

end MailWindow
