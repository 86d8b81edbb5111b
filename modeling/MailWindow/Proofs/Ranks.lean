import Mathlib.Data.List.Dedup
import MailWindow.Proofs.Leases
import MailWindow.Proofs.Planning

namespace MailWindow

/-- How many distinct candidates are newer than an identifier. -/
def rank (candidates : List MessageId) (id : MessageId) : Nat :=
  candidates.dedup.countP (id < ·)

section Ranks

variable {candidates others : List MessageId}

theorem nodup_newestFirst (candidates : List MessageId) : (newestFirst candidates).Nodup := by
  apply (descending_newestFirst candidates).imp
  intro a b hab
  exact (MessageId.ne_of_lt hab).symm

theorem newestFirst_perm_dedup (candidates : List MessageId) :
    (newestFirst candidates).Perm candidates.dedup := by
  apply (List.perm_ext_iff_of_nodup (nodup_newestFirst _) (List.nodup_dedup _)).mpr
  intro id
  rw [mem_newestFirst, List.mem_dedup]

theorem newestFirst_congr (h : ∀ id, id ∈ others ↔ id ∈ candidates) :
    newestFirst others = newestFirst candidates := by
  have hascending (ids : List MessageId) : (newestFirst ids).reverse.Pairwise (· < ·) :=
    List.pairwise_reverse.mpr (descending_newestFirst ids)
  apply List.reverse_injective
  apply ascending_ext (hascending others) (hascending candidates)
  intro id
  rw [List.mem_reverse, List.mem_reverse, mem_newestFirst, mem_newestFirst, h]

theorem countP_lt_getElem {l : List MessageId} (h : l.Pairwise fun a b ↦ b < a) {i : Nat}
    (hi : i < l.length) : l.countP (l[i] < ·) = i := by
  induction l generalizing i with
  | nil => exact absurd hi (Nat.not_lt_zero i)
  | cons a l ih =>
    obtain ⟨ha, hl⟩ := List.pairwise_cons.mp h
    cases i with
    | zero =>
      apply List.countP_eq_zero.mpr
      intro b hb hlt
      have hlt : a < b := of_decide_eq_true hlt
      rcases List.mem_cons.mp hb with rfl | hb
      · exact MessageId.lt_irrefl b hlt
      · exact MessageId.lt_asymm hlt (ha b hb)
    | succ i =>
      have hi : i < l.length := Nat.lt_of_succ_lt_succ hi
      have hlt := decide_eq_true (ha l[i] (List.getElem_mem hi))
      rw [List.getElem_cons_succ, List.countP_cons_of_pos (p := (l[i] < ·)) hlt, ih hl hi]

theorem rank_newestFirst {i : Nat} (hi : i < (newestFirst candidates).length) :
    rank candidates (newestFirst candidates)[i] = i := by
  rw [rank, ← (newestFirst_perm_dedup candidates).countP_eq]
  exact countP_lt_getElem (descending_newestFirst candidates) hi

theorem rank_lt_length {id : MessageId} (h : id ∈ candidates) :
    rank candidates id < candidates.dedup.length := by
  obtain ⟨i, hi, rfl⟩ := List.getElem_of_mem (mem_newestFirst.mpr h)
  rwa [rank_newestFirst hi, ← (newestFirst_perm_dedup candidates).length_eq]

theorem mem_take_drop_newestFirst {id : MessageId} {skip limit : Nat} :
    id ∈ ((newestFirst candidates).drop skip).take limit ↔
      id ∈ candidates ∧ skip ≤ rank candidates id ∧ rank candidates id < skip + limit := by
  rw [List.mem_take_iff_getElem]
  constructor
  · rintro ⟨i, hi, rfl⟩
    rw [List.length_drop] at hi
    rw [List.getElem_drop, rank_newestFirst]
    refine ⟨?_, by omega, by omega⟩
    exact mem_newestFirst.mp (List.getElem_mem _)
  · rintro ⟨hid, hskip, hlimit⟩
    obtain ⟨i, hi, rfl⟩ := List.getElem_of_mem (mem_newestFirst.mpr hid)
    rw [rank_newestFirst hi] at hskip hlimit
    refine ⟨i - skip, ?_, ?_⟩
    · rw [List.length_drop]
      omega
    · rw [List.getElem_drop]
      congr 1
      omega

end Ranks

section Slices

theorem mem_sliceResults {candidates : List MessageId} {skip : UInt32} {take : Take}
    {cap : UInt32} {id : MessageId} : id ∈ sliceResults candidates skip take cap ↔
      id ∈ candidates ∧ skip.toNat ≤ rank candidates id ∧
        rank candidates id < skip.toNat + take.limit cap.toNat := by
  rw [sliceResults_eq_newestFirst, List.mem_reverse, mem_take_drop_newestFirst]

/-- What comes right after a slice of `n` goes before it, as the result is ascending. -/
theorem sliceResults_append (candidates : List MessageId) {skip n m cap : UInt32}
    (hcap : n.toNat + m.toNat ≤ cap.toNat) (hskip : skip.toNat + n.toNat < UInt32.size) :
    sliceResults candidates (skip + n) (.count m) cap ++ sliceResults candidates skip (.count n) cap =
      sliceResults candidates skip (.count (n + m)) cap := by
  have hnext : (skip + n).toNat = skip.toNat + n.toNat := Word.toNat_add_of_lt hskip
  have hboth : (n + m).toNat = n.toNat + m.toNat :=
    Word.toNat_add_of_lt (Nat.lt_of_le_of_lt hcap cap.toNat_lt_size)
  have hlimit {k : UInt32} (hk : k.toNat ≤ cap.toNat) : (Take.count k).limit cap.toNat = k.toNat :=
    Nat.min_eq_left hk
  rw [sliceResults_eq_newestFirst, sliceResults_eq_newestFirst, sliceResults_eq_newestFirst,
    hlimit (by omega), hlimit (by omega), hlimit (by omega), hnext, hboth, List.take_add,
    List.drop_drop, List.reverse_append]

/-- A slice of search results is ascending and holds exactly the candidates with ranks from the
offset on, as many as are taken and at most the cap. It depends on nothing but which candidates there
are, and slices that follow each other make up the slice of both. -/
theorem sliceResults_by_rank (candidates : List MessageId) (skip : UInt32) (take : Take)
    (cap : UInt32) :
    (sliceResults candidates skip take cap).Pairwise (· < ·) ∧
    (∀ id, id ∈ sliceResults candidates skip take cap ↔
      id ∈ candidates ∧ skip.toNat ≤ rank candidates id ∧
        rank candidates id < skip.toNat + take.limit cap.toNat) ∧
    (∀ others : List MessageId, (∀ id, id ∈ others ↔ id ∈ candidates) →
      sliceResults others skip take cap = sliceResults candidates skip take cap) ∧
    ∀ n m : UInt32, n.toNat + m.toNat ≤ cap.toNat → skip.toNat + n.toNat < UInt32.size →
      sliceResults candidates (skip + n) (.count m) cap ++
        sliceResults candidates skip (.count n) cap =
          sliceResults candidates skip (.count (n + m)) cap := by
  refine ⟨ascending_sliceResults candidates skip take cap, fun id ↦ mem_sliceResults, ?_, ?_⟩
  · intro others h
    rw [sliceResults_eq_newestFirst, sliceResults_eq_newestFirst, newestFirst_congr h]
  · intro n m hcap hskip
    exact sliceResults_append candidates hcap hskip

theorem sliceResults_by_rank_unsorted :
    let candidates : List MessageId := [⟨9⟩, ⟨3⟩, ⟨7⟩, ⟨3⟩, ⟨1⟩]
    sliceResults candidates 1 (.count 3) 3 = [⟨1⟩, ⟨3⟩, ⟨7⟩] ∧
      sliceResults candidates 2 (.count 2) 3 ++ sliceResults candidates 1 (.count 1) 3 =
        sliceResults candidates 1 (.count 3) 3 ∧
      sliceResults candidates.reverse 1 (.count 3) 3 = sliceResults candidates 1 (.count 3) 3 := by
  intro candidates
  obtain ⟨-, -, hsame, htile⟩ := sliceResults_by_rank candidates 1 (.count 3) 3
  refine ⟨?_, htile 1 2 (by decide) (by decide), ?_⟩
  · have hasc : List.Pairwise (· < ·) [(⟨1⟩ : MessageId), ⟨3⟩, ⟨7⟩, ⟨9⟩] := by decide
    rw [← hsame [⟨1⟩, ⟨3⟩, ⟨7⟩, ⟨9⟩], sliceResults_of_ascending hasc]
    · rfl
    · intro id
      simp only [candidates, List.mem_cons, List.not_mem_nil]
      tauto
  · apply hsame
    intro id
    exact List.mem_reverse

end Slices

def Window.Selects : Window → MessageId → Prop
  | ids set, id => set.contains id = true
  | _, _ => False

section Caps

variable {σ : Type} [Folder σ] {f g : σ} {candidates : List MessageId}

theorem Plan.resolve_of_search {query : Query} (h : Folder.search query f = (.ok candidates, g))
    (skip : UInt32) (take : Take) (cap : UInt32) :
    ∃ w, (Plan.search query skip take).resolve cap f = (.ok w, g) ∧
      ∀ id, w.Selects id ↔ id ∈ sliceResults candidates skip take cap := by
  simp only [resolve, h]
  cases hnone : (sliceResults candidates skip take cap).isEmpty with
  | true =>
    refine ⟨.empty, rfl, fun id ↦ ?_⟩
    rw [List.isEmpty_iff.mp hnone]
    simp [Window.Selects]
  | false =>
    refine ⟨_, rfl, fun id ↦ ?_⟩
    exact contains_list_iff (ascending_sliceResults candidates skip take cap) id

namespace Spec

variable {s : Spec}

/-- A plan for a search asks for the candidates of the ranks that the spec stands for, unless the
offset is not below the cap. -/
theorem selects_by_rank (hm : s.mode = .search) (h : Folder.search s.query f = (.ok candidates, g))
    (count cap : UInt32) :
    ∃ w g', (s.plan count cap).plan.resolve cap f = (.ok w, g') ∧
      ∀ id, w.Selects id ↔ s.skip < cap ∧ id ∈ candidates ∧
        s.skip.toNat ≤ rank candidates id ∧
        rank candidates id < s.skip.toNat + s.take.limit cap.toNat := by
  by_cases ht : s.take = .count 0
  · have hplan : s.plan count cap = ⟨s, .empty, []⟩ := if_pos (decide_eq_true ht)
    refine ⟨.empty, f, by rw [hplan]; rfl, fun id ↦ ⟨False.elim, ?_⟩⟩
    rintro ⟨-, -, hlow, hhigh⟩
    rw [ht, Take.limit] at hhigh
    exact absurd hlow (by simpa using hhigh)
  · obtain ⟨hr, hq⟩ := idRange_of_search hm
    rw [(plan_search ht hr hq).2]
    by_cases hs : cap ≤ s.skip
    · rw [if_pos hs]
      refine ⟨.empty, f, rfl, fun id ↦ ⟨False.elim, fun hid ↦ ?_⟩⟩
      exact absurd hid.1 (UInt32.not_lt.mpr hs)
    · rw [if_neg hs]
      obtain ⟨w, hw, hselects⟩ := Plan.resolve_of_search h s.skip s.take cap
      refine ⟨w, g, hw, fun id ↦ ?_⟩
      rw [hselects, mem_sliceResults]
      exact (and_iff_right (UInt32.not_le.mp hs)).symm

/-- What a search selects are the candidates of the ranks that the spec stands for, if the offset is
below the cap. They are among as many of the newest candidates as the cap says just if the offset is
not below it, offset and length together do not exceed it, or there are no more candidates. -/
theorem selects_within_cap_iff (hm : s.mode = .search)
    (h : Folder.search s.query f = (.ok candidates, g)) (count cap : UInt32) :
    ∃ w g', (s.plan count cap).plan.resolve cap f = (.ok w, g') ∧
      (∀ id, w.Selects id ↔ s.skip < cap ∧ id ∈ candidates ∧
        s.skip.toNat ≤ rank candidates id ∧
        rank candidates id < s.skip.toNat + s.take.limit cap.toNat) ∧
      ((∀ id, w.Selects id → rank candidates id < cap.toNat) ↔
        cap ≤ s.skip ∨ s.skip.toNat + s.take.limit cap.toNat ≤ cap.toNat ∨
          candidates.dedup.length ≤ cap.toNat) := by
  obtain ⟨w, g', hw, hselects⟩ := selects_by_rank hm h count cap
  refine ⟨w, g', hw, hselects, ?_, ?_⟩
  · intro hwithin
    by_contra hbeyond
    obtain ⟨hskip, hend, hlength⟩ : s.skip < cap ∧
        cap.toNat < s.skip.toNat + s.take.limit cap.toNat ∧
        cap.toNat < candidates.dedup.length := by
      rw [not_or, not_or, UInt32.not_le] at hbeyond
      exact ⟨hbeyond.1, by omega, by omega⟩
    -- the newest candidate that the cap leaves out is in the slice
    rw [← (newestFirst_perm_dedup candidates).length_eq] at hlength
    have hrank := rank_newestFirst hlength
    have hid := mem_newestFirst.mp (List.getElem_mem hlength)
    have hle := UInt32.lt_iff_toNat_lt.mp hskip
    have hlt := hwithin _ ((hselects _).mpr ⟨hskip, hid, by omega, by omega⟩)
    omega
  · intro hcap id hid
    obtain ⟨hskip, hmem, -, hend⟩ := (hselects id).mp hid
    rcases hcap with hcap | hcap | hcap
    · exact absurd hskip (UInt32.not_lt.mpr hcap)
    · omega
    · exact Nat.lt_of_lt_of_le (rank_lt_length hmem) hcap

theorem selects_within_cap_iff_gapped :
    let s : Spec := { skip := 1, take := .count 2, query := .unseen }
    let f : MemoryFolder := { MemoryFolder.gapped with access := some .readWrite }
    ∃ w g, (s.plan (Folder.count f) 3).plan.resolve 3 f = (.ok w, g) ∧
      w.Selects ⟨5⟩ ∧ w.Selects ⟨10⟩ ∧
      ∀ id, w.Selects id → rank [⟨3⟩, ⟨5⟩, ⟨10⟩, ⟨12⟩] id < 3 := by
  intro s f
  have hsearch : Folder.search s.query f = (.ok [⟨3⟩, ⟨5⟩, ⟨10⟩, ⟨12⟩], _) := rfl
  obtain ⟨w, g, hw, hselects, hwithin⟩ := selects_within_cap_iff rfl hsearch (Folder.count f) 3
  refine ⟨w, g, hw, (hselects _).mpr (by decide), (hselects _).mpr (by decide), ?_⟩
  exact hwithin.mpr (.inr (.inl (by decide)))

/-- Of three candidates a cap of two stands for the newest two, but after the newest a slice of two
comes to the oldest. -/
theorem selects_beyond_cap :
    let s : Spec := { skip := 1, take := .count 2, query := .unseen }
    let f : MemoryFolder := { MemoryFolder.samples "INBOX" 3 with access := some .readWrite }
    s.mode = .search ∧ (Folder.search s.query f).1 = .ok [⟨1⟩, ⟨2⟩, ⟨3⟩] ∧
      rank [⟨1⟩, ⟨2⟩, ⟨3⟩] ⟨1⟩ = 2 ∧
      ∃ w g, (s.plan (Folder.count f) 2).plan.resolve 2 f = (.ok w, g) ∧ w.Selects ⟨1⟩ := by
  intro s f
  have hsearch : Folder.search s.query f = (.ok [⟨1⟩, ⟨2⟩, ⟨3⟩], _) := rfl
  obtain ⟨w, hw, hselects⟩ := Plan.resolve_of_search hsearch 1 (.count 2) 2
  refine ⟨rfl, congrArg Prod.fst hsearch, by decide, w, _, hw, ?_⟩
  exact (hselects _).mpr (mem_sliceResults.mpr (by decide))

end Spec

end Caps

end MailWindow
