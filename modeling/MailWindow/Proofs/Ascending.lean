import Mathlib.Data.List.Perm.Subperm
import MailWindow.Plan

namespace MailWindow

variable {α β : Type}

section Lists

theorem filter_key_mem_of_sublist [DecidableEq β] (key : α → β) {s l : List α} (h : s.Sublist l)
    (hn : (l.map key).Nodup) : l.filter (fun x ↦ key x ∈ s.map key) = s := by
  have hs : s.Sublist (l.filter fun x ↦ key x ∈ s.map key) := by
    have hf := h.filter fun x ↦ decide (key x ∈ s.map key)
    rwa [List.filter_eq_self.mpr fun x hx ↦ decide_eq_true (List.mem_map_of_mem hx)] at hf
  have hl : (l.filter fun x ↦ key x ∈ s.map key).map key ⊆ s.map key := by
    intro k hk
    obtain ⟨x, hx, rfl⟩ := List.mem_map.mp hk
    exact of_decide_eq_true (List.mem_filter.mp hx).2
  have hle := (List.subperm_of_subset (hn.sublist (List.filter_sublist.map key)) hl).length_le
  rw [List.length_map, List.length_map] at hle
  exact (hs.eq_of_length_le hle).symm

theorem filter_append_filter {p q : α → Bool} {l : List α}
    (h : l.Pairwise fun x y ↦ ¬(q x = true ∧ p y = true))
    (hpq : ∀ x ∈ l, ¬(p x = true ∧ q x = true)) :
    l.filter p ++ l.filter q = l.filter fun x ↦ p x || q x := by
  induction l with
  | nil => rfl
  | cons a l ih =>
    obtain ⟨ha, hl⟩ := List.pairwise_cons.mp h
    have ih := ih hl fun x hx ↦ hpq x (List.mem_cons_of_mem a hx)
    by_cases hp : p a = true
    · have hq : ¬q a = true := fun hq ↦ hpq a List.mem_cons_self ⟨hp, hq⟩
      rw [List.filter_cons_of_pos hp, List.filter_cons_of_neg hq,
        List.filter_cons_of_pos (by simp [hp]), List.cons_append, ih]
    · by_cases hq : q a = true
      · have hnone : l.filter p = [] :=
          List.filter_eq_nil_iff.mpr fun y hy hpy ↦ ha y hy ⟨hq, hpy⟩
        rw [hnone, List.nil_append] at ih
        rw [List.filter_cons_of_neg hp, List.filter_cons_of_pos hq,
          List.filter_cons_of_pos (by simp [hq]), hnone, List.nil_append, ih]
      · rw [List.filter_cons_of_neg hp, List.filter_cons_of_neg hq,
          List.filter_cons_of_neg (by simp [hp, hq]), ih]

end Lists

section Squeeze

variable [DecidableEq α]

theorem squeeze_of_pairwise_ne {l : List α} (h : l.Pairwise (· ≠ ·)) : squeeze l = l := by
  fun_induction squeeze l with
  | case1 a l ih => simp at h
  | case2 a b l hab ih => rw [ih (List.pairwise_cons.mp h).2]
  | case3 l => rfl

theorem squeeze_sublist (l : List α) : (squeeze l).Sublist l := by
  fun_induction squeeze l with
  | case1 a l ih => exact ih.cons _
  | case2 a b l hab ih => exact ih.cons_cons a
  | case3 l => exact .refl l

theorem mem_squeeze {a : α} {l : List α} : a ∈ squeeze l ↔ a ∈ l := by
  refine ⟨fun h ↦ (squeeze_sublist l).subset h, fun h ↦ ?_⟩
  fun_induction squeeze l with
  | case1 b l ih =>
    apply ih
    rcases List.mem_cons.mp h with rfl | h
    · exact List.mem_cons_self
    · exact h
  | case2 b c l hbc ih =>
    rcases List.mem_cons.mp h with rfl | h
    · exact List.mem_cons_self
    · exact List.mem_cons_of_mem b (ih h)
  | case3 l => exact h

theorem pairwise_squeeze {before : α → α → Prop}
    (hanti : ∀ a b, before a b → before b a → a = b) {l : List α} (h : l.Pairwise before) :
    (squeeze l).Pairwise fun a b ↦ before a b ∧ a ≠ b := by
  fun_induction squeeze l with
  | case1 a l ih => exact ih (List.pairwise_cons.mp h).2
  | case2 a b l hab ih =>
    obtain ⟨ha, hl⟩ := List.pairwise_cons.mp h
    refine List.pairwise_cons.mpr ⟨fun x hx ↦ ?_, ih hl⟩
    have hx := (squeeze_sublist (b :: l)).subset hx
    refine ⟨ha x hx, ?_⟩
    rintro rfl
    rcases List.mem_cons.mp hx with heq | hmem
    · exact hab heq
    · exact hab (hanti a b (ha b List.mem_cons_self) ((List.pairwise_cons.mp hl).1 a hmem))
  | case3 l hshort =>
    match l with
    | [] => exact .nil
    | [a] => exact List.pairwise_singleton _ a
    | a :: b :: l => exact absurd rfl (hshort a b l)

end Squeeze

section Sorting

theorem pairwise_mergeSort_of (before : MessageId → MessageId → Prop) [DecidableRel before]
    (htrans : ∀ {a b c}, before a b → before b c → before a c)
    (htotal : ∀ a b, before a b ∨ before b a) (key : α → MessageId) (l : List α) :
    (l.mergeSort fun x y ↦ before (key x) (key y)).Pairwise fun x y ↦ before (key x) (key y) := by
  refine (List.pairwise_mergeSort ?_ ?_ l).imp of_decide_eq_true
  · intro x y z hxy hyz
    exact decide_eq_true (htrans (of_decide_eq_true hxy) (of_decide_eq_true hyz))
  · intro x y
    rw [Bool.or_eq_true, decide_eq_true_eq, decide_eq_true_eq]
    exact htotal (key x) (key y)

theorem pairwise_mergeSort_key (key : α → MessageId) (l : List α) :
    (l.mergeSort fun a b ↦ key a ≤ key b).Pairwise fun a b ↦ key a ≤ key b :=
  pairwise_mergeSort_of (· ≤ ·) MessageId.le_trans MessageId.le_total key l

theorem pairwise_mergeSort_newestFirst (ids : List MessageId) :
    (ids.mergeSort fun a b ↦ b ≤ a).Pairwise fun a b ↦ b ≤ a :=
  pairwise_mergeSort_of (fun a b ↦ b ≤ a) (fun hab hbc ↦ MessageId.le_trans hbc hab)
    (fun a b ↦ MessageId.le_total b a) id ids

theorem ascending_squeeze {ids : List MessageId} (h : ids.Pairwise (· ≤ ·)) :
    (squeeze ids).Pairwise (· < ·) :=
  (pairwise_squeeze MessageId.le_antisymm h).imp fun hab ↦
    MessageId.lt_of_le_of_ne hab.1 hab.2

theorem ascending_ext {ids ids' : List MessageId} (h : ids.Pairwise (· < ·))
    (h' : ids'.Pairwise (· < ·)) (hmem : ∀ id, id ∈ ids ↔ id ∈ ids') : ids = ids' := by
  have hperm : ids.Perm ids' :=
    (List.perm_ext_iff_of_nodup (h.imp MessageId.ne_of_lt) (h'.imp MessageId.ne_of_lt)).mpr hmem
  exact hperm.eq_of_pairwise (fun a b _ _ hab hba ↦ absurd hba (MessageId.lt_asymm hab)) h h'

def newestFirst (candidates : List MessageId) : List MessageId :=
  squeeze (candidates.mergeSort fun a b ↦ b ≤ a)

theorem mem_newestFirst {candidates : List MessageId} {id : MessageId} :
    id ∈ newestFirst candidates ↔ id ∈ candidates :=
  mem_squeeze.trans List.mem_mergeSort

theorem descending_newestFirst (candidates : List MessageId) :
    (newestFirst candidates).Pairwise fun a b ↦ b < a := by
  have hsorted := pairwise_mergeSort_newestFirst candidates
  apply (pairwise_squeeze (fun a b hab hba ↦ MessageId.le_antisymm a b hba hab) hsorted).imp
  intro a b hab
  exact MessageId.lt_of_le_of_ne hab.1 hab.2.symm

theorem newestFirst_of_ascending {ids : List MessageId} (h : ids.Pairwise (· < ·)) :
    newestFirst ids = ids.reverse := by
  have hp : (ids.mergeSort fun a b ↦ decide (b ≤ a)).Perm ids.reverse :=
    (List.mergeSort_perm _ _).trans (List.reverse_perm _).symm
  have hrev : ids.reverse.Pairwise fun a b ↦ b ≤ a :=
    List.pairwise_reverse.mpr (h.imp MessageId.le_of_lt)
  have hsort := hp.eq_of_pairwise (fun a b _ _ hab hba ↦ MessageId.le_antisymm a b hba hab)
    (pairwise_mergeSort_newestFirst ids) hrev
  have hne : ids.reverse.Pairwise (· ≠ ·) :=
    List.pairwise_reverse.mpr (h.imp fun hab ↦ (MessageId.ne_of_lt hab).symm)
  rw [newestFirst, hsort, squeeze_of_pairwise_ne hne]

end Sorting

section Halving

theorem mem_of_halve {above : α → Bool} {xs : List α} {x : α} (h : halve above xs = some x) :
    x ∈ xs := by
  fun_induction halve above xs with
  | case1 xs hx => exact List.mem_of_mem_head? h
  | case2 xs hx half ha ih => exact List.mem_of_mem_take (ih h)
  | case3 xs hx half ha ih => exact List.mem_of_mem_drop (ih h)

theorem halve_map (key : α → β) (above : β → Bool) (xs : List α) :
    (halve (fun x ↦ above (key x)) xs).map key = halve above (xs.map key) := by
  fun_induction halve (fun x ↦ above (key x)) xs with
  | case1 xs hx => rw [halve, dif_pos (by rwa [List.length_map]), List.head?_map]
  | case2 xs hx half ha ih =>
    conv_rhs => rw [halve, dif_neg (by rwa [List.length_map])]
    simp only [ih, List.length_map, List.getElem_map, List.map_take]
    rw [if_pos ha]
  | case3 xs hx half ha ih =>
    conv_rhs => rw [halve, dif_neg (by rwa [List.length_map])]
    simp only [ih, List.length_map, List.getElem_map, List.map_drop]
    rw [if_neg ha]

theorem ascending_getElem_le {ids : List MessageId} (h : ids.Pairwise (· < ·)) {i j : Nat}
    (hij : i ≤ j) (hj : j < ids.length) : ids[i] ≤ ids[j] := by
  rcases Nat.lt_or_eq_of_le hij with hlt | rfl
  · exact MessageId.le_of_lt (List.pairwise_iff_getElem.mp h i j (by omega) hj hlt)
  · exact UInt32.le_refl _

theorem halve_of_mem {ids : List MessageId} (h : ids.Pairwise (· < ·)) {id : MessageId}
    (hm : id ∈ ids) : halve (id < ·) ids = some id := by
  fun_induction halve (id < ·) ids with
  | case1 ids hl =>
    obtain ⟨i, hi, rfl⟩ := List.getElem_of_mem hm
    obtain rfl : i = 0 := by omega
    exact List.head?_eq_getElem?.trans (List.getElem?_eq_getElem hi)
  | case2 ids hl half ha ih =>
    refine ih (h.sublist (List.take_sublist _ _)) ?_
    obtain ⟨i, hi, rfl⟩ := List.getElem_of_mem hm
    have hlt : i < half := by
      by_contra hge
      have hle := ascending_getElem_le h (Nat.le_of_not_lt hge) hi
      exact MessageId.not_lt_of_le hle (of_decide_eq_true ha)
    exact List.mem_take_iff_getElem.mpr ⟨i, by omega, rfl⟩
  | case3 ids hl half ha ih =>
    refine ih (h.sublist (List.drop_sublist _ _)) ?_
    obtain ⟨i, hi, rfl⟩ := List.getElem_of_mem hm
    have hge : half ≤ i := by
      by_contra hlt
      exact ha (decide_eq_true (List.pairwise_iff_getElem.mp h i half hi _ (by omega)))
    refine List.mem_drop_iff_getElem.mpr ⟨i - half, by omega, ?_⟩
    congr 1
    omega

theorem contains_list_iff {ids : List MessageId} (h : ids.Pairwise (· < ·)) (id : MessageId) :
    (IdSet.list ids).contains id = true ↔ id ∈ ids := by
  simp only [IdSet.contains, decide_eq_true_eq]
  exact ⟨mem_of_halve, halve_of_mem h⟩

namespace IdSet

/-- What a set is meant to hold. Finding it in a list by halving presumes that the list ascends. -/
def Holds : IdSet → MessageId → Prop
  | range r, id => r.start ≤ id ∧ id ≤ r.stop
  | list ids, id => id ∈ ids

def IsAscending : IdSet → Prop
  | range _ => True
  | list ids => ids.Pairwise (· < ·)

instance (set : IdSet) : DecidablePred set.Holds := fun id ↦
  match set with
  | range r => inferInstanceAs (Decidable (r.start ≤ id ∧ id ≤ r.stop))
  | list ids => inferInstanceAs (Decidable (id ∈ ids))

theorem contains_iff_holds {set : IdSet} (h : set.IsAscending) (id : MessageId) :
    set.contains id = true ↔ set.Holds id := by
  cases set with
  | range r =>
    rw [contains, IdRange.contains, Bool.and_eq_true, decide_eq_true_eq, decide_eq_true_eq]
    rfl
  | list ids => exact contains_list_iff h id

end IdSet

end Halving

section Slices

def Take.limit (t : Take) (bound : Nat) : Nat :=
  match t with
  | .all => bound
  | .count n => min n.toNat bound

theorem take_limit_count (l : List α) (n : UInt32) {bound : Nat} (h : l.length ≤ bound) :
    l.take ((Take.count n).limit bound) = l.take n.toNat := by
  refine List.take_eq_take_iff.mpr ?_
  simp only [Take.limit]
  omega

/-- The part of an ascending list that begins `skip` entries before its end and reaches back over
`limit` entries. -/
def slice (l : List α) (skip limit : Nat) : List α := ((l.reverse.drop skip).take limit).reverse

theorem slice_sublist (l : List α) (skip limit : Nat) : (slice l skip limit).Sublist l := by
  have h : ((l.reverse.drop skip).take limit).Sublist l.reverse :=
    (List.take_sublist _ _).trans (List.drop_sublist _ _)
  simpa only [slice, List.reverse_reverse] using h.reverse

theorem map_slice (f : α → β) (l : List α) (skip limit : Nat) :
    (slice l skip limit).map f = slice (l.map f) skip limit := by
  simp only [slice, List.map_reverse, List.map_take, List.map_drop]

theorem slice_eq_nil_iff {l : List α} {skip limit : Nat} (h : 0 < limit) :
    slice l skip limit = [] ↔ l.length ≤ skip := by
  rw [slice, List.reverse_eq_nil_iff, List.take_eq_nil_iff, List.drop_eq_nil_iff,
    List.length_reverse]
  omega

theorem take_count_elim (take : Take) (cap : UInt32) :
    (take.count?.elim cap fun n ↦ min n cap).toNat = take.limit cap.toNat := by
  cases take with
  | all => rfl
  | count n => exact Word.toNat_min n cap

theorem sliceResults_eq_newestFirst (candidates : List MessageId) (skip : UInt32) (take : Take)
    (cap : UInt32) : sliceResults candidates skip take cap =
      (((newestFirst candidates).drop skip.toNat).take (take.limit cap.toNat)).reverse := by
  rw [← take_count_elim]
  rfl

theorem sliceResults_of_ascending {ids : List MessageId} (h : ids.Pairwise (· < ·))
    (skip : UInt32) (take : Take) (cap : UInt32) :
    sliceResults ids skip take cap = slice ids skip.toNat (take.limit cap.toNat) := by
  rw [sliceResults_eq_newestFirst, newestFirst_of_ascending h, slice]

theorem ascending_sliceResults (candidates : List MessageId) (skip : UInt32) (take : Take)
    (cap : UInt32) : (sliceResults candidates skip take cap).Pairwise (· < ·) := by
  rw [sliceResults_eq_newestFirst, List.pairwise_reverse]
  have hsub : (((newestFirst candidates).drop skip.toNat).take (take.limit cap.toNat)).Sublist
      (newestFirst candidates) := (List.take_sublist _ _).trans (List.drop_sublist _ _)
  exact (descending_newestFirst candidates).sublist hsub

theorem sliceResults_subset (candidates : List MessageId) (skip : UInt32) (take : Take)
    (cap : UInt32) : sliceResults candidates skip take cap ⊆ candidates := by
  intro id hid
  rw [sliceResults_eq_newestFirst, List.mem_reverse] at hid
  exact mem_newestFirst.mp (List.mem_of_mem_drop (List.mem_of_mem_take hid))

theorem length_sliceResults_le_limit (candidates : List MessageId) (skip : UInt32) (take : Take)
    (cap : UInt32) : (sliceResults candidates skip take cap).length ≤ take.limit cap.toNat := by
  rw [sliceResults_eq_newestFirst, List.length_reverse]
  exact List.length_take_le _ _

end Slices

end MailWindow
