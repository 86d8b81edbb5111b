import MailWindow.Folder.Memory

namespace MailWindow

inductive Change where
  | insert (id : MessageId) (raw : List UInt8) (received : Instant)
  | push (raw : List UInt8) (now : Instant)
  | expunge (id : MessageId)
  | setFlags (id : MessageId) (flags : List String)
  | select (access : Access)
  | close (expunge : Bool)
  | inject (fault : Fault)
  | clearFaults

namespace Change

def apply (f : MemoryFolder) : Change → MemoryFolder
  | insert id raw received => f.insert id raw received
  | push raw now => (f.push raw now).2
  | expunge id => (f.expunge id).2
  | setFlags id flags => f.setFlags id flags
  | select access => (f.select access).2
  | close purge => (f.close purge).2
  | inject fault => f.inject fault
  | clearFaults => f.clearFaults

def added (f : MemoryFolder) : Change → List MessageId
  | insert id _ _ => [id]
  | push _ _ => [f.nextId]
  | _ => []

/-- Messages are inserted by increasing identifiers. -/
def Increasing (f : MemoryFolder) : Change → Prop
  | insert id _ _ => ∀ i ∈ f.ids, i < id
  | _ => True

/-- Messages are pushed only where there is an identifier after the last. -/
def Spared (f : MemoryFolder) : Change → Prop
  | push _ _ => f.ids.getLast? ≠ some .top
  | _ => True

instance (f : MemoryFolder) : DecidablePred (Increasing f)
  | insert id _ _ => inferInstanceAs (Decidable (∀ i ∈ f.ids, i < id))
  | push .. | expunge .. | setFlags .. | select .. | close .. | inject .. | clearFaults =>
    inferInstanceAs (Decidable True)

instance (f : MemoryFolder) : DecidablePred (Spared f)
  | push .. => inferInstanceAs (Decidable (f.ids.getLast? ≠ some .top))
  | insert .. | expunge .. | setFlags .. | select .. | close .. | inject .. | clearFaults =>
    inferInstanceAs (Decidable True)

variable {f : MemoryFolder}

theorem ids_select (f : MemoryFolder) (access : Access) : (f.select access).2.ids = f.ids := by
  unfold MemoryFolder.select
  dsimp only
  split <;> rfl

theorem ids_close_sublist (f : MemoryFolder) (purge : Bool) :
    (f.close purge).2.ids.Sublist f.ids := by
  unfold MemoryFolder.close
  dsimp only
  split
  · exact .refl f.ids
  · cases purge with
    | false => exact .refl f.ids
    | true => exact List.filter_sublist.map _

theorem ids_apply_sublist (f : MemoryFolder) (c : Change) :
    (c.apply f).ids.Sublist (f.ids ++ c.added f) := by
  cases c with
  | insert id raw received => exact f.ids_insert id raw received ▸ .refl _
  | push raw now => exact f.ids_insert f.nextId raw now ▸ .refl _
  | expunge id => exact (f.ids_expunge_sublist id).trans (List.sublist_append_left _ _)
  | setFlags id flags => exact f.ids_setFlags id flags ▸ List.sublist_append_left _ _
  | select access => exact ids_select f access ▸ List.sublist_append_left _ _
  | close purge => exact (ids_close_sublist f purge).trans (List.sublist_append_left _ _)
  | inject fault => exact List.sublist_append_left _ _
  | clearFaults => exact List.sublist_append_left _ _

theorem pairwise_added {R : MessageId → MessageId → Prop} (f : MemoryFolder) (c : Change) :
    (c.added f).Pairwise R := by
  cases c with
  | insert id => exact List.pairwise_singleton R id
  | push => exact List.pairwise_singleton R f.nextId
  | _ => exact .nil

end Change

namespace MemoryFolder

variable {f start : MemoryFolder} {cs : List Change}

def after (f : MemoryFolder) (cs : List Change) : MemoryFolder := cs.foldl Change.apply f

def Throughout (P : MemoryFolder → Change → Prop) (f : MemoryFolder) : List Change → Prop
  | [] => True
  | c :: cs => P f c ∧ Throughout P (c.apply f) cs

instance (P : MemoryFolder → Change → Prop) [∀ f, DecidablePred (P f)] (f : MemoryFolder) :
    DecidablePred (f.Throughout P) := go f
where
  go (f : MemoryFolder) : DecidablePred (f.Throughout P)
    | [] => inferInstanceAs (Decidable True)
    | c :: cs =>
      have := go (c.apply f) cs
      inferInstanceAs (Decidable (P f c ∧ Throughout P (c.apply f) cs))

/-- The identifiers that have been in use, at first or after any of some changes. -/
def used (f : MemoryFolder) : List Change → List MessageId
  | [] => f.ids
  | c :: cs => f.ids ++ used (c.apply f) cs

theorem ids_after_subset_used (f : MemoryFolder) (cs : List Change) :
    (f.after cs).ids ⊆ f.used cs := by
  induction cs generalizing f with
  | nil => exact List.Subset.refl _
  | cons c cs ih => exact List.subset_append_of_subset_right f.ids (ih (c.apply f))

/-- Identifiers stay in an order if what each change adds comes after all that is in use. -/
theorem pairwise_after {R : MessageId → MessageId → Prop} {P : MemoryFolder → Change → Prop}
    (hstep : ∀ f c, f.ids.Pairwise R → P f c → ∀ i ∈ f.ids, ∀ j ∈ c.added f, R i j)
    (h : start.ids.Pairwise R) (hc : start.Throughout P cs) : (start.after cs).ids.Pairwise R := by
  induction cs generalizing start with
  | nil => exact h
  | cons c cs ih =>
    refine ih (.sublist (c.ids_apply_sublist start) ?_) hc.2
    exact List.pairwise_append.mpr ⟨h, c.pairwise_added start, hstep start c h hc.1⟩

section Next

theorem nextId_eq (f : MemoryFolder) : f.nextId = f.ids.getLast?.elim ⟨1⟩ (·.addOrTop 1) := by
  rw [ids, List.getLast?_map, nextId]
  cases f.messages.getLast? <;> rfl

theorem toNat_nextId {last : MessageId} (h : f.ids.getLast? = some last) :
    f.nextId.val.toNat = min (last.val.toNat + 1) (UInt32.size - 1) := by
  rw [nextId_eq, h]
  exact MessageId.toNat_addOrTop last 1

theorem exists_last (h : f.ids.Pairwise (· ≤ ·)) {j : MessageId} (hj : j ∈ f.ids) :
    ∃ last ∈ f.ids, f.ids.getLast? = some last ∧ j ≤ last := by
  cases hl : f.ids.getLast? with
  | none =>
    rw [List.getLast?_eq_none_iff.mp hl] at hj
    cases hj
  | some last =>
    refine ⟨last, List.mem_of_getLast? hl, rfl, ?_⟩
    obtain ⟨before, hbefore⟩ := List.getLast?_eq_some_iff.mp hl
    rw [hbefore] at h hj
    rcases List.mem_append.mp hj with hj | hj
    · exact (List.pairwise_append.mp h).2.2 j hj last List.mem_cons_self
    · exact List.mem_singleton.mp hj ▸ UInt32.le_refl _

theorem le_nextId (h : f.ids.Pairwise (· ≤ ·)) {j : MessageId} (hj : j ∈ f.ids) : j ≤ f.nextId := by
  obtain ⟨last, -, hl, hle⟩ := exists_last h hj
  have hlt := j.val.toNat_lt_size
  rw [MessageId.le_iff_toNat] at hle ⊢
  rw [toNat_nextId hl]
  omega

theorem lt_nextId (h : f.ids.Pairwise (· ≤ ·)) (ht : .top ∉ f.ids) {i j : MessageId}
    (hj : j ∈ f.ids) (hij : i ≤ j) : i < f.nextId := by
  obtain ⟨last, hmem, hl, hle⟩ := exists_last h hj
  have hne : last.val.toNat ≠ UInt32.size - 1 := by
    intro heq
    obtain rfl : last = .top := MessageId.eq_iff_toNat.mpr heq
    exact ht hmem
  have hlt := last.val.toNat_lt_size
  rw [MessageId.le_iff_toNat] at hle hij
  rw [MessageId.lt_iff_toNat, toNat_nextId hl]
  omega

theorem zero_lt_nextId (f : MemoryFolder) : ⟨0⟩ < f.nextId := by
  cases hl : f.ids.getLast? with
  | none =>
    rw [nextId_eq, hl]
    decide
  | some last =>
    rw [MessageId.lt_iff_toNat, toNat_nextId hl]
    exact Nat.lt_min.mpr ⟨Nat.succ_pos _, by decide⟩

theorem exists_le_of_lt_nextId {i : MessageId} (hi : i < f.nextId) :
    i = ⟨0⟩ ∨ ∃ j ∈ f.ids, i ≤ j := by
  cases hl : f.ids.getLast? with
  | none =>
    rw [nextId_eq, hl, MessageId.lt_iff_toNat] at hi
    exact .inl (MessageId.eq_iff_toNat.mpr (Nat.lt_one_iff.mp hi))
  | some last =>
    rw [MessageId.lt_iff_toNat, toNat_nextId hl] at hi
    exact .inr ⟨last, List.mem_of_getLast? hl, MessageId.le_iff_toNat.mpr (by omega)⟩

end Next

end MemoryFolder

namespace Change

variable {f : MemoryFolder} {c : Change}

theorem Increasing.le_added (h : f.ids.Pairwise (· ≤ ·)) (hc : c.Increasing f) :
    ∀ i ∈ f.ids, ∀ j ∈ c.added f, i ≤ j := by
  intro i hi j hj
  cases c with
  | insert id => exact List.mem_singleton.mp hj ▸ MessageId.le_of_lt (hc i hi)
  | push => exact List.mem_singleton.mp hj ▸ MemoryFolder.le_nextId h hi
  | _ => cases hj

theorem Increasing.lt_added (h : f.ids.Pairwise (· < ·)) (hc : c.Increasing f) (hs : c.Spared f) :
    ∀ i ∈ f.ids, ∀ j ∈ c.added f, i < j := by
  intro i hi j hj
  cases c with
  | insert id => exact List.mem_singleton.mp hj ▸ hc i hi
  | push =>
    have hle := h.imp MessageId.le_of_lt
    have ht : .top ∉ f.ids := by
      intro ht
      obtain ⟨last, -, hl, htop⟩ := MemoryFolder.exists_last hle ht
      exact hs (hl.trans (congrArg some (MessageId.eq_top_of_le htop)))
    exact List.mem_singleton.mp hj ▸ MemoryFolder.lt_nextId hle ht hi (UInt32.le_refl _)
  | _ => cases hj

end Change

namespace MemoryFolder

variable {start : MemoryFolder} {cs : List Change}

/-- Where messages are inserted by increasing identifiers, a message that is pushed gets one that is
above all in use, unless the largest one is. It is above all that have ever been in use just if none
of these was above those that still are. -/
theorem push_above_used_iff (h : start.ids.Pairwise (· ≤ ·))
    (hc : start.Throughout Change.Increasing cs) (raw : List UInt8) (now : Instant) :
    let f := start.after cs
    let id := (f.push raw now).1
    (∀ i ∈ f.ids, i ≤ id) ∧ ((∀ i ∈ f.ids, i < id) ↔ .top ∉ f.ids) ∧
      ((∀ i ∈ start.used cs, i < id) ↔
        .top ∉ f.ids ∧ ∀ i ∈ start.used cs, i = ⟨0⟩ ∨ ∃ j ∈ f.ids, i ≤ j) := by
  intro f id
  have hle : f.ids.Pairwise (· ≤ ·) := pairwise_after (fun _ _ ↦ Change.Increasing.le_added) h hc
  have htop : ¬MessageId.top < id := fun hlt ↦ by
    have hid := id.val.toNat_lt_size
    rw [MessageId.lt_iff_toNat, MessageId.toNat_top] at hlt
    omega
  refine ⟨fun i hi ↦ le_nextId hle hi, ⟨fun hlt ht ↦ htop (hlt _ ht), fun ht i hi ↦ ?_⟩,
    fun hlt ↦ ⟨fun ht ↦ ?_, fun i hi ↦ exists_le_of_lt_nextId (hlt i hi)⟩, ?_⟩
  · exact lt_nextId hle ht hi (UInt32.le_refl _)
  · exact htop (hlt _ (ids_after_subset_used start cs ht))
  · rintro ⟨ht, hcovered⟩ i hi
    rcases hcovered i hi with rfl | ⟨j, hj, hij⟩
    · exact zero_lt_nextId f
    · exact lt_nextId hle ht hj hij

theorem push_above_used_iff_gapped :
    let start : MemoryFolder := { name := "Archive" }
    let cs : List Change := [.push [] { seconds := 0 }, .push [] { seconds := 0 }, .expunge ⟨1⟩,
      .insert ⟨9⟩ [] { seconds := 0 }, .push [] { seconds := 0 }]
    (∀ i ∈ start.used cs, i < ⟨11⟩) ∧ ((start.after cs).push [] { seconds := 0 }).1 = ⟨11⟩ := by
  intro start cs
  obtain ⟨-, -, hused⟩ := @push_above_used_iff start cs .nil (by decide) [] { seconds := 0 }
  exact ⟨hused.mpr ⟨by decide, by decide⟩, rfl⟩

/-- After the newest message is gone, its identifier is given to the next one. -/
theorem push_reissues :
    let start : MemoryFolder := { name := "Archive" }
    let cs : List Change := [.push [] { seconds := 0 }, .push [] { seconds := 0 }, .expunge ⟨2⟩]
    start.Throughout Change.Increasing cs ∧ ⟨2⟩ ∈ start.used cs ∧
      ((start.after cs).push [] { seconds := 0 }).1 = ⟨2⟩ := by
  decide

end MemoryFolder

end MailWindow
