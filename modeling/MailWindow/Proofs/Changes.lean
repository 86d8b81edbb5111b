import MailWindow.Proofs.Agreement
import MailWindow.Proofs.Tilings
import MailWindow.Proofs.Walks

namespace MailWindow

variable {α : Type}

theorem pairwise_take_drop {R : α → α → Prop} {l : List α} (h : l.Pairwise R) {n : Nat} {a b : α}
    (ha : a ∈ l.take n) (hb : b ∈ l.drop n) : R a b := by
  rw [← List.take_append_drop n l] at h
  exact (List.pairwise_append.mp h).2.2 a ha b hb

theorem IndexRange.of?_eq_some {start stop : UInt32} {range : IndexRange}
    (h : IndexRange.of? start stop = some range) :
    range.start = start ∧ range.stop = stop ∧ start ≤ stop := by
  unfold IndexRange.of? at h
  split at h
  · next hle =>
    obtain rfl := Option.some.inj h
    exact ⟨rfl, rfl, hle⟩
  · cases h

theorem indexRange_within {count skip : UInt32} {take : Take} (hs : skip < count)
    {range : IndexRange} (h : indexRange count skip take = some range) :
    range.start = skip ∧ skip.toNat + range.size ≤ count.toNat ∧
      ∀ n, take = .count n → n ≠ 0 → range.size ≤ n.toNat := by
  have hs := UInt32.lt_iff_toNat_lt.mp hs
  have hlast : (Word.subOrZero count 1).toNat = count.toNat - 1 := Word.toNat_subOrZero count 1
  obtain ⟨hstart, hstop, hle⟩ := IndexRange.of?_eq_some h
  rw [UInt32.le_iff_toNat_le] at hle
  refine ⟨hstart, ?_, ?_⟩
  · have hbound : range.stop.toNat ≤ count.toNat - 1 := by
      rw [hstop, ← hlast]
      cases take with
      | all => exact Nat.le_refl _
      | count n => exact Word.toNat_min _ _ ▸ Nat.min_le_right _ _
    rw [IndexRange.size, hstart]
    omega
  · rintro n rfl hn
    have hpos := Word.toNat_pos hn
    have hwidth : range.stop.toNat ≤ skip.toNat + (n.toNat - 1) := by
      rw [hstop, Word.toNat_min, Word.toNat_addOrMax, Word.toNat_subOrZero]
      exact (Nat.min_le_left _ _).trans (Nat.min_le_left _ _)
    rw [IndexRange.size, hstart]
    omega

theorem IdRange.lt_start_of_next? {range next : IdRange} (h : range.next? = some next) :
    range.stop < next.start ∧ range.start ≤ range.stop := by
  unfold IdRange.next? at h
  split at h
  · cases h
  · next hstop =>
    obtain rfl := Option.some.inj h
    obtain ⟨htop, hinverted⟩ := not_or.mp (Bool.or_eq_true_iff.not.mp hstop)
    have hne : range.stop.val.toNat ≠ UInt32.size - 1 := by
      intro heq
      exact htop (decide_eq_true (MessageId.eq_iff_toNat.mpr heq))
    have hlt := range.stop.val.toNat_lt_size
    have hfits : range.stop.val.toNat + 1 < UInt32.size := by omega
    have hsucc : (range.stop.val + 1).toNat = range.stop.val.toNat + 1 :=
      Word.toNat_add_of_lt hfits
    rw [IdRange.isInverted, decide_eq_true_eq, MessageId.lt_iff_toNat] at hinverted
    rw [MessageId.lt_iff_toNat, MessageId.le_iff_toNat]
    exact ⟨by rw [hsucc]; omega, by omega⟩

namespace Spec

variable {s : Spec} {returned : Nat} {count : UInt32}

theorem advance_pending {mode : Mode}
    (hc : (s.advance mode returned count).spec.continuous = true) :
    s.continuous = true ∧ returned ≠ 0 := by
  cases hs : s.continuous with
  | false =>
    have hstopped : s.advance mode returned count = .stopped s := by simp [advance, hs]
    rw [hstopped] at hc
    exact absurd hc (Bool.eq_false_iff.mp hs)
  | true =>
    refine ⟨rfl, ?_⟩
    rintro rfl
    rw [advance_zero hs] at hc
    cases hc

theorem advance_idRange_pending (hc : (s.advance .idRange returned count).spec.continuous = true)
    {range : IdRange} (hr : s.idRange = some range) : ∃ next, range.next? = some next ∧
      (s.advance .idRange returned count).spec = { s with idRange := some next } := by
  obtain ⟨hs, hreturned⟩ := advance_pending hc
  cases hn : range.next? with
  | none =>
    rw [advance_of_next?_eq_none hs hr hreturned hn] at hc
    cases hc
  | some next =>
    rw [advance_of_next?_eq_some hs hr hreturned hn]
    exact ⟨next, rfl, rfl⟩

/-- A chain that moves by an offset goes on only by a count, and if that many more are a word. -/
theorem advance_offset_pending {mode : Mode} (hm : mode = .search ∨ mode = .index)
    (hc : (s.advance mode returned count).spec.continuous = true) : ∃ n skip,
      s.take = .count n ∧ n ≠ 0 ∧ Word.add? s.skip n = some skip ∧
        (s.advance mode returned count).spec = { s with skip := min skip count } := by
  obtain ⟨hs, hreturned⟩ := advance_pending hc
  cases hskip : s.nextSkip? with
  | none =>
    have hend : s.advance mode returned count = .exhausted s.stopped := by
      rcases hm with rfl | rfl <;> simp [advance, hs, hreturned, hskip]
    rw [hend] at hc
    cases hc
  | some skip =>
    have hnext : s.advance mode returned count = .next { s with skip := min skip count } := by
      rcases hm with rfl | rfl <;> simp [advance, hs, hreturned, hskip]
    unfold nextSkip? at hskip
    split at hskip
    · cases hskip
    · next n htake =>
      split at hskip
      · cases hskip
      · next hn => exact ⟨n, skip, htake, hn, hskip, by rw [hnext, Continuation.spec]⟩

end Spec

namespace Reader

open MemoryFolder

variable {r r' : Reader MemoryFolder}

/-- What a reader may still come to: nothing below the start of its range, or before its offset. -/
def Ahead (r : Reader MemoryFolder) (id : MessageId) : Prop :=
  match r.spec.idRange with
  | some range => range.start ≤ id
  | none => id ∈ r.folder.ids.drop r.spec.skip.toNat

theorem ahead_of_idRange {range : IdRange} (hr : r.spec.idRange = some range) (id : MessageId) :
    r.Ahead id ↔ range.start ≤ id := by
  rw [Ahead, hr]

theorem ahead_of_index (hr : r.spec.idRange = none) (id : MessageId) :
    r.Ahead id ↔ id ∈ r.folder.ids.drop r.spec.skip.toNat := by
  rw [Ahead, hr]

theorem following_idRange (ht : r.spec.take ≠ .count 0) {range : IdRange}
    (hr : r.spec.idRange = some range) (returned : Nat) :
    r.following returned = r.spec.advance .idRange returned (Folder.count r.folder) := by
  rw [following, Spec.plan_idRange ht hr, Spec.mode_idRange hr]

theorem contents_idRange (ht : r.spec.take ≠ .count 0) {range : IdRange}
    (hr : r.spec.idRange = some range) {e : Stored × Nat} (he : e ∈ r.contents) :
    range.contains e.1.id = true := by
  rw [contents, visit, Spec.plan_idRange ht hr] at he
  cases hi : range.isInverted with
  | true =>
    rw [hi] at he
    cases he
  | false =>
    rw [hi] at he
    exact (List.mem_filter.mp he).2

section Index

variable (ht : r.spec.take ≠ .count 0) (hr : r.spec.idRange = none)
  (hq : r.spec.query.isAll = true) (hn : r.spec.newest = none)

include ht hr hq hn

theorem following_index (hs : r.spec.skip < Folder.count r.folder) (returned : Nat) :
    r.following returned = r.spec.advance .index returned (Folder.count r.folder) := by
  rw [following, Spec.plan_index ht hr hq hn hs, Spec.mode_index hr hq hn]

theorem contents_index (hs : r.spec.skip < Folder.count r.folder) :
    ∃ width, r.contents = (r.folder.entries.drop r.spec.skip.toNat).take width ∧
      r.spec.skip.toNat + width ≤ (Folder.count r.folder).toNat ∧
      ∀ n, r.spec.take = .count n → n ≠ 0 → width ≤ n.toNat := by
  obtain ⟨range, hrange, -, -⟩ := indexRange_of_lt hs ht
  obtain ⟨hstart, hend, hwidth⟩ := indexRange_within hs hrange
  refine ⟨range.size, ?_, hend, hwidth⟩
  rw [contents, visit, Spec.plan_index ht hr hq hn hs, hrange, ← hstart]
  rfl

theorem contents_beyond (hs : ¬r.spec.skip < Folder.count r.folder) :
    r.contents = [] ∧ (r.following r.contents.length).spec.continuous = false := by
  have hplan : (r.spec.plan (Folder.count r.folder) r.config.searchCap).plan = .empty :=
    (Spec.plan_beyond ht hr hq hn hs).2
  have hnone : r.contents = [] := by
    rw [contents, visit, hplan]
    rfl
  refine ⟨hnone, Bool.eq_false_iff.mpr fun hc ↦ ?_⟩
  rw [hnone] at hc
  exact (Spec.advance_pending hc).2 rfl

end Index

theorem mem_ids_of_mem_slice {f : MemoryFolder} {a k : Nat} {e : Stored × Nat}
    (he : e ∈ (f.entries.drop a).take k) :
    e.1.id ∈ f.ids.drop a ∧ e.1.id ∈ f.ids.take (a + k) := by
  have hmem : e.1.id ∈ (f.ids.drop a).take k := by
    rw [← map_id_entries, ← List.map_drop, ← List.map_take]
    exact List.mem_map_of_mem he
  refine ⟨List.mem_of_mem_take hmem, ?_⟩
  have hswap : (f.ids.take (a + k)).drop a = (f.ids.drop a).take k := by
    rw [List.drop_take, Nat.add_sub_cancel_left]
  rw [← hswap] at hmem
  exact List.mem_of_mem_drop hmem

/-- What a call does to what is ahead: it delivers some of it, and what is left for the next call
lies above that. -/
structure Passes (r r' : Reader MemoryFolder) : Prop where
  delivers : ∀ e ∈ r.contents, r.Ahead e.1.id
  mode : r'.spec.continuous = true → r'.spec.mode = r.spec.mode
  leaves : r'.spec.continuous = true → ∀ id, r'.Ahead id → r.Ahead id
  above : r'.spec.continuous = true → ∀ e ∈ r.contents, ∀ id, r'.Ahead id → e.1.id < id

theorem Passes.of_isZero (ht : r.spec.take.isZero = true) : r.Passes r := by
  have hnone := contents_of_isZero ht
  refine ⟨?_, fun _ ↦ rfl, fun _ _ h ↦ h, ?_⟩
  · rw [hnone]
    exact fun e he ↦ nomatch he
  · rw [hnone]
    exact fun _ e he ↦ nomatch he

theorem Covered.passes_idRange (hcovered : r.Covered r') {range : IdRange}
    (hr : r.spec.idRange = some range) : r.Passes r' := by
  cases hcovered with
  | idle ht => exact .of_isZero ht
  | visited ht hv =>
    have ht : r.spec.take ≠ .count 0 := of_decide_eq_false ht
    have hmem {e : Stored × Nat} (he : e ∈ r.contents) := contents_idRange ht hr he
    have hspec := hv.spec
    rw [following_idRange ht hr] at hspec
    have hnext (hc : r'.spec.continuous = true) : ∃ next, r'.spec.idRange = some next ∧
        range.stop < next.start ∧ range.start ≤ range.stop := by
      rw [hspec] at hc
      obtain ⟨next, hnext, hs⟩ := Spec.advance_idRange_pending hc hr
      exact ⟨next, by rw [hspec, hs], IdRange.lt_start_of_next? hnext⟩
    simp only [IdRange.contains_iff] at hmem
    refine ⟨fun e he ↦ ?_, fun hc ↦ ?_, fun hc id hid ↦ ?_, fun hc e he id hid ↦ ?_⟩
    · rw [ahead_of_idRange hr, MessageId.le_iff_toNat]
      exact (hmem he).1
    · obtain ⟨next, hr', -⟩ := hnext hc
      rw [Spec.mode_idRange hr', Spec.mode_idRange hr]
    · obtain ⟨next, hr', hlt, hle⟩ := hnext hc
      rw [ahead_of_idRange hr', MessageId.le_iff_toNat] at hid
      rw [MessageId.lt_iff_toNat] at hlt
      rw [MessageId.le_iff_toNat] at hle
      rw [ahead_of_idRange hr, MessageId.le_iff_toNat]
      omega
    · obtain ⟨next, hr', hlt, -⟩ := hnext hc
      rw [ahead_of_idRange hr', MessageId.le_iff_toNat] at hid
      rw [MessageId.lt_iff_toNat] at hlt ⊢
      have hstop := (hmem he).2
      omega

theorem Covered.passes_index (hcovered : r.Covered r') (h : r.folder.ids.Pairwise (· < ·))
    (hr : r.spec.idRange = none) (hq : r.spec.query.isAll = true) (hn : r.spec.newest = none) :
    r.Passes r' := by
  cases hcovered with
  | idle ht => exact .of_isZero ht
  | @visited r' _ ht hv =>
    have ht : r.spec.take ≠ .count 0 := of_decide_eq_false ht
    have hspec := hv.spec
    by_cases hs : r.spec.skip < Folder.count r.folder
    · obtain ⟨width, hcontents, hend, hwidth⟩ := contents_index ht hr hq hn hs
      have hmem {e : Stored × Nat} (he : e ∈ r.contents) := mem_ids_of_mem_slice (hcontents ▸ he)
      rw [following_index ht hr hq hn hs] at hspec
      -- the next offset lies after what is delivered now
      have hnext (hc : r'.spec.continuous = true) : ∃ skip,
          r'.spec = { r.spec with skip } ∧ r.spec.skip.toNat + width ≤ skip.toNat := by
        rw [hspec] at hc
        obtain ⟨n, skip, htake, hn0, hadd, hs⟩ := Spec.advance_offset_pending (.inr rfl) hc
        refine ⟨_, hspec.trans hs, ?_⟩
        have hle := hwidth n htake hn0
        rw [Word.toNat_min, Word.toNat_of_add? hadd]
        omega
      have hahead {skip : UInt32} (hs : r'.spec = { r.spec with skip }) (id : MessageId) :
          r'.Ahead id ↔ id ∈ r.folder.ids.drop skip.toNat := by
        rw [ahead_of_index (by rw [hs]; exact hr), ids_of_stored hv.stored, hs]
      refine ⟨fun e he ↦ ?_, fun hc ↦ ?_, fun hc id hid ↦ ?_, fun hc e he id hid ↦ ?_⟩
      · exact (ahead_of_index hr _).mpr (hmem he).1
      · obtain ⟨skip, hs, -⟩ := hnext hc
        rw [hs, Spec.mode_skip]
      · obtain ⟨skip, hs, hle⟩ := hnext hc
        rw [hahead hs] at hid
        rw [ahead_of_index hr]
        exact (List.drop_sublist_drop_left _ (by omega)).subset hid
      · obtain ⟨skip, hs, hle⟩ := hnext hc
        rw [hahead hs] at hid
        exact pairwise_take_drop h (hmem he).2 ((List.drop_sublist_drop_left _ hle).subset hid)
    · obtain ⟨hnone, hstopped⟩ := contents_beyond ht hr hq hn hs
      have hover (hc : r'.spec.continuous = true) : False := by
        rw [hspec, hstopped] at hc
        cases hc
      refine ⟨?_, fun hc ↦ (hover hc).elim, fun hc ↦ (hover hc).elim, fun hc ↦ (hover hc).elim⟩
      rw [hnone]
      exact fun e he ↦ nomatch he

theorem Covered.passes (hcovered : r.Covered r') (h : r.folder.ids.Pairwise (· < ·))
    (hm : r.spec.mode = .index ∨ r.spec.mode = .idRange) : r.Passes r' := by
  cases hr : r.spec.idRange with
  | some range => exact hcovered.passes_idRange hr
  | none =>
    cases hq : r.spec.query.isAll with
    | false =>
      rw [Spec.mode_search hr hq] at hm
      rcases hm with hm | hm <;> cases hm
    | true =>
      cases hn : r.spec.newest with
      | none => exact hcovered.passes_index h hr hq hn
      | some n =>
        rw [Spec.mode_newest hr hq hn] at hm
        rcases hm with hm | hm <;> cases hm

end Reader

namespace Outcome

def delivered : Outcome → List MessageId
  | .summaries (.ok found) => found.map (·.id)
  | .messages (.ok ms) => ms.map (·.id)
  | .stream items _ => (items.filterMap Except.toOption).map (·.id)
  | _ => []

def isSaved : Outcome → Bool
  | .saved .. => true
  | _ => false

theorem Covers.delivered_eq {path : String → Message → String} {o : Outcome} {ids : List MessageId}
    (h : o.Covers path ids) (hs : o.isSaved = false) : o.delivered = ids := by
  cases h with
  | summaries found => rfl
  | messages ms => rfl
  | saved dir ms s => cases hs
  | stream ms =>
    have hall : (ms.map (Except.ok : Message → Except Error Message)).filterMap Except.toOption = ms := by
      rw [List.filterMap_map]
      exact List.filterMap_some
    rw [delivered, hall]

end Outcome

namespace Request

variable {q : Request} {r : Reader MemoryFolder}

/-- A request that hands the messages of its window to the caller, and is never cancelled. -/
def Delivers : Request → Prop
  | .summaries => True
  | .messages cancelled => ∀ n, cancelled n = false
  | .stream cancelled _ => ∀ n, cancelled n = false
  | _ => False

theorem Delivers.unhindered (hq : q.Delivers) : q.Unhindered r := by
  cases q with
  | saving => exact hq.elim
  | message => exact hq.elim
  | _ => exact hq

theorem perform_delivers (hq : q.Delivers) (hf : r.folder.faults = [])
    (h : r.folder.ids.Pairwise (· < ·)) (hcomplete : (q.perform r).1.isComplete = true) :
    (q.perform r).1.delivered = r.contents.map (·.1.id) ∧ r.Covered (q.perform r).2 := by
  obtain ⟨hcovers, hcovered⟩ := perform_covers hq.unhindered hf h hcomplete
  refine ⟨hcovers.delivered_eq ?_, hcovered⟩
  cases q with
  | saving => exact hq.elim
  | message => exact hq.elim
  | _ => rfl

end Request

/-- A chain of calls while the folder changes between them: the identifiers that each call has
delivered, those that the folder has held so far, and the reader now. -/
inductive Chain (start : Reader MemoryFolder) :
    List (List MessageId) → List MessageId → Reader MemoryFolder → Prop
  | start : Chain start [] start.folder.ids start
  | call {delivered : List (List MessageId)} {held : List MessageId} {r : Reader MemoryFolder}
      (q : Request) (chain : Chain start delivered held r) (pending : r.spec.continuous = true)
      (delivers : q.Delivers) (complete : (q.perform r).1.isComplete = true) :
      Chain start (delivered ++ [(q.perform r).1.delivered]) held (q.perform r).2
  | expunge {delivered : List (List MessageId)} {held : List MessageId} {r : Reader MemoryFolder}
      (id : MessageId) (chain : Chain start delivered held r) :
      Chain start delivered held { r with folder := (r.folder.expunge id).2 }
  | setFlags {delivered : List (List MessageId)} {held : List MessageId} {r : Reader MemoryFolder}
      (id : MessageId) (flags : List String) (chain : Chain start delivered held r) :
      Chain start delivered held { r with folder := r.folder.setFlags id flags }
  | arrive {delivered : List (List MessageId)} {held : List MessageId} {r : Reader MemoryFolder}
      (id : MessageId) (raw : List UInt8) (received : Instant)
      (chain : Chain start delivered held r) (fresh : ∀ i ∈ held, i < id) :
      Chain start delivered (held ++ [id]) { r with folder := r.folder.insert id raw received }

namespace Chain

open Reader MemoryFolder

variable {start r : Reader MemoryFolder} {delivered : List (List MessageId)} {held : List MessageId}

/-- What is kept by the calls of a chain and by the changes between them. While the chain is
pending, all that is ahead lies above all that has been delivered. -/
structure Sound (delivered : List (List MessageId)) (held : List MessageId)
    (r : Reader MemoryFolder) : Prop where
  faults : r.folder.faults = []
  ascending : r.folder.ids.Pairwise (· < ·)
  present : ∀ i ∈ r.folder.ids, i ∈ held
  known : ∀ ids ∈ delivered, ∀ i ∈ ids, i ∈ held
  apart : delivered.Pairwise fun earlier later ↦ ∀ i ∈ earlier, ∀ j ∈ later, i < j
  inner : ∀ ids ∈ delivered, ids.Pairwise (· < ·)
  mode : r.spec.continuous = true → r.spec.mode = .index ∨ r.spec.mode = .idRange
  above : r.spec.continuous = true → ∀ ids ∈ delivered, ∀ i ∈ ids, ∀ j, r.Ahead j → i < j

theorem Sound.call (hs : Sound delivered held r) {q : Request}
    (pending : r.spec.continuous = true) (delivers : q.Delivers)
    (complete : (q.perform r).1.isComplete = true) :
    Sound (delivered ++ [(q.perform r).1.delivered]) held (q.perform r).2 := by
  obtain ⟨hdelivered, hcovered⟩ :=
    Request.perform_delivers delivers hs.faults hs.ascending complete
  have hpasses := hcovered.passes hs.ascending (hs.mode pending)
  have hstored := hcovered.stored
  have hids : (q.perform r).2.folder.ids = r.folder.ids := ids_of_stored hstored
  have hsublist := r.ids_contents_sublist
  rw [hdelivered]
  refine ⟨(faults_of_stored hstored).trans hs.faults, hids ▸ hs.ascending, hids ▸ hs.present,
    ?_, ?_, ?_, ?_, ?_⟩
  · intro ids hmem i hi
    rcases List.mem_append.mp hmem with hmem | hmem
    · exact hs.known ids hmem i hi
    · obtain rfl := List.mem_singleton.mp hmem
      exact hs.present i (hsublist.subset hi)
  · refine List.pairwise_append.mpr ⟨hs.apart, List.pairwise_singleton _ _, ?_⟩
    intro earlier hearlier later hlater i hi j hj
    obtain rfl := List.mem_singleton.mp hlater
    obtain ⟨e, he, rfl⟩ := List.mem_map.mp hj
    exact hs.above pending earlier hearlier i hi _ (hpasses.delivers e he)
  · intro ids hmem
    rcases List.mem_append.mp hmem with hmem | hmem
    · exact hs.inner ids hmem
    · obtain rfl := List.mem_singleton.mp hmem
      exact hs.ascending.sublist hsublist
  · intro hc
    rw [hpasses.mode hc]
    exact hs.mode pending
  · intro hc ids hmem i hi j hj
    rcases List.mem_append.mp hmem with hmem | hmem
    · exact hs.above pending ids hmem i hi j (hpasses.leaves hc j hj)
    · obtain rfl := List.mem_singleton.mp hmem
      obtain ⟨e, he, rfl⟩ := List.mem_map.mp hi
      exact hpasses.above hc e he j hj

theorem ahead_of_change {f : MemoryFolder} {new : List MessageId}
    (hids : f.ids.Sublist (r.folder.ids ++ new)) {j : MessageId}
    (hj : Ahead { r with folder := f } j) : r.Ahead j ∨ j ∈ new := by
  cases hr : r.spec.idRange with
  | some range =>
    rw [ahead_of_idRange (r := { r with folder := f }) hr] at hj
    exact .inl ((ahead_of_idRange hr j).mpr hj)
  | none =>
    rw [ahead_of_index (r := { r with folder := f }) hr] at hj
    have hj := (hids.drop _).subset hj
    rw [List.drop_append] at hj
    exact (List.mem_append.mp hj).imp (ahead_of_index hr j).mpr List.mem_of_mem_drop

/-- Messages may go, and come if their identifiers are above all that was ever there. -/
theorem Sound.change (hs : Sound delivered held r) {f : MemoryFolder} (hf : f.faults = [])
    {new : List MessageId} (hids : f.ids.Sublist (r.folder.ids ++ new))
    (hnew : new.Pairwise (· < ·)) (fresh : ∀ i ∈ held, ∀ j ∈ new, i < j) :
    Sound delivered (held ++ new) { r with folder := f } := by
  refine ⟨hf, ?_, ?_, ?_, hs.apart, hs.inner, hs.mode, ?_⟩
  · refine (List.pairwise_append.mpr ⟨hs.ascending, hnew, ?_⟩).sublist hids
    intro i hi j hj
    exact fresh i (hs.present i hi) j hj
  · intro i hi
    exact List.mem_append.mpr ((List.mem_append.mp (hids.subset hi)).imp (hs.present i) id)
  · intro ids hmem i hi
    exact List.mem_append_left _ (hs.known ids hmem i hi)
  · intro hc ids hmem i hi j hj
    rcases ahead_of_change hids hj with hj | hj
    · exact hs.above hc ids hmem i hi j hj
    · exact fresh i (hs.known ids hmem i hi) j hj

theorem sound (hf : start.folder.faults = []) (h : start.folder.ids.Pairwise (· < ·))
    (hm : start.spec.mode = .index ∨ start.spec.mode = .idRange)
    (chain : Chain start delivered held r) : Sound delivered held r := by
  induction chain with
  | start =>
    exact ⟨hf, h, fun i hi ↦ hi, fun _ hmem ↦ (List.not_mem_nil hmem).elim, .nil,
      fun _ hmem ↦ (List.not_mem_nil hmem).elim, fun _ ↦ hm,
      fun _ _ hmem ↦ (List.not_mem_nil hmem).elim⟩
  | call q _ pending delivers complete ih => exact ih.call pending delivers complete
  | @expunge _ held r id _ ih =>
    rw [← List.append_nil held]
    refine ih.change (f := (r.folder.expunge id).2) ih.faults ?_ .nil fun _ _ _ hj ↦ nomatch hj
    rw [List.append_nil]
    exact ids_expunge_sublist r.folder id
  | @setFlags _ held r id flags _ ih =>
    rw [← List.append_nil held]
    refine ih.change (f := r.folder.setFlags id flags) ih.faults ?_ .nil fun _ _ _ hj ↦ nomatch hj
    rw [List.append_nil, ids_setFlags]
  | @arrive _ _ r id raw received _ fresh ih =>
    refine ih.change (f := r.folder.insert id raw received) ih.faults ?_
      (List.pairwise_singleton _ _) fun i hi j hj ↦ ?_
    · rw [ids_insert]
    · obtain rfl := List.mem_singleton.mp hj
      exact fresh i hi

/-- A chain over positions or identifier ranges delivers in ascending order over all its calls, and
so nothing twice, whatever is removed or flagged between the calls and whatever arrives with an
identifier above all that the folder has ever held. -/
theorem delivered_ascending (hf : start.folder.faults = [])
    (h : start.folder.ids.Pairwise (· < ·))
    (hm : start.spec.mode = .index ∨ start.spec.mode = .idRange)
    (chain : Chain start delivered held r) :
    (delivered.Pairwise fun earlier later ↦ ∀ i ∈ earlier, ∀ j ∈ later, i < j) ∧
      delivered.flatten.Nodup := by
  have hs := sound hf h hm chain
  refine ⟨hs.apart, ?_⟩
  have hflat : delivered.flatten.Pairwise (· < ·) := List.pairwise_flatten.mpr ⟨hs.inner, hs.apart⟩
  exact hflat.imp MessageId.ne_of_lt

theorem delivered_ascending_gapped : ∃ delivered held r,
    Chain { folder := gapped, spec := { skip := 2, take := .count 2, continuous := true } }
      delivered held r ∧
    delivered.map (·.map (·.val)) = [[5, 9], [12, 20]] ∧ delivered.flatten.Nodup := by
  have first : Chain
      { folder := gapped, spec := { skip := 2, take := .count 2, continuous := true } } _ _ _ :=
    .call (.messages fun _ ↦ false) .start rfl (fun _ ↦ rfl) rfl
  have second := Chain.call (.stream (fun _ ↦ false) 3)
    ((first.expunge ⟨3⟩).arrive ⟨20⟩ [] { seconds := 0 } (by decide +kernel)) (by decide +kernel)
    (fun _ ↦ rfl) (by decide +kernel)
  obtain ⟨-, hnodup⟩ := delivered_ascending rfl (by decide) (by decide) second
  exact ⟨_, _, _, second, by decide +kernel, hnodup⟩

end Chain

end MailWindow
