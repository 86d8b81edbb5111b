import Mathlib.Data.List.DropRight
import MailWindow.Proofs.Changes
import MailWindow.Proofs.Places

namespace MailWindow

section Lists

variable {α : Type}

theorem rdrop_append_rtake (l : List α) (n : Nat) : l.rdrop n ++ l.rtake n = l :=
  List.take_append_drop _ l

theorem rdrop_rdrop (l : List α) (m n : Nat) : (l.rdrop m).rdrop n = l.rdrop (m + n) := by
  rw [List.rdrop, List.rdrop, List.rdrop, List.take_take, List.length_take]
  congr 1
  omega

theorem rtake_sublist_rtake (l : List α) {m n : Nat} (h : m ≤ n) :
    (l.rtake m).Sublist (l.rtake n) :=
  List.drop_sublist_drop_left l (by omega)

theorem slice_eq_rtake_rdrop (l : List α) (skip limit : Nat) :
    slice l skip limit = (l.rdrop skip).rtake limit := by
  rw [slice, List.rtake_eq_reverse_take_reverse, List.rdrop_eq_reverse_drop_reverse,
    List.reverse_reverse]

theorem countP_rdrop_append_le (p : α → Bool) (l new : List α) (k : Nat) :
    ((l ++ new).rdrop k).countP p ≤ (l.rdrop k).countP p + new.length := by
  have hle : l.length - k ≤ l.length := Nat.sub_le _ _
  have hprefix : ((l ++ new).rdrop k).Sublist
      (l.rdrop k ++ ((l ++ new).drop (l.length - k)).take new.length) := by
    have hsplit : (l ++ new).take (l.length - k + new.length) =
        l.rdrop k ++ ((l ++ new).drop (l.length - k)).take new.length := by
      rw [List.take_add, List.take_append_of_le_length hle, List.rdrop]
    rw [← hsplit, List.rdrop, List.length_append]
    exact List.take_sublist_take_left (by omega)
  have hcount := hprefix.countP_le (p := p)
  have hrest : (((l ++ new).drop (l.length - k)).take new.length).countP p ≤ new.length :=
    List.countP_le_length.trans (List.length_take_le _ _)
  rw [List.countP_append] at hcount
  omega

theorem map_eq_of_map_eq {β γ : Type} {f g : α → β} {key : α → γ}
    (hkey : ∀ a b, f a = g b → key a = key b) {l l' : List α} (h : l.map f = l'.map g) :
    l.map key = l'.map key := by
  induction l generalizing l' with
  | nil =>
    obtain rfl := List.map_eq_nil_iff.mp h.symm
    rfl
  | cons a l ih =>
    obtain ⟨b, l', rfl, hab, hrest⟩ := List.map_eq_cons_iff.mp h.symm
    rw [List.map_cons, List.map_cons, hkey a b hab.symm, ih hrest.symm]

theorem length_dedup_append_ge [DecidableEq α] {l new : List α} (h : new.Nodup) :
    l.dedup.length + new.countP (· ∉ l) ≤ (l ++ new).dedup.length := by
  have hnodup : (l.dedup ++ new.filter (· ∉ l)).Nodup := by
    refine List.nodup_append'.mpr ⟨l.nodup_dedup, h.filter _, ?_⟩
    intro a ha hfresh
    exact of_decide_eq_true (List.mem_filter.mp hfresh).2 (List.mem_dedup.mp ha)
  have hsubset : l.dedup ++ new.filter (· ∉ l) ⊆ (l ++ new).dedup := by
    intro a ha
    rw [List.mem_dedup]
    rcases List.mem_append.mp ha with ha | ha
    · exact List.mem_append_left _ (List.mem_dedup.mp ha)
    · exact List.mem_append_right _ (List.mem_of_mem_filter ha)
  have hle := (List.subperm_of_subset hnodup hsubset).length_le
  rwa [List.length_append, ← List.countP_eq_length_filter] at hle

end Lists

namespace MemoryFolder

theorem results_insert (f : MemoryFolder) (id : MessageId) (raw : List UInt8) (received : Instant)
    (query : Query) : ∃ new, (f.insert id raw received).results query = f.results query ++ new ∧
      new.length ≤ (Stored.satisfies { id, raw, received } query).toNat := by
  let arrived := ([{ id, raw, received }] : List Stored).filter (·.satisfies query)
  let known := (f.messages.filter (·.satisfies query)).map (·.id)
  refine ⟨(arrived.map (·.id)).take (f.searchCap - known.length), ?_, ?_⟩
  · rw [results, insert, List.filter_append, List.map_append, List.take_append]
    rfl
  · refine (List.length_take_le' _ _).trans ?_
    rw [List.length_map]
    cases hm : Stored.satisfies { id, raw, received } query <;> simp [arrived, hm]

end MemoryFolder

theorem Outcome.Covers.unique {σ : Type} {r : Reader σ} {o : Outcome} {ids ids' : List MessageId}
    (h : o.Covers r.savePath ids) (h' : o.Covers r.savePath ids') : ids = ids' := by
  cases hs : o.isSaved with
  | false => exact (h.delivered_eq hs).symm.trans (h'.delivered_eq hs)
  | true =>
    cases o with
    | saved result s =>
      obtain ⟨dir, ms, rfl, rfl⟩ := h.of_saved
      obtain ⟨dir', ms', hpaths, rfl⟩ := h'.of_saved
      exact map_eq_of_map_eq (fun _ _ ↦ Reader.id_eq_of_savePath) (Except.ok.inj hpaths)
    | _ => cases hs

namespace Reader

open MemoryFolder

variable {r r' : Reader MemoryFolder}

/-- The search results that are still ahead: those past the offset, counted from the newest. -/
def older (r : Reader MemoryFolder) : List MessageId :=
  (r.folder.results r.spec.query).rdrop r.spec.skip.toNat

/-- What a search delivers: the newest of what is still ahead, unless the offset is past the cap. -/
def due (r : Reader MemoryFolder) : List MessageId :=
  if r.config.searchCap ≤ r.spec.skip then []
  else r.older.rtake (r.spec.take.limit r.config.searchCap.toNat)

theorem due_sublist (r : Reader MemoryFolder) :
    r.due.Sublist (r.older.rtake (r.spec.take.limit r.config.searchCap.toNat)) := by
  unfold due
  split
  · exact List.nil_sublist _
  · exact List.Sublist.refl _

theorem map_id_contents (h : r.folder.ids.Pairwise (· < ·)) (ht : r.spec.take ≠ .count 0)
    (hm : r.spec.mode = .search) : r.contents.map (·.1.id) = r.due := by
  obtain ⟨hr, hq⟩ := Spec.idRange_of_search hm
  rw [contents, visit, (Spec.plan_search ht hr hq).2, due]
  split
  · rfl
  · rw [Plan.contents, sliceResults_of_ascending (results_ascending h _), filter_contains_slice h,
      ← slice_results, slice_eq_rtake_rdrop, older]

theorem following_search (ht : r.spec.take ≠ .count 0) (hm : r.spec.mode = .search)
    (returned : Nat) :
    r.following returned = r.spec.advance .search returned (Folder.count r.folder) := by
  obtain ⟨hr, hq⟩ := Spec.idRange_of_search hm
  rw [following, (Spec.plan_search ht hr hq).1, hm]

theorem Akin.perform_search {s : Reader MemoryFolder} (hakin : s.Akin r)
    (hf : s.folder.faults = []) (h : s.folder.ids.Pairwise (· < ·)) (ht : s.spec.take ≠ .count 0)
    (hm : s.spec.mode = .search) {q : Request} (hq : q.Unhindered r)
    (hcomplete : (q.perform r).1.isComplete = true) :
    (q.perform r).1.Covers r.savePath s.due ∧ Akin
      { s with spec := (s.spec.advance .search s.due.length (Folder.count s.folder)).spec }
      (q.perform r).2 := by
  have hids : r.folder.ids.Pairwise (· < ·) := ids_of_stored hakin.stored ▸ h
  obtain ⟨hcovers, hcovered⟩ :=
    Request.perform_covers hq ((faults_of_stored hakin.stored).trans hf) hids hcomplete
  have hdue : r.due = s.due := by
    have hresults := eq_of_stored (fun f ↦ f.results s.spec.query) (fun _ ↦ rfl) hakin.stored
    simp only [due, older, hakin.spec, hakin.config, hresults]
  rw [map_id_contents hids (hakin.spec ▸ ht) (hakin.spec ▸ hm), hdue] at hcovers
  refine ⟨hcovers, ?_⟩
  generalize (q.perform r).2 = r' at hcovered ⊢
  cases hcovered with
  | idle hidle => exact absurd (of_decide_eq_true hidle) (hakin.spec ▸ ht)
  | visited _ hv =>
    have hlength : r.contents.length = s.due.length := by
      rw [← hdue, ← map_id_contents hids (hakin.spec ▸ ht) (hakin.spec ▸ hm), List.length_map]
    rw [Advanced, hlength, hakin.following_eq, following_search ht hm] at hv
    exact ⟨hv.spec, hv.config.trans hakin.config, hv.stored.trans hakin.stored,
      hv.borrowed_eq.trans hakin.borrowed⟩

theorem rdrop_min_count (f : MemoryFolder) (query : Query) {skip next : UInt32} {n : UInt32}
    (hadd : Word.add? skip n = some next) :
    (f.results query).rdrop (min next (Folder.count f)).toNat =
      ((f.results query).rdrop skip.toNat).rdrop n.toNat := by
  have hnext := Word.toNat_of_add? hadd
  have hlt := next.toNat_lt_size
  have hcount := toNat_count_eq_min f
  have hlength := length_results_le f query
  rw [rdrop_rdrop, ← hnext, Word.toNat_min, hcount, List.rdrop, List.rdrop]
  congr 1
  omega

/-- The step of a search chain: a call delivers some of the newest results ahead, and if it goes on,
then with the results before them. -/
theorem Covered.older (hcovered : r.Covered r') (h : r.folder.ids.Pairwise (· < ·))
    (hm : r.spec.mode = .search) : ∃ n, (r.contents.map (·.1.id)).Sublist (r.older.rtake n) ∧
      (r'.spec.continuous = true → r'.older = r.older.rdrop n ∧ r'.spec.query = r.spec.query ∧
        r'.spec.mode = .search) := by
  cases hcovered with
  | idle ht =>
    refine ⟨0, ?_, fun _ ↦ ⟨(List.rdrop_zero _).symm, rfl, hm⟩⟩
    rw [contents_of_isZero ht]
    exact List.nil_sublist _
  | @visited r' _ ht hv =>
    have ht : r.spec.take ≠ .count 0 := of_decide_eq_false ht
    have hspec := hv.spec
    have hnewest := map_id_contents h ht hm ▸ r.due_sublist
    rw [following_search ht hm] at hspec
    cases hc : r'.spec.continuous with
    | false => exact ⟨_, hnewest, by simp⟩
    | true =>
      rw [hspec] at hc
      obtain ⟨n, skip, htake, -, hadd, hnext⟩ := Spec.advance_offset_pending (.inl rfl) hc
      have hspec := hspec.trans hnext
      refine ⟨n.toNat, hnewest.trans (rtake_sublist_rtake _ ?_), fun _ ↦ ⟨?_, ?_⟩⟩
      · rw [htake]
        exact Nat.min_le_left _ _
      · have hresults := eq_of_stored (fun f ↦ f.results r.spec.query) (fun _ ↦ rfl) hv.stored
        rw [Reader.older, hspec, hresults]
        exact rdrop_min_count r.folder r.spec.query hadd
      · rw [hspec, Spec.mode_skip]
        exact ⟨rfl, hm⟩

end Reader

/-- A chain of calls while messages arrive between them, each with an identifier above those in the
folder: the identifiers of the messages that each call has retrieved or saved, how many arrivals the
query matches, and the reader now. -/
inductive Feed (start : Reader MemoryFolder) :
    List (List MessageId) → Nat → Reader MemoryFolder → Prop
  | start : Feed start [] 0 start
  | call {delivered : List (List MessageId)} {matched : Nat} {r : Reader MemoryFolder}
      (q : Request) (ids : List MessageId) (feed : Feed start delivered matched r)
      (pending : r.spec.continuous = true) (unhindered : q.Unhindered r)
      (covers : (q.perform r).1.Covers r.savePath ids) :
      Feed start (delivered ++ [ids]) matched (q.perform r).2
  | arrive {delivered : List (List MessageId)} {matched : Nat} {r : Reader MemoryFolder}
      (id : MessageId) (raw : List UInt8) (received : Instant)
      (feed : Feed start delivered matched r) (fresh : ∀ i ∈ r.folder.ids, i < id) :
      Feed start delivered
        (matched + (Stored.satisfies { id, raw, received } start.spec.query).toNat)
        { r with folder := r.folder.insert id raw received }

namespace Feed

open Reader MemoryFolder

variable {start r : Reader MemoryFolder} {delivered : List (List MessageId)} {matched : Nat}

/-- What is kept by calls and arrivals. What has been delivered again, together with what is ahead
though it has been delivered, is paid for by arrivals that the query matches. -/
structure Sound (start : Reader MemoryFolder) (delivered : List (List MessageId)) (matched : Nat)
    (r : Reader MemoryFolder) : Prop where
  faults : r.folder.faults = []
  ascending : r.folder.ids.Pairwise (· < ·)
  inner : ∀ ids ∈ delivered, ids.Nodup
  search : r.spec.continuous = true → r.spec.query = start.spec.query ∧ r.spec.mode = .search
  paid : delivered.flatten.length ≤ delivered.flatten.dedup.length + matched
  ahead : r.spec.continuous = true → delivered.flatten.length +
    r.older.countP (· ∈ delivered.flatten) ≤ delivered.flatten.dedup.length + matched

/-- Delivering some of the last entries of a list: those that were delivered before no longer lie
ahead. -/
theorem paid_append {known new older : List MessageId} {n : Nat} (hnodup : new.Nodup)
    (holder : older.Nodup) (hnew : new.Sublist (older.rtake n))
    (hpaid : known.length + older.countP (· ∈ known) ≤ known.dedup.length + matched) :
    (known ++ new).length + (older.rdrop n).countP (· ∈ known ++ new) ≤
      (known ++ new).dedup.length + matched := by
  have hdedup := length_dedup_append_ge (l := known) hnodup
  have hsplit : new.countP (· ∈ known) + new.countP (· ∉ known) = new.length := by
    rw [List.length_eq_countP_add_countP (· ∈ known)]
    simp only [decide_not, decide_eq_true_eq]
  have hagain := hnew.countP_le (p := (· ∈ known))
  have hparts : older.countP (· ∈ known) =
      (older.rdrop n).countP (· ∈ known) + (older.rtake n).countP (· ∈ known) := by
    rw [← List.countP_append, rdrop_append_rtake]
  have hapart : (older.rdrop n).countP (· ∈ known ++ new) =
      (older.rdrop n).countP (· ∈ known) := by
    rw [← rdrop_append_rtake older n] at holder
    refine List.countP_congr fun i hi ↦ ?_
    have hfresh : i ∉ new := fun hin ↦
      List.disjoint_of_nodup_append holder hi (hnew.subset hin)
    simp only [List.mem_append, hfresh, or_false]
  rw [hapart, List.length_append]
  omega

theorem Sound.call (hs : Sound start delivered matched r) {q : Request} {ids : List MessageId}
    (pending : r.spec.continuous = true) (unhindered : q.Unhindered r)
    (covers : (q.perform r).1.Covers r.savePath ids) :
    Sound start (delivered ++ [ids]) matched (q.perform r).2 := by
  obtain ⟨hcovers, hcovered⟩ :=
    Request.perform_covers unhindered hs.faults hs.ascending covers.isComplete
  obtain rfl := covers.unique hcovers
  obtain ⟨hquery, hmode⟩ := hs.search pending
  obtain ⟨n, hnewest, hnext⟩ := hcovered.older hs.ascending hmode
  have hnodup : (r.contents.map (·.1.id)).Nodup :=
    (hs.ascending.sublist r.ids_contents_sublist).imp MessageId.ne_of_lt
  have hstored := hcovered.stored
  have hresults : (r.folder.results r.spec.query).Nodup :=
    (results_ascending hs.ascending _).imp MessageId.ne_of_lt
  have hpaid := paid_append hnodup (hresults.sublist (List.take_sublist _ _)) hnewest
    (hs.ahead pending)
  have hflat : (delivered ++ [r.contents.map (·.1.id)]).flatten =
      delivered.flatten ++ r.contents.map (·.1.id) := by
    rw [List.flatten_append, List.flatten_singleton]
  refine ⟨(faults_of_stored hstored).trans hs.faults, ids_of_stored hstored ▸ hs.ascending, ?_,
    fun hc ↦ ?_, ?_, fun hc ↦ ?_⟩
  · intro ids hmem
    rcases List.mem_append.mp hmem with hmem | hmem
    · exact hs.inner ids hmem
    · obtain rfl := List.mem_singleton.mp hmem
      exact hnodup
  · obtain ⟨-, hsame, hsearch⟩ := hnext hc
    exact ⟨hsame.trans hquery, hsearch⟩
  · rw [hflat]
    exact (Nat.le_add_right _ _).trans hpaid
  · rw [hflat, (hnext hc).1]
    exact hpaid

theorem Sound.arrive (hs : Sound start delivered matched r) (id : MessageId) (raw : List UInt8)
    (received : Instant) (fresh : ∀ i ∈ r.folder.ids, i < id) :
    Sound start delivered
      (matched + (Stored.satisfies { id, raw, received } start.spec.query).toNat)
      { r with folder := r.folder.insert id raw received } := by
  refine ⟨hs.faults, ?_, hs.inner, hs.search, ?_, fun hc ↦ ?_⟩
  · rw [ids_insert]
    refine List.pairwise_append.mpr ⟨hs.ascending, List.pairwise_singleton _ _, ?_⟩
    intro i hi j hj
    obtain rfl := List.mem_singleton.mp hj
    exact fresh i hi
  · exact hs.paid.trans (Nat.add_le_add_left (Nat.le_add_right _ _) _)
  · have hahead := hs.ahead hc
    obtain ⟨new, hresults, hlength⟩ :=
      results_insert r.folder id raw received r.spec.query
    have hgrown := countP_rdrop_append_le (· ∈ delivered.flatten)
      (r.folder.results r.spec.query) new r.spec.skip.toNat
    rw [(hs.search hc).1] at hlength
    simp only [older] at hahead ⊢
    rw [hresults]
    omega

theorem sound (hf : start.folder.faults = []) (h : start.folder.ids.Pairwise (· < ·))
    (hm : start.spec.mode = .search) (feed : Feed start delivered matched r) :
    Sound start delivered matched r := by
  induction feed with
  | start =>
    refine ⟨hf, h, fun _ hmem ↦ (List.not_mem_nil hmem).elim, fun _ ↦ ⟨rfl, hm⟩, Nat.le_refl _,
      fun _ ↦ ?_⟩
    simp
  | call q ids _ pending unhindered covers ih => exact ih.call pending unhindered covers
  | arrive id raw received _ fresh ih => exact ih.arrive id raw received fresh

section Akin

variable {s : Reader MemoryFolder} (feed : ∃ r, Feed start delivered matched r ∧ s.Akin r)

include feed

theorem searched {q : Request}
    (hq : ∀ r, s.Akin r → q.Unhindered r ∧ (q.perform r).1.isComplete = true)
    (hf : s.folder.faults = []) (h : s.folder.ids.Pairwise (· < ·))
    (hc : s.spec.continuous = true) (ht : s.spec.take ≠ .count 0) (hm : s.spec.mode = .search) :
    ∃ r, Feed start (delivered ++ [s.due]) matched r ∧ Akin
      { s with spec := (s.spec.advance .search s.due.length (Folder.count s.folder)).spec } r := by
  obtain ⟨r, feed, hakin⟩ := feed
  obtain ⟨hunhindered, hcomplete⟩ := hq r hakin
  obtain ⟨hcovers, hnext⟩ := hakin.perform_search hf h ht hm hunhindered hcomplete
  exact ⟨_, feed.call q _ (hakin.spec ▸ hc) hunhindered hcovers, hnext⟩

theorem arrived (id : MessageId) (raw : List UInt8) (received : Instant)
    (fresh : ∀ i ∈ s.folder.ids, i < id) :
    ∃ r, Feed start delivered
        (matched + (Stored.satisfies { id, raw, received } start.spec.query).toNat) r ∧
      Akin { s with folder := s.folder.insert id raw received } r := by
  obtain ⟨r, feed, hakin⟩ := feed
  refine ⟨_, feed.arrive id raw received (ids_of_stored hakin.stored ▸ fresh), ?_⟩
  exact ⟨hakin.spec, hakin.config, congrArg (·.insert id raw received) hakin.stored,
    hakin.borrowed⟩

end Akin

def oneByOne : Reader MemoryFolder :=
  { folder := gapped, spec := { query := .unseen, take := .count 1, continuous := true } }

theorem feed_oneByOne : ∃ r, Feed oneByOne [[⟨12⟩], [⟨12⟩], [⟨10⟩]] 1 r := by
  have none : Feed oneByOne [] 0 oneByOne := .start
  have first := searched (q := .summaries) ⟨_, none, .refl _⟩ (fun _ _ ↦ ⟨trivial, rfl⟩) rfl
    (by decide) rfl (by decide) (by decide)
  have second := searched (q := .saving "box" true (fun _ _ ↦ false) ({} : RecordingSink))
    (arrived first ⟨20⟩ [] { seconds := 0 } (by decide))
    (fun _ _ ↦ ⟨⟨fun _ _ ↦ rfl, RecordingSink.serves rfl rfl _ _ _⟩, rfl⟩) rfl (by decide)
    (by decide +kernel) (by decide +kernel) (by decide +kernel)
  obtain ⟨r, feed, -⟩ := searched (q := .messages fun _ ↦ false) second
    (fun _ _ ↦ ⟨fun _ ↦ rfl, rfl⟩) rfl (by decide) (by decide +kernel) (by decide +kernel)
    (by decide +kernel)
  exact ⟨r, feed⟩

/-- A chain over search results delivers messages again no more often than messages arrive that its
query matches. So if the query matches no arrival, nothing is delivered twice. -/
theorem redelivered_le_matched (hf : start.folder.faults = [])
    (h : start.folder.ids.Pairwise (· < ·)) (hm : start.spec.mode = .search)
    (feed : Feed start delivered matched r) :
    (∀ ids ∈ delivered, ids.Nodup) ∧
      delivered.flatten.length ≤ delivered.flatten.dedup.length + matched ∧
      (matched = 0 → delivered.flatten.Nodup) := by
  have hs := sound hf h hm feed
  refine ⟨hs.inner, hs.paid, ?_⟩
  rintro rfl
  exact List.dedup_eq_self.mp ((List.dedup_sublist _).eq_of_length_le hs.paid)

theorem redelivered_le_matched_oneByOne : ∃ delivered r, Feed oneByOne delivered 1 r ∧
    delivered.flatten.length ≤ delivered.flatten.dedup.length + 1 := by
  obtain ⟨r, feed⟩ := feed_oneByOne
  obtain ⟨-, hpaid, -⟩ := redelivered_le_matched rfl (by decide) (by decide) feed
  exact ⟨_, r, feed, hpaid⟩

theorem not_disjoint_oneByOne : oneByOne.folder.faults = [] ∧
    oneByOne.folder.ids.Pairwise (· < ·) ∧ oneByOne.spec.mode = .search ∧
    ∃ delivered r, Feed oneByOne delivered 1 r ∧ ¬delivered.Pairwise List.Disjoint := by
  obtain ⟨r, feed⟩ := feed_oneByOne
  refine ⟨rfl, by decide, by decide, _, r, feed, fun hapart ↦ ?_⟩
  have hfirst := (List.pairwise_cons.mp hapart).1 [⟨12⟩] List.mem_cons_self
  exact hfirst List.mem_cons_self List.mem_cons_self

end Feed

end MailWindow
