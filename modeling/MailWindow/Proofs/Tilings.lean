import Mathlib.Data.Nat.Find
import MailWindow.Proofs.Drains

namespace MailWindow

namespace IdRange

/-- The `k`-th range after this one: each as wide as this one and right after the one before, cut
off at the largest identifier. -/
def shifted (r : IdRange) (k : Nat) : IdRange where
  start := ⟨.ofNat (r.start.val.toNat + k * r.size)⟩
  stop := ⟨.ofNat (min (r.start.val.toNat + (k + 1) * r.size - 1) (UInt32.size - 1))⟩

variable {r : IdRange} {k : Nat}

theorem contains_iff (id : MessageId) : r.contains id = true ↔
    r.start.val.toNat ≤ id.val.toNat ∧ id.val.toNat ≤ r.stop.val.toNat := by
  simp only [contains, Bool.and_eq_true, decide_eq_true_eq, MessageId.le_iff_toNat]

theorem isInverted_eq_false (h : r.start ≤ r.stop) : r.isInverted = false := by
  rw [MessageId.le_iff_toNat] at h
  simp only [isInverted, decide_eq_false_iff_not, MessageId.lt_iff_toNat]
  omega

theorem size_pos (h : r.start ≤ r.stop) : 0 < r.size := by
  rw [MessageId.le_iff_toNat] at h
  unfold size
  omega

theorem toNat_stop_shifted (r : IdRange) (k : Nat) : (r.shifted k).stop.val.toNat =
    min (r.start.val.toNat + (k + 1) * r.size - 1) (UInt32.size - 1) :=
  UInt32.toNat_ofNat_of_lt' (Nat.lt_of_le_of_lt (Nat.min_le_right _ _) (by decide))

theorem toNat_start_shifted (h : r.start.val.toNat + k * r.size < UInt32.size) :
    (r.shifted k).start.val.toNat = r.start.val.toNat + k * r.size :=
  UInt32.toNat_ofNat_of_lt' h

theorem shifted_zero (h : r.start ≤ r.stop) : r.shifted 0 = r := by
  rw [MessageId.le_iff_toNat] at h
  have hlt := r.stop.val.toNat_lt_size
  have hstart : (r.shifted 0).start = r.start := by
    rw [MessageId.eq_iff_toNat, toNat_start_shifted (by omega)]
    omega
  have hstop : (r.shifted 0).stop = r.stop := by
    rw [MessageId.eq_iff_toNat, toNat_stop_shifted, size]
    omega
  exact congrArg₂ mk hstart hstop

theorem start_le_stop_shifted (h : r.start ≤ r.stop)
    (hk : r.start.val.toNat + k * r.size < UInt32.size) :
    (r.shifted k).start ≤ (r.shifted k).stop := by
  have hpos := size_pos h
  rw [MessageId.le_iff_toNat, toNat_start_shifted hk, toNat_stop_shifted, Nat.succ_mul]
  omega

theorem next_fits (hs : (r.shifted k).stop ≠ .top) :
    r.start.val.toNat + (k + 1) * r.size < UInt32.size := by
  rw [Ne, MessageId.eq_iff_toNat, toNat_stop_shifted, MessageId.toNat_top] at hs
  omega

theorem shifted_adjacent (h : r.start ≤ r.stop) (hs : (r.shifted k).stop ≠ .top) :
    (r.shifted k).stop.val.toNat + 1 = (r.shifted (k + 1)).start.val.toNat := by
  have hpos := size_pos h
  have hnext := next_fits hs
  rw [toNat_start_shifted hnext, toNat_stop_shifted, Nat.succ_mul] at *
  omega

theorem toNat_stop_add_one (h : r.start ≤ r.stop) (hs : (r.shifted k).stop ≠ .top) :
    ((r.shifted k).stop.val + 1).toNat = (r.shifted k).stop.val.toNat + 1 := by
  have hlt := (r.shifted (k + 1)).start.val.toNat_lt_size
  rw [← shifted_adjacent h hs] at hlt
  exact Word.toNat_add_of_lt hlt

theorem next?_shifted (h : r.start ≤ r.stop) (hs : (r.shifted k).stop ≠ .top) :
    (r.shifted k).next? = some (r.shifted (k + 1)) := by
  have hpos := size_pos h
  have hnext := next_fits hs
  have hk : r.start.val.toNat + k * r.size < UInt32.size := by
    rw [Nat.succ_mul] at hnext
    omega
  have hinv := isInverted_eq_false (start_le_stop_shifted h hk)
  have hval : (r.shifted k).stop.val + 1 = (r.shifted (k + 1)).start.val :=
    UInt32.toNat_inj.mp ((toNat_stop_add_one h hs).trans (shifted_adjacent h hs))
  have hsize : ((r.shifted (k + 1)).start.val - (r.shifted k).start.val).toNat = r.size := by
    rw [UInt32.toNat_sub_of_le, toNat_start_shifted hnext, toNat_start_shifted hk, Nat.succ_mul]
    · omega
    · rw [UInt32.le_iff_toNat_le, toNat_start_shifted hnext, toNat_start_shifted hk, Nat.succ_mul]
      omega
  have hstop : (r.shifted k).stop.addOrTop
      ((r.shifted (k + 1)).start.val - (r.shifted k).start.val) = (r.shifted (k + 1)).stop := by
    rw [MessageId.eq_iff_toNat, MessageId.toNat_addOrTop, hsize, toNat_stop_shifted,
      toNat_stop_shifted, Nat.succ_mul (k + 1)]
    rw [Nat.succ_mul] at hnext ⊢
    omega
  have htop : (r.shifted k).stop.isTop = false := decide_eq_false hs
  simp only [next?, htop, hinv, Bool.or_self, Bool.false_eq_true, if_false, hval, hstop]

theorem next?_of_stop_eq_top (hs : r.stop = .top) : r.next? = none := by
  simp [next?, MessageId.isTop, hs]

/-- Ranges from the first to the `K`-th that lie side by side: no identifier is in two of them, and
none between them is left out. The word arithmetic that leads from one to the next stays within the
words. -/
structure Tiles (r : IdRange) (K : Nat) : Prop where
  start : ∀ k ≤ K, (r.shifted k).start.val.toNat = r.start.val.toNat + k * r.size
  stop : ∀ k ≤ K, (r.shifted k).stop.val.toNat =
    min (r.start.val.toNat + (k + 1) * r.size - 1) (UInt32.size - 1)
  upright : ∀ k ≤ K, (r.shifted k).start ≤ (r.shifted k).stop
  adjacent : ∀ k < K, (r.shifted k).stop.val.toNat + 1 = (r.shifted (k + 1)).start.val.toNat
  disjoint : ∀ j k, j < k → k ≤ K → (r.shifted j).stop < (r.shifted k).start
  next : ∀ k < K, (r.shifted k).next? = some (r.shifted (k + 1))
  sum : ∀ k < K, ((r.shifted k).stop.val + 1).toNat = (r.shifted k).stop.val.toNat + 1
  difference : ∀ k < K, ((r.shifted k).stop.val + 1 - (r.shifted k).start.val).toNat +
    (r.shifted k).start.val.toNat = (r.shifted k).stop.val.toNat + 1

theorem tiles_of_stop_ne_top (h : r.start ≤ r.stop) {K : Nat}
    (hK : ∀ k < K, (r.shifted k).stop ≠ .top) : r.Tiles K := by
  have hfits : ∀ k ≤ K, r.start.val.toNat + k * r.size < UInt32.size := by
    intro k hk
    cases k with
    | zero =>
      have hlt := r.start.val.toNat_lt_size
      omega
    | succ k => exact next_fits (hK k hk)
  have hstart : ∀ k ≤ K, (r.shifted k).start.val.toNat = r.start.val.toNat + k * r.size :=
    fun k hk ↦ toNat_start_shifted (hfits k hk)
  have hupright : ∀ k ≤ K, (r.shifted k).start ≤ (r.shifted k).stop :=
    fun k hk ↦ start_le_stop_shifted h (hfits k hk)
  have hsum : ∀ k < K, ((r.shifted k).stop.val + 1).toNat = (r.shifted k).stop.val.toNat + 1 :=
    fun k hk ↦ toNat_stop_add_one h (hK k hk)
  refine ⟨hstart, fun k _ ↦ toNat_stop_shifted r k, hupright,
    fun k hk ↦ shifted_adjacent h (hK k hk), ?_, fun k hk ↦ next?_shifted h (hK k hk), hsum, ?_⟩
  · intro j k hj hk
    have hpos := size_pos h
    have hle : (j + 1) * r.size ≤ k * r.size := Nat.mul_le_mul_right _ hj
    rw [Nat.succ_mul] at hle
    rw [MessageId.lt_iff_toNat, hstart k hk, toNat_stop_shifted, Nat.succ_mul]
    omega
  · intro k hk
    have hle := hupright k (Nat.le_of_lt hk)
    rw [MessageId.le_iff_toNat] at hle
    rw [UInt32.toNat_sub_of_le, hsum k hk]
    · omega
    · rw [UInt32.le_iff_toNat_le, hsum k hk]
      omega

theorem Tiles.lt_of_contains {K j : Nat} (ht : r.Tiles K) (hj : j < k) (hk : k ≤ K)
    {a b : MessageId} (ha : (r.shifted j).contains a = true)
    (hb : (r.shifted k).contains b = true) : a < b := by
  have hlt := ht.disjoint j k hj hk
  rw [contains_iff] at ha hb
  rw [MessageId.lt_iff_toNat] at hlt ⊢
  omega

theorem exists_stop_eq_top (h : r.start ≤ r.stop) : ∃ k, (r.shifted k).stop = .top := by
  have hpos := size_pos h
  refine ⟨UInt32.size, ?_⟩
  rw [MessageId.eq_iff_toNat, toNat_stop_shifted, MessageId.toNat_top]
  have hle := Nat.le_mul_of_pos_right (UInt32.size + 1) hpos
  omega

end IdRange

namespace MemoryFolder

variable {f : MemoryFolder} {r : IdRange}

def within (f : MemoryFolder) (r : IdRange) : List (Stored × Nat) :=
  f.entries.filter fun e ↦ r.contains e.1.id

/-- A chain of ranges comes to its end where a range holds no message or reaches the largest
identifier. -/
def EndsAt (f : MemoryFolder) (r : IdRange) (k : Nat) : Prop :=
  f.within (r.shifted k) = [] ∨ (r.shifted k).stop = .top

instance (f : MemoryFolder) (r : IdRange) (k : Nat) : Decidable (f.EndsAt r k) :=
  inferInstanceAs (Decidable (_ ∨ _))

theorem exists_least_endsAt (f : MemoryFolder) (h : r.start ≤ r.stop) :
    ∃ K, f.EndsAt r K ∧ ∀ k < K, ¬f.EndsAt r k := by
  have hex : ∃ k, f.EndsAt r k := (IdRange.exists_stop_eq_top h).imp fun k hk ↦ .inr hk
  exact ⟨Nat.find hex, Nat.find_spec hex, fun k hk ↦ Nat.find_min hex hk⟩

theorem flatten_within_shifted (h : f.ids.Pairwise (· < ·)) {K : Nat} (ht : r.Tiles K) {n : Nat}
    (hn : n ≤ K + 1) : ((List.range n).map fun k ↦ f.within (r.shifted k)).flatten =
      f.entries.filter fun e ↦ (List.range n).any fun k ↦ (r.shifted k).contains e.1.id := by
  induction n with
  | zero => simp
  | succ n ih =>
    rw [List.range_succ, List.map_append, List.flatten_append, ih (Nat.le_of_succ_le hn)]
    simp only [List.map_singleton, List.flatten_singleton, List.any_append, List.any_cons,
      List.any_nil, Bool.or_false]
    refine filter_append_filter ?_ ?_
    · refine (entries_pairwise_id h).imp fun {a b} hab ⟨ha, hb⟩ ↦ ?_
      obtain ⟨k, hk, hb⟩ := List.any_eq_true.mp hb
      exact MessageId.lt_asymm hab
        (ht.lt_of_contains (List.mem_range.mp hk) (Nat.le_of_succ_le_succ hn) hb ha)
    · rintro e - ⟨he, he'⟩
      obtain ⟨k, hk, he⟩ := List.any_eq_true.mp he
      exact MessageId.lt_irrefl _
        (ht.lt_of_contains (List.mem_range.mp hk) (Nat.le_of_succ_le_succ hn) he he')

end MemoryFolder

def Call.idSet? : Call → Option IdSet
  | .fetchIds set => some set
  | _ => none

/-- The sets of identifiers that a folder has been asked for. -/
def MemoryFolder.requested (f : MemoryFolder) : List IdSet := f.calls.filterMap Call.idSet?

namespace Spec

variable {s : Spec} {range : IdRange} {returned : Nat} {count : UInt32}
  (hc : s.continuous = true) (hr : s.idRange = some range) (h : returned ≠ 0)

include hc hr h

theorem advance_of_next?_eq_some {next : IdRange} (hn : range.next? = some next) :
    s.advance .idRange returned count = .next { s with idRange := some next } := by
  simp [advance, hc, hr, h, hn]

theorem advance_of_next?_eq_none (hn : range.next? = none) :
    s.advance .idRange returned count = .exhausted s.stopped := by
  simp [advance, hc, hr, h, hn]

end Spec

namespace Reader

open MemoryFolder

structure AtRange (r₀ : Reader MemoryFolder) (range : IdRange) (k : Nat) (r : Reader MemoryFolder) :
    Prop extends Follows r₀ r where
  spec : r.spec = { r₀.spec with idRange := some (range.shifted k) }
  requested : r.folder.requested =
    r₀.folder.requested ++ (List.range k).map fun k ↦ .range (range.shifted k)

structure Tiled (r₀ : Reader MemoryFolder) (range : IdRange) (K : Nat) (r : Reader MemoryFolder) :
    Prop extends Finished r₀ r where
  requested : r.folder.requested =
    r₀.folder.requested ++ (List.range (K + 1)).map fun k ↦ .range (range.shifted k)

variable {r₀ r r' : Reader MemoryFolder} {range : IdRange} {k returned : Nat} {reads : List Call}

theorem Advanced.requested (h : r.Advanced returned reads r') :
    r'.folder.requested = r.folder.requested ++ reads.filterMap Call.idSet? := by
  rw [MemoryFolder.requested, h.calls]
  simp only [List.filterMap_append]
  split <;> split <;> simp [Call.idSet?, MemoryFolder.requested, List.filterMap_cons]

theorem AtRange.fetchSummaries_within (hf : r₀.folder.faults = [])
    (h : r₀.folder.ids.Pairwise (· < ·)) (ht : r₀.spec.take ≠ .count 0)
    (hk : (range.shifted k).start ≤ (range.shifted k).stop) (ha : r₀.AtRange range k r) :
    ∃ r', r.fetchSummaries =
        (.ok (summarize r₀.spec.items (r₀.folder.within (range.shifted k))), r') ∧
      r.Advanced (r₀.folder.within (range.shifted k)).length [.fetchIds (.range (range.shifted k))]
        r' ∧
      r'.folder.requested =
        r₀.folder.requested ++ (List.range (k + 1)).map fun k ↦ .range (range.shifted k) := by
  have hspec := ha.spec
  have hr : r.spec.idRange = some (range.shifted k) := by rw [hspec]
  have hsel : r.folder.selection r.spec r.config.searchCap =
      r₀.folder.within (range.shifted k) := by
    rw [selection_of_stored ha.stored, selection_idRange hr]
    rfl
  obtain ⟨r', he, hr'⟩ := fetchSummaries_of_idRange ((faults_of_stored ha.stored).trans hf)
    (by rw [hspec]; exact ht) (ids_of_stored ha.stored ▸ h) hr
  rw [hsel, show r.spec.items = r₀.spec.items by rw [hspec]] at he
  rw [hsel, IdRange.isInverted_eq_false hk, if_neg Bool.false_ne_true] at hr'
  refine ⟨r', he, hr', ?_⟩
  rw [hr'.requested, ha.requested, List.range_succ, List.map_append, List.append_assoc]
  rfl

section Chain

variable (hc : r₀.spec.continuous = true) (ht : r₀.spec.take ≠ .count 0) (ha : r₀.AtRange range k r)
  (hn : returned ≠ 0)

include hc ht ha

theorem AtRange.following_zero : r.following 0 = .exhausted r.spec.stopped := by
  have hspec := ha.spec
  rw [following, Spec.plan_idRange (by rw [hspec]; exact ht) (by rw [hspec])]
  exact Spec.advance_zero (by rw [hspec, hc]) _

include hn

theorem AtRange.following_next (hs : (range.shifted k).next? = some (range.shifted (k + 1))) :
    r.following returned = .next { r₀.spec with idRange := some (range.shifted (k + 1)) } := by
  have hspec := ha.spec
  rw [following, Spec.plan_idRange (by rw [hspec]; exact ht) (by rw [hspec]),
    Spec.mode_idRange (by rw [hspec]),
    Spec.advance_of_next?_eq_some (by rw [hspec, hc]) (by rw [hspec]) hn hs, hspec]

theorem AtRange.following_top (hs : (range.shifted k).stop = .top) :
    r.following returned = .exhausted r.spec.stopped := by
  have hspec := ha.spec
  rw [following, Spec.plan_idRange (by rw [hspec]; exact ht) (by rw [hspec]),
    Spec.mode_idRange (by rw [hspec])]
  exact Spec.advance_of_next?_eq_none (by rw [hspec, hc]) (by rw [hspec]) hn
    (IdRange.next?_of_stop_eq_top hs)

end Chain

section Tiles

variable {K : Nat} (hf : r₀.folder.faults = []) (h : r₀.folder.ids.Pairwise (· < ·))
  (hc : r₀.spec.continuous = true) (ht : r₀.spec.take ≠ .count 0) (htiles : range.Tiles K)
  (hK : r₀.folder.EndsAt range K)

include hf h hc ht htiles hK

theorem AtRange.fetchSummaries_next (hk : k ≤ K) (ha : r₀.AtRange range k r)
    (hne : r₀.folder.within (range.shifted k) ≠ []) :
    ∃ r', r.fetchSummaries =
        (.ok (summarize r₀.spec.items (r₀.folder.within (range.shifted k))), r') ∧
      summarize r₀.spec.items (r₀.folder.within (range.shifted k)) ≠ [] ∧
      (r'.spec.continuous = true ∧ k < K ∧ r₀.AtRange range (k + 1) r' ∨
        r'.spec.continuous = false ∧ k = K ∧ r₀.Tiled range K r') := by
  obtain ⟨r', he, hr', hreq⟩ := ha.fetchSummaries_within hf h ht (htiles.upright k hk)
  have hlen : (r₀.folder.within (range.shifted k)).length ≠ 0 :=
    fun h ↦ hne (List.eq_nil_of_length_eq_zero h)
  refine ⟨r', he, fun h ↦ hne (List.map_eq_nil_iff.mp h), ?_⟩
  rcases Nat.lt_or_eq_of_le hk with hlt | rfl
  · have hnext := ha.following_next hc ht hlen (htiles.next k hlt)
    have hspec : r'.spec = { r₀.spec with idRange := some (range.shifted (k + 1)) } :=
      hr'.spec.trans (congrArg Continuation.spec hnext)
    exact .inl ⟨by rw [hspec, hc], hlt, ha.toFollows.next hr', hspec, hreq⟩
  · have hfin := ha.toFollows.finished hr' (ha.following_top hc ht hlen (hK.resolve_left hne))
    exact .inr ⟨hfin.continuous, rfl, hfin, hreq⟩

theorem drains_of_tiles (hr : r₀.spec.idRange = some range) (hle : range.start ≤ range.stop)
    (hmin : ∀ k < K, ¬r₀.folder.EndsAt range k) :
    ∃ count r', r₀.Drains ((List.range count).map fun k ↦
        summarize r₀.spec.items (r₀.folder.within (range.shifted k))) r' ∧
      (count = K ∧ r₀.folder.within (range.shifted K) = [] ∨ count = K + 1) ∧
      r₀.Tiled range K r' := by
  have hstart : r₀.AtRange range 0 r₀ := by
    refine ⟨.refl r₀, ?_, (List.append_nil _).symm⟩
    rw [IdRange.shifted_zero hle, ← hr]
  have hfull : ∀ k < K, r₀.folder.within (range.shifted k) ≠ [] :=
    fun k hk he ↦ hmin k hk (.inl he)
  by_cases hnil : r₀.folder.within (range.shifted K) = []
  · suffices hchain : ∃ r', r₀.Drains ((List.range K).map fun k ↦
        summarize r₀.spec.items (r₀.folder.within (range.shifted k))) r' ∧
        r₀.Tiled range K r' from
      hchain.elim fun r' ⟨hd, hfin⟩ ↦ ⟨K, r', hd, .inl ⟨rfl, hnil⟩, hfin⟩
    refine drains_of_chain (r₀.AtRange range) _ K ?_ ?_ r₀ hstart
    · intro k r hk ha
      obtain ⟨r', he, hb, ⟨hcont, -, hnext⟩ | ⟨-, rfl, -⟩⟩ :=
        ha.fetchSummaries_next hf h hc ht htiles hK (Nat.le_of_lt hk) (hfull k hk)
      · exact ⟨r', he, hb, .inl ⟨hcont, hnext⟩⟩
      · exact absurd hk (Nat.lt_irrefl _)
    · intro r ha
      obtain ⟨r', he, hr', hreq⟩ :=
        ha.fetchSummaries_within hf h ht (htiles.upright K (Nat.le_refl _))
      rw [hnil] at he hr'
      exact ⟨r', he, ha.toFollows.finished hr' (ha.following_zero hc ht), hreq⟩
  · suffices hchain : ∃ r', r₀.Drains ((List.range (K + 1)).map fun k ↦
        summarize r₀.spec.items (r₀.folder.within (range.shifted k))) r' ∧
        r₀.Tiled range K r' from
      hchain.elim fun r' ⟨hd, hfin⟩ ↦ ⟨K + 1, r', hd, .inr rfl, hfin⟩
    refine drains_of_chain (fun k r ↦ k ≤ K ∧ r₀.AtRange range k r) _ (K + 1) ?_ ?_ r₀
      ⟨Nat.zero_le _, hstart⟩
    · rintro k r - ⟨hk, ha⟩
      have hne : r₀.folder.within (range.shifted k) ≠ [] := by
        rcases Nat.lt_or_eq_of_le hk with hlt | rfl
        · exact hfull k hlt
        · exact hnil
      obtain ⟨r', he, hb, ⟨hcont, hlt, hnext⟩ | ⟨hcont, rfl, hfin⟩⟩ :=
        ha.fetchSummaries_next hf h hc ht htiles hK hk hne
      · exact ⟨r', he, hb, .inl ⟨hcont, hlt, hnext⟩⟩
      · exact ⟨r', he, hb, .inr ⟨hcont, rfl, hfin⟩⟩
    · rintro r ⟨hk, -⟩
      exact absurd hk (Nat.not_succ_le_self _)

end Tiles

/-- Processing a continuous identifier range asks for one range after the other, each as wide as the
first and right after the one before, up to the first that holds no message or ends at the largest
identifier, and hands over the messages of all of them in the order of the folder. -/
theorem processSummaries_tiles_identifiers {η : Type}
    {handler : Summary → η → Except Error Unit × η} (hf : r.folder.faults = [])
    (h : r.folder.ids.Pairwise (· < ·)) (ht : r.spec.take ≠ .count 0)
    (hr : r.spec.idRange = some range) (hle : range.start ≤ range.stop)
    (hc : r.spec.continuous = true) (hh : ∀ s x, (handler s x).1 = .ok ()) (x : η) :
    ∃ K batches r', (r.folder.EndsAt range K ∧ ∀ k < K, ¬r.folder.EndsAt range k) ∧
      range.Tiles K ∧ r.Drains batches r' ∧
      batches.flatten = summarize r.spec.items (r.folder.entries.filter fun e ↦
        (List.range (K + 1)).any fun k ↦ (range.shifted k).contains e.1.id) ∧
      batches.flatten.Pairwise (fun a b ↦ a.id < b.id) ∧
      r.processSummaries handler (fun _ _ ↦ false) x =
        (some (.ok batches.flatten.length), r', handed handler x batches.flatten) ∧
      r'.folder.requested =
        r.folder.requested ++ (List.range (K + 1)).map (fun k ↦ .range (range.shifted k)) ∧
      r.Finished r' := by
  obtain ⟨K, hK, hmin⟩ := exists_least_endsAt r.folder hle
  have htiles : range.Tiles K :=
    IdRange.tiles_of_stop_ne_top hle fun k hk hs ↦ hmin k hk (.inr hs)
  obtain ⟨count, r', hd, hcount, hfin⟩ := drains_of_tiles hf h hc ht htiles hK hr hle hmin
  have hflat : ((List.range count).map fun k ↦ r.folder.within (range.shifted k)).flatten =
      r.folder.entries.filter fun e ↦
        (List.range (K + 1)).any fun k ↦ (range.shifted k).contains e.1.id := by
    rw [← flatten_within_shifted h htiles (Nat.le_refl _)]
    obtain ⟨rfl, hnil⟩ | rfl := hcount
    · rw [List.range_succ, List.map_append, List.flatten_append, List.map_singleton,
        List.flatten_singleton, hnil, List.append_nil]
    · rfl
  have hbatches : ((List.range count).map fun k ↦
      summarize r.spec.items (r.folder.within (range.shifted k))).flatten =
        summarize r.spec.items (r.folder.entries.filter fun e ↦
          (List.range (K + 1)).any fun k ↦ (range.shifted k).contains e.1.id) := by
    rw [← hflat, summarize, List.map_flatten, List.map_map]
    rfl
  have hasc := summarize_pairwise_id h r.spec.items (f := r.folder) (List.filter_sublist
    (p := fun e ↦ (List.range (K + 1)).any fun k ↦ (range.shifted k).contains e.1.id))
  rw [← hbatches] at hasc
  have hwords : K < UInt32.size := by
    have hlt := (range.shifted K).start.val.toNat_lt_size
    have hpos := Nat.le_mul_of_pos_right K (IdRange.size_pos hle)
    rw [htiles.start K (Nat.le_refl _)] at hlt
    omega
  have hp := hd.processSummaries_eq hh (by rw [List.length_map, List.length_range]; omega) x
  exact ⟨K, _, r', ⟨hK, hmin⟩, htiles, hd, hbatches, hasc, hp, hfin.requested, hfin.toFinished⟩

theorem processSummaries_tiles_identifiers_gapped : ∃ r',
    ({ folder := gapped, spec := { idRange := some ⟨⟨2⟩, ⟨4⟩⟩, continuous := true } } :
      Reader MemoryFolder).processSummaries collect (fun _ _ ↦ false) [] =
        (some (.ok 6), r', [⟨2⟩, ⟨3⟩, ⟨5⟩, ⟨9⟩, ⟨10⟩, ⟨12⟩]) ∧
      r'.folder.requested = [.range ⟨⟨2⟩, ⟨4⟩⟩, .range ⟨⟨5⟩, ⟨7⟩⟩, .range ⟨⟨8⟩, ⟨10⟩⟩,
        .range ⟨⟨11⟩, ⟨13⟩⟩, .range ⟨⟨14⟩, ⟨16⟩⟩] := by
  obtain ⟨K, _, r', ⟨hK, hmin⟩, -, -, hflat, -, hp, hreq, -⟩ :=
    processSummaries_tiles_identifiers (r :=
      { folder := gapped, spec := { idRange := some ⟨⟨2⟩, ⟨4⟩⟩, continuous := true } }) rfl
      (by decide) (by decide) rfl (by decide) rfl collect_succeeds []
  have hlast : K = 4 := by
    rcases Nat.lt_trichotomy K 4 with hlt | rfl | hlt
    · exact absurd hK ((by decide : ∀ k < 4, ¬gapped.EndsAt ⟨⟨2⟩, ⟨4⟩⟩ k) K hlt)
    · rfl
    · exact absurd (by decide) (hmin 4 hlt)
  subst hlast
  rw [hflat] at hp
  exact ⟨r', hp.trans (by rfl), hreq⟩

end Reader

end MailWindow
