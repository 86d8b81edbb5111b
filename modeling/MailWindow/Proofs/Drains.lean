import MailWindow.Proofs.Calls
import MailWindow.Reader.Processing

namespace MailWindow

variable {σ η : Type}

def handed (handler : Summary → η → Except Error Unit × η) (h : η) (ss : List Summary) : η :=
  ss.foldl (fun h s ↦ (handler s h).2) h

theorem handed_append (handler : Summary → η → Except Error Unit × η) (h : η)
    (ss ts : List Summary) :
    handed handler h (ss ++ ts) = handed handler (handed handler h ss) ts := List.foldl_append

theorem handleEach_of_succeeds {handler : Summary → η → Except Error Unit × η}
    (hh : ∀ s h, (handler s h).1 = .ok ()) (ss : List Summary) (h : η) :
    handleEach handler ss h = (.ok (), handed handler h ss) := by
  induction ss generalizing h with
  | nil => rfl
  | cons s ss ih =>
    have hs : handler s h = (.ok (), (handler s h).2) := Prod.ext (hh s h) rfl
    rw [handleEach, hs]
    exact ih (handler s h).2

def collect (s : Summary) (ids : List MessageId) : Except Error Unit × List MessageId :=
  (.ok (), ids ++ [s.id])

theorem collect_succeeds (s : Summary) (ids : List MessageId) : (collect s ids).1 = .ok () := rfl

variable [Folder σ]

namespace Reader

/-- The windows that hold anything, up to the end of a continuation, and the reader after it. -/
inductive Drains : Reader σ → List (List Summary) → Reader σ → Prop
  | dry {r r' : Reader σ} : r.fetchSummaries = (.ok [], r') → Drains r [] r'
  | last {r r' : Reader σ} {batch : List Summary} :
      r.fetchSummaries = (.ok batch, r') → batch ≠ [] → r'.spec.continuous = false →
      Drains r [batch] r'
  | more {r r' r'' : Reader σ} {batch : List Summary} {batches : List (List Summary)} :
      r.fetchSummaries = (.ok batch, r') → batch ≠ [] → r'.spec.continuous = true →
      Drains r' batches r'' → Drains r (batch :: batches) r''

/-- With rounds enough, processing hands over the windows of the drain and nothing else. -/
theorem Drains.processRounds_eq {handler : Summary → η → Except Error Unit × η}
    (hh : ∀ s h, (handler s h).1 = .ok ()) {r r' : Reader σ} {batches : List (List Summary)}
    (hd : r.Drains batches r') {rounds : Nat} (hr : batches.length < rounds) (processed : Nat)
    (h : η) :
    processRounds handler (fun _ _ ↦ false) rounds processed r h =
      (some (.ok (processed + batches.flatten.length)), r', handed handler h batches.flatten) := by
  induction hd generalizing rounds processed h with
  | @dry r r' he =>
    obtain _ | rounds := rounds
    · exact absurd hr (Nat.not_lt_zero _)
    · simp [processRounds, he, handed]
  | @last r r' batch he hb hc =>
    obtain _ | rounds := rounds
    · exact absurd hr (Nat.not_lt_zero _)
    · obtain _ | ⟨s, ss⟩ := batch
      · exact absurd rfl hb
      · simp [processRounds, he, handleEach_of_succeeds hh, hc]
  | @more r r' r'' batch batches he hb hc hd ih =>
    obtain _ | rounds := rounds
    · exact absurd hr (Nat.not_lt_zero _)
    · obtain _ | ⟨s, ss⟩ := batch
      · exact absurd rfl hb
      · have hrest := ih (Nat.lt_of_succ_lt_succ hr) (processed + (s :: ss).length)
          (handed handler h (s :: ss))
        simp only [processRounds, he, handleEach_of_succeeds hh, hc, if_true,
          Bool.false_eq_true, if_false, hrest]
        rw [List.flatten_cons, List.length_append, handed_append, Nat.add_assoc]

theorem Drains.processSummaries_eq {handler : Summary → η → Except Error Unit × η}
    (hh : ∀ s h, (handler s h).1 = .ok ()) {r r' : Reader σ} {batches : List (List Summary)}
    (hd : r.Drains batches r') (hl : batches.length ≤ UInt32.size) (h : η) :
    r.processSummaries handler (fun _ _ ↦ false) h =
      (some (.ok batches.flatten.length), r', handed handler h batches.flatten) := by
  have hr : batches.length < allRounds := by
    unfold allRounds
    omega
  have hp := hd.processRounds_eq hh hr 0 h
  rwa [Nat.zero_add] at hp

/-- A chain of calls, each of which is told what it returns by its place in the chain. Either the
spec stops being continuous with the last window, or one more call finds nothing. -/
theorem drains_of_chain (At : Nat → Reader σ → Prop) {Done : Reader σ → Prop}
    (batch : Nat → List Summary) (count : Nat)
    (hcall : ∀ k r, k < count → At k r → ∃ r', r.fetchSummaries = (.ok (batch k), r') ∧
      batch k ≠ [] ∧ ((r'.spec.continuous = true ∧ At (k + 1) r') ∨
        (r'.spec.continuous = false ∧ k + 1 = count ∧ Done r')))
    (hdry : ∀ r, At count r → ∃ r', r.fetchSummaries = (.ok [], r') ∧ Done r')
    (r : Reader σ) (hr : At 0 r) :
    ∃ r', r.Drains ((List.range count).map batch) r' ∧ Done r' := by
  induction count generalizing At batch r with
  | zero =>
    obtain ⟨r', he, hd⟩ := hdry r hr
    exact ⟨r', .dry he, hd⟩
  | succ count ih =>
    obtain ⟨r', he, hb, ⟨hc, hn⟩ | ⟨hc, hk, hd⟩⟩ := hcall 0 r (Nat.succ_pos _) hr
    · have hcall' : ∀ k r, k < count → At (k + 1) r → ∃ r',
          r.fetchSummaries = (.ok (batch (k + 1)), r') ∧ batch (k + 1) ≠ [] ∧
          ((r'.spec.continuous = true ∧ At (k + 1 + 1) r') ∨
            (r'.spec.continuous = false ∧ k + 1 = count ∧ Done r')) := by
        intro k r hk ha
        obtain ⟨r', he, hb, hn⟩ := hcall (k + 1) r (Nat.succ_lt_succ hk) ha
        exact ⟨r', he, hb, hn.imp_right fun ⟨hc, hk, hd⟩ ↦ ⟨hc, Nat.succ.inj hk, hd⟩⟩
      obtain ⟨r'', hrest, hd⟩ :=
        ih (fun k ↦ At (k + 1)) (fun k ↦ batch (k + 1)) hcall' hdry r' hn
      refine ⟨r'', ?_, hd⟩
      rw [List.range_succ_eq_map, List.map_cons, List.map_map]
      exact .more he hb hc hrest
    · obtain rfl : count = 0 := by omega
      exact ⟨r', .last he hb hc, hd⟩

end Reader

theorem Spec.advance_zero {s : Spec} (hc : s.continuous = true) (mode : Mode) {count : UInt32} :
    s.advance mode 0 count = .exhausted s.stopped := by
  simp [advance, hc]

namespace Reader

structure Follows (r₀ r : Reader MemoryFolder) : Prop where
  stored : r.folder.stored = r₀.folder.stored
  config : r.config = r₀.config
  borrowed : r.borrowed = r₀.borrowed

/-- The end of a chain of calls: the folder is open only if it was before the chain. -/
structure Finished (r₀ r : Reader MemoryFolder) : Prop where
  stored : r.folder.stored = r₀.folder.stored
  continuous : r.spec.continuous = false
  retained : r.retained = false
  isOpen : r.folder.isOpen = r₀.borrowed

variable {r₀ r r' : Reader MemoryFolder} {returned : Nat} {reads : List Call}

theorem Follows.refl (r : Reader MemoryFolder) : r.Follows r := ⟨rfl, rfl, rfl⟩

theorem Follows.next (h : r₀.Follows r) (ha : r.Advanced returned reads r') : r₀.Follows r' :=
  ⟨ha.stored.trans h.stored, ha.config.trans h.config, ha.borrowed_eq.trans h.borrowed⟩

theorem Follows.finished (h : r₀.Follows r) (ha : r.Advanced returned reads r') {s : Spec}
    (hs : r.following returned = .exhausted s.stopped) : r₀.Finished r' := by
  refine ⟨ha.stored.trans h.stored, ?_, ?_, ?_⟩
  · rw [ha.spec, hs]
    rfl
  · rw [ha.retained, hs]
    exact Bool.and_false _
  · rw [ha.isOpen, hs, h.borrowed]
    exact Bool.or_false _

end Reader

end MailWindow
