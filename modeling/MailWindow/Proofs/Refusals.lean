import MailWindow.Proofs.Exhaustion
import MailWindow.Proofs.Ownership

namespace MailWindow

section Handlers

variable {η : Type} {handler : Summary → η → Except Error Unit × η}

theorem handleEach_append (ss ts : List Summary) (x : η) :
    handleEach handler (ss ++ ts) x =
      match handleEach handler ss x with
      | (.error e, y) => (.error e, y)
      | (.ok (), y) => handleEach handler ts y := by
  induction ss generalizing x with
  | nil => rfl
  | cons s ss ih =>
    rw [List.cons_append, handleEach, handleEach]
    rcases handler s x with ⟨e | _, y⟩
    · rfl
    · exact ih y

theorem handleEach_append_eq_ok {ss ts : List Summary} {x z : η} :
    handleEach handler (ss ++ ts) x = (.ok (), z) ↔
      ∃ y, handleEach handler ss x = (.ok (), y) ∧ handleEach handler ts y = (.ok (), z) := by
  rw [handleEach_append]
  rcases handleEach handler ss x with ⟨e | _, y⟩ <;> simp

theorem handleEach_of_refused {ss ts : List Summary} {s : Summary} {x y z : η} {e : Error}
    (hss : handleEach handler ss x = (.ok (), y)) (hs : handler s y = (.error e, z)) :
    handleEach handler (ss ++ s :: ts) x = (.error e, z) := by
  rw [handleEach_append, hss]
  simp only [handleEach, hs]

end Handlers

theorem Spec.plan_stopped (s : Spec) (count cap : UInt32) :
    (s.stopped.plan count cap).plan = (s.plan count cap).plan ∧
      (s.stopped.plan count cap).spec.items = (s.plan count cap).spec.items := by
  constructor
  · have htake : s.stopped.take = s.take := rfl
    have hselection : s.stopped.selection = s.selection := rfl
    simp only [plan, htake, hselection]
    split
    · rfl
    · cases s.selection with
      | search query skip take => dsimp only; split <;> rfl
      | index skip take =>
        dsimp only
        split
        · rfl
        · split <;> split <;> rfl
      | _ => rfl
  · rcases plan_spec_eq s count cap with h | h <;>
      rcases plan_spec_eq s.stopped count cap with h' | h' <;> rw [h, h'] <;> rfl

namespace Reader

section Walks

variable {σ η : Type} [Folder σ] {r r' a b : Reader σ} {batch : List Summary}
  {done rest : List (List Summary)} {handler : Summary → η → Except Error Unit × η} {x y z : η}

/-- Windows that hold something, one after the other, each with more to come. -/
inductive Fetches : Reader σ → List (List Summary) → Reader σ → Prop
  | nil (r : Reader σ) : Fetches r [] r
  | cons {r r' r'' : Reader σ} {batch : List Summary} {batches : List (List Summary)} :
      r.fetchSummaries = (.ok batch, r') → batch ≠ [] → r'.spec.continuous = true →
      Fetches r' batches r'' → Fetches r (batch :: batches) r''

theorem Drains.head (hd : r.Drains (batch :: rest) r') : ∃ b, r.fetchSummaries = (.ok batch, b) ∧
    batch ≠ [] ∧
    (b.spec.continuous = true ∧ b.Drains rest r' ∨ b.spec.continuous = false ∧ rest = []) := by
  cases hd with
  | last he hb hc => exact ⟨_, he, hb, .inr ⟨hc, rfl⟩⟩
  | more he hb hc hrest => exact ⟨_, he, hb, .inl ⟨hc, hrest⟩⟩

theorem Drains.split (hd : r.Drains (done ++ batch :: rest) r') : ∃ a b, r.Fetches done a ∧
    a.fetchSummaries = (.ok batch, b) ∧ batch ≠ [] ∧
    (b.spec.continuous = true ∧ b.Drains rest r' ∨ b.spec.continuous = false ∧ rest = []) := by
  induction done generalizing r with
  | nil =>
    obtain ⟨b, hbatch⟩ := hd.head
    exact ⟨r, b, .nil r, hbatch⟩
  | cons first done ih =>
    obtain ⟨r₁, he, hb, ⟨hc, hrest⟩ | ⟨-, hnil⟩⟩ := Drains.head hd
    · obtain ⟨a, b, hdone, hbatch⟩ := ih hrest
      exact ⟨a, b, .cons he hb hc hdone, hbatch⟩
    · -- the walk goes on behind the first window, so it was not the last
      exact absurd hnil (List.append_ne_nil_of_right_ne_nil done (List.cons_ne_nil batch rest))

section Rounds

variable {rounds processed : Nat} (he : a.fetchSummaries = (.ok batch, b)) (hb : batch ≠ [])

include he hb

theorem processRounds_of_handled (hh : handleEach handler batch x = (.ok (), y))
    (hc : b.spec.continuous = true) :
    a.processRounds handler (fun _ _ ↦ false) (rounds + 1) processed x =
      b.processRounds handler (fun _ _ ↦ false) rounds (processed + batch.length) y := by
  obtain ⟨s, ss, rfl⟩ := List.exists_cons_of_ne_nil hb
  simp only [processRounds, he, hh, hc, Bool.false_eq_true, if_false, if_true]

theorem processRounds_of_refused {e : Error} (hh : handleEach handler batch x = (.error e, y)) :
    a.processRounds handler (fun _ _ ↦ false) (rounds + 1) processed x =
      (some (.error e), b.closeRetained, y) := by
  obtain ⟨s, ss, rfl⟩ := List.exists_cons_of_ne_nil hb
  simp only [processRounds, he, hh, Bool.false_eq_true, if_false]

end Rounds

theorem Fetches.processRounds_eq (hf : r.Fetches done a)
    (hh : handleEach handler done.flatten x = (.ok (), y)) (rounds processed : Nat) :
    r.processRounds handler (fun _ _ ↦ false) (rounds + done.length) processed x =
      a.processRounds handler (fun _ _ ↦ false) rounds (processed + done.flatten.length) y := by
  induction hf generalizing processed x with
  | nil r =>
    obtain ⟨-, rfl⟩ := Prod.mk.inj hh
    rfl
  | cons he hb hc _ ih =>
    obtain ⟨w, hw, hh⟩ := handleEach_append_eq_ok.mp hh
    rw [List.length_cons, ← Nat.add_assoc, processRounds_of_handled he hb hw hc, ih hh,
      List.flatten_cons, List.length_append, Nat.add_assoc]

theorem Fetches.processSummaries_of_refused (hf : r.Fetches done a) {w : η}
    (hh : handleEach handler done.flatten x = (.ok (), w))
    (he : a.fetchSummaries = (.ok batch, b)) (hb : batch ≠ []) {e : Error}
    (hs : handleEach handler batch w = (.error e, z)) (hl : done.length ≤ UInt32.size) :
    r.processSummaries handler (fun _ _ ↦ false) x = (some (.error e), b.closeRetained, z) := by
  obtain ⟨rounds, hrounds⟩ : ∃ rounds, allRounds = rounds + 1 + done.length :=
    ⟨allRounds - 1 - done.length, by unfold allRounds; omega⟩
  rw [processSummaries, hrounds, hf.processRounds_eq hh, processRounds_of_refused he hb hs]

theorem fetchSummaries_stopped (r : Reader σ) :
    ({ r with spec := r.spec.stopped } : Reader σ).fetchSummaries.1 = r.fetchSummaries.1 := by
  simp only [fetchSummaries, enter]
  change (if r.spec.take.isZero = true then _ else _ : Except Error (List Summary) × Reader σ).1 = _
  cases r.spec.take.isZero with
  | true => rfl
  | false =>
    rcases Lease.acquire r.config.folderAccess r.retained r.folder with ⟨e | lease, f⟩
    · rfl
    · obtain ⟨hplan, hitems⟩ := r.spec.plan_stopped (Folder.count f) r.config.searchCap
      simp only [window, hplan, hitems, warn]
      rcases (r.spec.plan (Folder.count f) r.config.searchCap).plan.resolve r.config.searchCap f with
        ⟨e | w, g⟩
      · rfl
      · simp only
        rcases w.summaries (r.spec.plan (Folder.count f) r.config.searchCap).spec.items g with
          ⟨e | found, g⟩ <;> rfl

end Walks

open MemoryFolder

variable {r r' s s' r₀ a b : Reader MemoryFolder} {batch : List Summary}
  {batches done rest : List (List Summary)} {o : Nat} {n : UInt32}

theorem exists_drains (hf : r.folder.faults = []) (ht : r.spec.take ≠ .count 0) :
    ∃ batches r', r.Drains batches r' := by
  induction hn : r.spec.remaining using Nat.strong_induction_on generalizing r with
  | h m ih =>
    obtain ⟨found, reads, r₁, he, hadvanced, hnone⟩ := fetchSummaries_advanced hf ht
    by_cases hb : found = []
    · subst hb
      exact ⟨[], r₁, .dry he⟩
    · cases hc : r₁.spec.continuous with
      | false => exact ⟨[found], r₁, .last he hb hc⟩
      | true =>
        have hlt := hadvanced.remaining_lt ht (fun h ↦ congrArg List.length (hnone h)) hc
        obtain ⟨batches, r', hd⟩ := ih _ (hn ▸ hlt) ((faults_of_stored hadvanced.stored).trans hf)
          (hadvanced.take ▸ ht) rfl
        exact ⟨found :: batches, r', .more he hb hc hd⟩

theorem Drains.length_le (hd : r.Drains batches r') (hf : r.folder.faults = [])
    (ht : r.spec.take ≠ .count 0) : batches.length ≤ r.spec.remaining := by
  induction hd with
  | dry => exact Nat.zero_le _
  | @last r => exact r.spec.remaining_pos
  | more he hb hc _ ih =>
    obtain ⟨reads, hadvanced, hnone⟩ := advanced_of_fetched hf ht he
    have hlt := hadvanced.remaining_lt ht (fun h ↦ congrArg List.length (hnone h)) hc
    have hle := ih ((faults_of_stored hadvanced.stored).trans hf) (hadvanced.take ▸ ht)
    rw [List.length_cons]
    omega

theorem Akin.fetchSummaries (h : r.Akin s) (hf : r.folder.faults = [])
    (he : r.fetchSummaries = (.ok batch, r')) :
    ∃ s', s.fetchSummaries = (.ok batch, s') ∧ r'.Akin s' ∧
      r'.folder.stored = r.folder.stored := by
  cases ht : r.spec.take.isZero with
  | true =>
    have hr : r.fetchSummaries = (.ok [], r) := if_pos ht
    obtain ⟨hbatch, rfl⟩ := Prod.mk.inj (hr.symm.trans he)
    exact ⟨s, hbatch ▸ if_pos (h.spec ▸ ht), h, rfl⟩
  | false =>
    have hfs : s.folder.faults = [] := (faults_of_stored h.stored).trans hf
    obtain ⟨⟨result, ending⟩, reads, -, hr, hs⟩ := Errand.summarizing_agree h r.visit
    rw [← h.visit_eq] at hs
    have hleft : r.fetchSummaries =
        (result, r.outside (r.keeps ending) (r.specAfter ending) reads) := by
      rw [fetchSummaries_eq_attend]
      exact attend_of_accessible (.inr (by simp [hf])) (by simp [hf]) ht hr
    have hright : s.fetchSummaries =
        (result, s.outside (s.keeps ending) (s.specAfter ending) reads) := by
      rw [fetchSummaries_eq_attend]
      exact attend_of_accessible (.inr (by simp [hfs])) (by simp [hfs]) (h.spec ▸ ht) hs
    obtain ⟨rfl, rfl⟩ := Prod.mk.inj (hleft.symm.trans he)
    rw [h.specAfter_eq] at hright
    have hvisited := r.visited_outside (r.keeps ending) (r.specAfter ending) reads
    exact ⟨_, hright, h.visited hvisited (s.visited_outside _ _ reads), hvisited.stored⟩

theorem Drains.akin (hd : r.Drains batches r') (h : r.Akin s) (hf : r.folder.faults = []) :
    ∃ s', s.Drains batches s' := by
  induction hd generalizing s with
  | dry he =>
    obtain ⟨s', hs, -, -⟩ := h.fetchSummaries hf he
    exact ⟨s', .dry hs⟩
  | last he hb hc =>
    obtain ⟨s', hs, hakin, -⟩ := h.fetchSummaries hf he
    exact ⟨s', .last hs hb (hakin.spec ▸ hc)⟩
  | more he hb hc _ ih =>
    obtain ⟨s₁, hs, hakin, hstored⟩ := h.fetchSummaries hf he
    obtain ⟨s', hrest⟩ := ih hakin ((faults_of_stored hstored).trans hf)
    exact ⟨s', .more hs hb (hakin.spec ▸ hc) hrest⟩

theorem closeRetained_akin (hc : Fault.close ∉ r.folder.faults) : r.Akin r.closeRetained ∧
    r.closeRetained.retained = false ∧ r.closeRetained.folder.isOpen = r.borrowed := by
  by_cases hkept : (r.retained && r.folder.isOpen) = true
  · obtain ⟨hretained, hopen⟩ := Bool.and_eq_true_iff.mp hkept
    rw [closeRetained_of_kept hc hretained hopen]
    have hborrowed : r.borrowed = false := by rw [borrowed, hretained, Bool.not_true, Bool.and_false]
    exact ⟨⟨rfl, rfl, rfl, hborrowed.symm⟩, rfl, hborrowed.symm⟩
  · have hsame : r.closeRetained = { r with retained := false } := if_neg hkept
    have hborrowed : r.borrowed = r.folder.isOpen := by
      rw [borrowed]
      revert hkept
      cases r.retained <;> cases r.folder.isOpen <;> decide
    rw [hsame]
    exact ⟨⟨rfl, rfl, rfl, (Bool.and_true _).trans hborrowed.symm⟩, rfl, hborrowed.symm⟩

/-- Where a continuation ends with a window that holds something, the window may be fetched once
more. -/
theorem drains_again (hf : a.folder.faults = []) (ht : a.spec.take ≠ .count 0)
    (he : a.fetchSummaries = (.ok batch, b)) (hb : batch ≠ []) (hs : b.spec = a.spec.stopped)
    (h : b.Akin s) : ∃ s', s.Drains [batch] s' := by
  obtain ⟨_, hadvanced, -⟩ := advanced_of_fetched hf ht he
  let t : Reader MemoryFolder := { a with spec := a.spec.stopped }
  have hakin : t.Akin s := ⟨h.spec.trans hs, h.config.trans hadvanced.config,
    h.stored.trans hadvanced.stored, h.borrowed.trans hadvanced.borrowed_eq⟩
  have hbatch : t.fetchSummaries.1 = .ok batch := by rw [fetchSummaries_stopped, he]
  have hfetch : t.fetchSummaries = (.ok batch, t.fetchSummaries.2) := Prod.ext hbatch rfl
  obtain ⟨_, hadvanced, -⟩ := advanced_of_fetched (r := t) hf ht hfetch
  obtain ⟨s', hcall, hakin', -⟩ := hakin.fetchSummaries hf hfetch
  refine ⟨s', .last hcall hb (Bool.eq_false_iff.mpr fun hc ↦ ?_)⟩
  rw [hakin'.spec, hadvanced.spec] at hc
  have hc := (Spec.advance_pending hc).1
  rw [Spec.plan_continuous] at hc
  cases hc

section Offsets

variable (hf : r₀.folder.faults = []) (hr : r₀.spec.idRange = none)
  (hq : r₀.spec.query.isAll = true) (hw : r₀.spec.newest = none)
  (hc : r₀.spec.continuous = true) (ht : r₀.spec.take = .count n) (hn : n ≠ 0)

include hf hr hq hw hc ht hn

/-- A window over positions that holds something begins within the folder. After it the offset is
moved on, though not past the end of the folder, and where the next offset is no word, nothing but
the continuation ends. -/
theorem AtOffset.fetched (ha : r₀.AtOffset o r) (he : r.fetchSummaries = (.ok batch, r'))
    (hb : batch ≠ []) : o < (Folder.count r₀.folder).toNat ∧ r₀.Follows r' ∧
      if o + n.toNat < UInt32.size then
        r₀.AtOffset (min (o + n.toNat) (Folder.count r₀.folder).toNat) r'
      else r'.spec = r.spec.stopped := by
  have hspec := ha.spec
  have htake : r.spec.take ≠ .count 0 := by rw [ha.take, ht]; simpa using hn
  have hr' : r.spec.idRange = none := by rw [hspec, hr]
  have hq' : r.spec.query.isAll = true := by rw [hspec, hq]
  have hw' : r.spec.newest = none := by rw [hspec, hw]
  obtain ⟨reads, hadvanced, hnone⟩ :=
    advanced_of_fetched ((faults_of_stored ha.stored).trans hf) htake he
  have hs : r.spec.skip < Folder.count r.folder := Decidable.not_not.mp fun h ↦
    hb (hnone (contents_beyond htake hr' hq' hw' h).1)
  have hplan : (r.spec.plan (Folder.count r.folder) r.config.searchCap).spec = r.spec := by
    rw [Spec.plan_index htake hr' hq' hw' hs]
  have hmoved := ha.moved hc ht hn (.inr (Spec.mode_index hr hq hw)) hplan
    (mt List.eq_nil_of_length_eq_zero hb) hadvanced
  refine ⟨?_, ha.toFollows.next hadvanced, ?_⟩
  · rw [UInt32.lt_iff_toNat_lt, ha.skip, count_of_stored ha.stored] at hs
    exact hs
  · by_cases hsize : o + n.toNat < UInt32.size
    · rw [if_pos hsize] at hmoved ⊢
      exact hmoved
    · rw [if_neg hsize] at hmoved ⊢
      rw [hadvanced.spec, hmoved]
      rfl

theorem Fetches.atOffset (h : r.Fetches done a) (ha : r₀.AtOffset o r) :
    ∃ o', r₀.AtOffset o' a ∧
      (o' = o + done.length * n.toNat ∨ (Folder.count r₀.folder).toNat ≤ o') := by
  induction h generalizing o with
  | nil => exact ⟨o, ha, .inl (by simp)⟩
  | @cons r r' a batch batches he hb hc' _ ih =>
    obtain ⟨hlt, -, hnext⟩ := ha.fetched hf hr hq hw hc ht hn he hb
    split at hnext
    · obtain ⟨o', ha', ho⟩ := ih hnext
      -- an offset that is clamped to the size of the folder stays there
      refine ⟨o', ha', ?_⟩
      rw [List.length_cons, Nat.succ_mul]
      omega
    · rw [hnext] at hc'
      cases hc'

end Offsets

def collectUntil (id : MessageId) (s : Summary) (ids : List MessageId) :
    Except Error Unit × List MessageId :=
  if s.id = id then (.error .cancelled, ids) else collect s ids

def byThrees : Reader MemoryFolder :=
  { folder := gapped, spec := { take := .count 3, continuous := true, items := .idOnly } }

theorem drains_byThrees : ∃ r', byThrees.Drains
    [[{ index := 0, id := ⟨2⟩ }, { index := 1, id := ⟨3⟩ }, { index := 2, id := ⟨5⟩ }],
      [{ index := 3, id := ⟨9⟩ }, { index := 4, id := ⟨10⟩ }, { index := 5, id := ⟨12⟩ }]] r' := by
  have hfetch {o : Nat} {r : Reader MemoryFolder} (ha : byThrees.AtOffset o r) :=
    ha.fetchSummaries_positions (n := 3) rfl (by decide) rfl rfl rfl rfl (by decide)
  have hnext {o : Nat} {r r' : Reader MemoryFolder} {batch : List Summary}
      (ha : byThrees.AtOffset o r) (he : r.fetchSummaries = (.ok batch, r')) (hb : batch ≠ []) :=
    (ha.fetched (n := 3) rfl rfl rfl rfl rfl rfl (by decide) he hb).2.2
  obtain ⟨_, r₁, hfirst, -⟩ := hfetch (.refl byThrees)
  have hoffset₁ := hnext (.refl byThrees) hfirst (List.cons_ne_nil _ _)
  obtain ⟨_, r₂, hsecond, -⟩ := hfetch hoffset₁
  have hoffset₂ := hnext hoffset₁ hsecond (List.cons_ne_nil _ _)
  obtain ⟨_, r₃, hdry, -⟩ := hfetch hoffset₂
  exact ⟨r₃, .more hfirst (List.cons_ne_nil _ _) hoffset₁.continuous <|
    .more hsecond (List.cons_ne_nil _ _) hoffset₂.continuous <| .dry hdry⟩

/-- A walk over positions whose handler fails at a summary ends there, and the folder is left as it
was found. Another call goes on with the window after: the summary is passed over, and so is what
came behind it in its own window. Only where the offset of the window after is no word does the
other call hand over the same window, which was the last one. -/
theorem processSummaries_passes_over_refused (hf : r.folder.faults = []) (hr : r.spec.idRange = none)
    (hq : r.spec.query.isAll = true) (hw : r.spec.newest = none) (hc : r.spec.continuous = true)
    (ht : r.spec.take = .count n) (hn : n ≠ 0) :
    (∃ batches r', r.Drains batches r') ∧
    ∀ (done rest : List (List Summary)) (handled lost : List Summary) (s : Summary)
      (r' : Reader MemoryFolder), r.Drains (done ++ (handled ++ s :: lost) :: rest) r' →
      ∀ {η : Type} (handler : Summary → η → Except Error Unit × η) (x y z : η) (e : Error),
        handleEach handler (done.flatten ++ handled) x = (.ok (), y) →
        handler s y = (.error e, z) →
        ∃ r₁, r.processSummaries handler (fun _ _ ↦ false) x = (some (.error e), r₁, z) ∧
          r₁.retained = false ∧ r₁.folder.isOpen = r.borrowed ∧
          let left := if r.spec.skip.toNat + (done.length + 1) * n.toNat < UInt32.size then rest
            else [handled ++ s :: lost]
          ∀ {κ : Type} (again : Summary → κ → Except Error Unit × κ) (k : κ),
            (∀ s k, (again s k).1 = .ok ()) →
            ∃ r₂, r₁.processSummaries again (fun _ _ ↦ false) k =
              (some (.ok left.flatten.length), r₂, handed again k left.flatten) := by
  have ht' : r.spec.take ≠ .count 0 := by rw [ht]; simpa using hn
  refine ⟨exists_drains hf ht', ?_⟩
  intro done rest handled lost s r' hd η handler x y z e hh hs
  obtain ⟨w, hdone, hhandled⟩ := handleEach_append_eq_ok.mp hh
  obtain ⟨a, b, hfetches, he, hb, hrest⟩ := hd.split
  have hlength := (hd.length_le hf ht').trans r.spec.remaining_le
  rw [List.length_append, List.length_cons] at hlength
  obtain ⟨o, ha, ho⟩ := hfetches.atOffset hf hr hq hw hc ht hn (.refl r)
  obtain ⟨hlt, hfollows, hnext⟩ := ha.fetched hf hr hq hw hc ht hn he hb
  -- the window of the failure holds something, so its offset is not past the end
  have hoffset : o + n.toNat = r.spec.skip.toNat + (done.length + 1) * n.toNat := by
    rw [ho.resolve_right (Nat.not_le_of_lt hlt), Nat.succ_mul, Nat.add_assoc]
  have hfb : b.folder.faults = [] := (faults_of_stored hfollows.stored).trans hf
  obtain ⟨hakin, hretained, hopen⟩ := closeRetained_akin (r := b) (by simp [hfb])
  refine ⟨b.closeRetained, ?_, hretained, hopen.trans hfollows.borrowed, ?_⟩
  · exact hfetches.processSummaries_of_refused hdone he hb (handleEach_of_refused hhandled hs)
      (by omega)
  intro left κ again k hagain
  -- whether the spec had moved on before the handler was called
  by_cases hsize : r.spec.skip.toNat + (done.length + 1) * n.toNat < UInt32.size
  · have hleft : left = rest := if_pos hsize
    rw [hoffset, if_pos hsize] at hnext
    obtain ⟨-, hrest⟩ | ⟨hover, -⟩ := hrest
    · obtain ⟨r₂, hd₂⟩ := hrest.akin hakin hfb
      rw [hleft]
      exact ⟨r₂, hd₂.processSummaries_eq hagain (by omega) k⟩
    · exact absurd (hnext.continuous.trans hc) (Bool.eq_false_iff.mp hover)
  · have hleft : left = [handled ++ s :: lost] := if_neg hsize
    rw [hoffset, if_neg hsize] at hnext
    obtain ⟨r₂, hd₂⟩ := drains_again ((faults_of_stored ha.stored).trans hf) (ha.take ▸ ht') he hb
      hnext hakin
    rw [hleft]
    exact ⟨r₂, hd₂.processSummaries_eq hagain (show 1 ≤ UInt32.size by decide) k⟩

theorem processSummaries_passes_over_refused_byThrees :
    ∃ r₁ r₂, byThrees.processSummaries (collectUntil ⟨3⟩) (fun _ _ ↦ false) [] =
        (some (.error .cancelled), r₁, [⟨2⟩]) ∧ r₁.folder.isOpen = false ∧
      r₁.processSummaries collect (fun _ _ ↦ false) [] =
        (some (.ok 3), r₂, [⟨9⟩, ⟨10⟩, ⟨12⟩]) := by
  obtain ⟨-, hwalks⟩ := processSummaries_passes_over_refused (r := byThrees) (n := 3) rfl rfl rfl
    rfl rfl rfl (by decide)
  obtain ⟨r', hd⟩ := drains_byThrees
  obtain ⟨r₁, hp, -, hopen, hagain⟩ := hwalks [] _ [{ index := 0, id := ⟨2⟩ }]
    [{ index := 2, id := ⟨5⟩ }] { index := 1, id := ⟨3⟩ } r' hd (collectUntil ⟨3⟩) [] [⟨2⟩] [⟨2⟩]
    .cancelled rfl rfl
  obtain ⟨r₂, hp'⟩ := hagain collect [] collect_succeeds
  exact ⟨r₁, r₂, hp, hopen, hp'⟩

/-- Neither of two calls hands over the summary at which the handler fails in the first one, nor the
one behind it. -/
theorem loses_refused : ∃ r₁ r₂,
    byThrees.processSummaries (collectUntil ⟨3⟩) (fun _ _ ↦ false) [] =
        (some (.error .cancelled), r₁, [⟨2⟩]) ∧
      r₁.processSummaries collect (fun _ _ ↦ false) [⟨2⟩] =
        (some (.ok 3), r₂, [⟨2⟩, ⟨9⟩, ⟨10⟩, ⟨12⟩]) := by
  obtain ⟨r', hd⟩ := drains_byThrees
  obtain ⟨b, he, hb, ⟨-, hrest⟩ | ⟨-, hnil⟩⟩ := hd.head
  · obtain ⟨_, hadvanced, -⟩ := advanced_of_fetched (r := byThrees) rfl (by decide) he
    have hfb : b.folder.faults = [] := faults_of_stored hadvanced.stored
    obtain ⟨r₂, hd₂⟩ := hrest.akin (closeRetained_akin (by simp [hfb])).1 hfb
    exact ⟨_, r₂, (Fetches.nil byThrees).processSummaries_of_refused rfl he hb rfl (by decide),
      hd₂.processSummaries_eq collect_succeeds (by decide) [⟨2⟩]⟩
  · cases hnil

end Reader

end MailWindow
