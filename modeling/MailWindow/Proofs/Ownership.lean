import MailWindow.Proofs.Requests
import MailWindow.Reader.Processing

namespace MailWindow

inductive Party where
  | caller
  | reader
  deriving DecidableEq

/-- A call with the party that has made it, and whether the folder has granted it. -/
structure Deed where
  party : Party
  call : Call
  granted : Bool

namespace Deed

/-- Who has opened the folder after a deed, if it is open then. -/
def holder (h : Option Party) (d : Deed) : Option Party :=
  match d.call with
  | .select _ => if d.granted then some d.party else h
  | .close => if d.granted then none else h
  | _ => h

/-- What the reader may do to a folder, by who has opened it; the caller may do anything. -/
def Proper (h : Option Party) (d : Deed) : Prop :=
  d.party = .reader →
    match d.call with
    | .select _ => h = none
    | .close => h = some .reader
    | _ => h ≠ none

def holderAfter (h : Option Party) (ds : List Deed) : Option Party := ds.foldl holder h

def Orderly : Option Party → List Deed → Prop
  | _, [] => True
  | h, d :: ds => d.Proper h ∧ Orderly (d.holder h) ds

variable {h : Option Party}

theorem holderAfter_append (h : Option Party) (ds es : List Deed) :
    holderAfter h (ds ++ es) = holderAfter (holderAfter h ds) es := List.foldl_append

theorem orderly_append (ds es : List Deed) :
    Orderly h (ds ++ es) ↔ Orderly h ds ∧ Orderly (holderAfter h ds) es := by
  induction ds generalizing h with
  | nil => simp [Orderly, holderAfter]
  | cons d ds ih => simp only [List.cons_append, Orderly, ih, holderAfter, List.foldl_cons, and_assoc]

theorem orderly_singleton (d : Deed) : Orderly h [d] ↔ d.Proper h := and_iff_left trivial

end Deed

namespace MemoryFolder

def grants (f : MemoryFolder) : Call → Bool
  | .select _ => Fault.select ∉ f.faults
  | .close => Fault.close ∉ f.faults
  | _ => true

def deeds (f : MemoryFolder) (cs : List Call) : List Deed :=
  cs.map fun c ↦ ⟨.reader, c, f.grants c⟩

theorem deeds_append (f : MemoryFolder) (cs ds : List Call) :
    f.deeds (cs ++ ds) = f.deeds cs ++ f.deeds ds := List.map_append

variable {f : MemoryFolder} {h : Option Party}

theorem orderly_reads (hh : h ≠ none) {reads : List Call} (hr : ∀ c ∈ reads, c.isRead = true) :
    Deed.Orderly h (f.deeds reads) ∧ Deed.holderAfter h (f.deeds reads) = h := by
  induction reads with
  | nil => exact ⟨trivial, rfl⟩
  | cons c reads ih =>
    obtain ⟨horderly, hholder⟩ := ih fun d hd ↦ hr d (List.mem_cons_of_mem c hd)
    have hc : c.isRead = true := hr c List.mem_cons_self
    have hstep : (⟨.reader, c, f.grants c⟩ : Deed).Proper h ∧
        (⟨.reader, c, f.grants c⟩ : Deed).holder h = h := by
      cases c with
      | select access => cases hc
      | close => cases hc
      | _ => exact ⟨fun _ ↦ hh, rfl⟩
    refine ⟨⟨hstep.1, ?_⟩, ?_⟩
    · rw [hstep.2]
      exact horderly
    · rw [deeds, List.map_cons, Deed.holderAfter, List.foldl_cons, hstep.2]
      exact hholder

end MemoryFolder

namespace Reader

open MemoryFolder

variable {r r' r'' : Reader MemoryFolder} {h : Option Party}

/-- The folder is open just if somebody has opened it, and kept open just if it was the reader. -/
structure HeldBy (r : Reader MemoryFolder) (h : Option Party) : Prop where
  isOpen : r.folder.isOpen = h.isSome
  retained : r.retained = decide (h = some .reader)

theorem HeldBy.borrowed_eq (hr : r.HeldBy h) : r.borrowed = decide (h = some .caller) := by
  rw [borrowed, hr.isOpen, hr.retained]
  rcases h with _ | _ | _ <;> rfl

structure Tidy (r : Reader MemoryFolder) (cs : List Call) (r' : Reader MemoryFolder) : Prop where
  calls : r'.folder.calls = r.folder.calls ++ cs
  faults : r'.folder.faults = r.folder.faults
  step : ∀ h, r.HeldBy h → Deed.Orderly h (r.folder.deeds cs) ∧
    r'.HeldBy (Deed.holderAfter h (r.folder.deeds cs))

namespace Tidy

theorem of_eq (hf : r'.folder = r.folder) (hr : r'.retained = r.retained) : r.Tidy [] r' where
  calls := by rw [hf, List.append_nil]
  faults := by rw [hf]
  step _ hh := ⟨trivial, hf ▸ hh.isOpen, hr.trans hh.retained⟩

theorem trans {cs ds : List Call} (h₁ : r.Tidy cs r') (h₂ : r'.Tidy ds r'') :
    r.Tidy (cs ++ ds) r'' where
  calls := by rw [h₂.calls, h₁.calls, List.append_assoc]
  faults := h₂.faults.trans h₁.faults
  step h hh := by
    obtain ⟨horderly₁, hheld⟩ := h₁.step h hh
    obtain ⟨horderly₂, hheld⟩ := h₂.step _ hheld
    have hdeeds : r'.folder.deeds ds = r.folder.deeds ds := by
      have hgrants : r'.folder.grants = r.folder.grants := by
        funext c
        cases c <;> simp only [grants, h₁.faults]
      rw [deeds, deeds, hgrants]
    rw [hdeeds] at horderly₂ hheld
    rw [deeds_append, Deed.orderly_append, Deed.holderAfter_append]
    exact ⟨⟨horderly₁, horderly₂⟩, hheld⟩

theorem close_not_mem {cs : List Call} (h : r.Tidy cs r') (hc : Fault.close ∉ r.folder.faults) :
    Fault.close ∉ r'.folder.faults := h.faults ▸ hc

end Tidy

def host (r : Reader MemoryFolder) : Party := if r.borrowed then .caller else .reader

theorem orderly_enter (hf : r.folder.Accessible) (hh : r.HeldBy h) :
    let opening : List Call := if r.folder.isOpen then [] else [.select r.config.folderAccess]
    Deed.Orderly h (r.folder.deeds opening) ∧
      Deed.holderAfter h (r.folder.deeds opening) = some r.host := by
  have hopen := hh.isOpen
  rw [host, hh.borrowed_eq]
  cases h with
  | some p =>
    rw [hopen]
    refine ⟨trivial, ?_⟩
    cases p <;> rfl
  | none =>
    have hselect : Fault.select ∉ r.folder.faults :=
      hf.resolve_left (by rw [hopen]; exact Bool.false_ne_true)
    have hgrants (access : Access) : r.folder.grants (.select access) = true :=
      decide_eq_true hselect
    rw [hopen]
    exact ⟨⟨fun _ ↦ rfl, trivial⟩, if_pos (hgrants r.config.folderAccess)⟩

theorem orderly_leave (hc : Fault.close ∉ r.folder.faults) (kept : Bool) :
    let closing : List Call := if r.borrowed || kept then [] else [.close]
    Deed.Orderly (some r.host) (r.folder.deeds closing) ∧
      Deed.holderAfter (some r.host) (r.folder.deeds closing) =
        if r.borrowed || kept then some r.host else none := by
  have hgrants : r.folder.grants .close = true := decide_eq_true hc
  cases hb : r.borrowed with
  | true => exact ⟨trivial, rfl⟩
  | false =>
    cases kept with
    | true => exact ⟨trivial, rfl⟩
    | false =>
      have hhost : r.host = .reader := by rw [host, hb]; rfl
      exact ⟨⟨fun _ ↦ congrArg some hhost, trivial⟩, if_pos hgrants⟩

section Steps

variable (hc : Fault.close ∉ r.folder.faults)

include hc

theorem Visited.tidy (hf : r.folder.Accessible) {kept : Bool} {spec : Spec} {reads : List Call}
    (hr : ∀ c ∈ reads, c.isRead = true) (hv : r.Visited kept spec reads r') :
    r.Tidy ((if r.folder.isOpen then [] else [.select r.config.folderAccess]) ++ reads ++
      (if r.borrowed || kept then [] else [.close])) r' where
  calls := by
    rw [hv.calls]
    simp only [List.append_assoc]
  faults := faults_of_stored hv.stored
  step h hh := by
    obtain ⟨henter, hhost⟩ := orderly_enter hf hh
    obtain ⟨hread, hstill⟩ := orderly_reads (f := r.folder) (Option.some_ne_none r.host) hr
    obtain ⟨hleave, hend⟩ := orderly_leave hc kept
    simp only [deeds_append, Deed.orderly_append, Deed.holderAfter_append, hhost, hstill, hend]
    refine ⟨⟨⟨henter, hread⟩, hleave⟩, ?_, ?_⟩
    · rw [hv.isOpen]
      cases r.borrowed || kept <;> rfl
    · rw [hv.retained, host]
      cases r.borrowed <;> cases kept <;> rfl

theorem Treated.tidy {failed : Bool} (ht : r.Treated failed r') : ∃ cs, r.Tidy cs r' := by
  cases ht with
  | unmoved => exact ⟨_, .of_eq rfl rfl⟩
  | visited accessible reading _ visit => exact ⟨_, visit.tidy hc accessible reading⟩
  | refused closed _ folder _ _ retained =>
    obtain ⟨hclosed, hselect⟩ := not_or.mp closed
    refine ⟨[.select r.config.folderAccess], by rw [folder]; rfl, by rw [folder]; rfl, ?_⟩
    intro h hh
    have hnone : h = none := by
      rw [hh.isOpen] at hclosed
      simpa using hclosed
    have hgrants : r.folder.grants (.select r.config.folderAccess) = false :=
      decide_eq_false hselect
    have hholder : Deed.holderAfter h (r.folder.deeds [.select r.config.folderAccess]) = h :=
      if_neg (Bool.eq_false_iff.mp hgrants)
    refine ⟨⟨fun _ ↦ hnone, trivial⟩, ?_⟩
    rw [hholder]
    subst hnone
    have hkept : r.retained = false := hh.retained
    refine ⟨by rw [folder]; exact hh.isOpen, ?_⟩
    exact Bool.eq_false_iff.mpr fun hr ↦ Bool.eq_false_iff.mp hkept (retained hr)

theorem closeRetained_of_kept (hr : r.retained = true) (ho : r.folder.isOpen = true) :
    r.closeRetained = { r with folder := r.folder.closed, retained := false } := by
  have hkept : (r.retained && Folder.isOpen r.folder) = true := Bool.and_eq_true_iff.mpr ⟨hr, ho⟩
  simp only [closeRetained, hkept, if_true, closeQuietly_of_granted hc, warn, List.append_nil]

theorem closeRetained_tidy : ∃ cs, r.Tidy cs r.closeRetained := by
  by_cases hkept : (r.retained && r.folder.isOpen) = true
  · obtain ⟨hretained, hopen⟩ := Bool.and_eq_true_iff.mp hkept
    rw [closeRetained_of_kept hc hretained hopen]
    refine ⟨[.close], rfl, rfl, fun h hh ↦ ?_⟩
    have hreader : h = some .reader := of_decide_eq_true (hh.retained ▸ hretained)
    have hgrants : r.folder.grants .close = true := decide_eq_true hc
    have hholder : Deed.holderAfter h (r.folder.deeds [.close]) = none := if_pos hgrants
    rw [hholder]
    exact ⟨⟨fun _ ↦ hreader, trivial⟩, rfl, rfl⟩
  · have hsame : r.closeRetained = { r with retained := false } := if_neg hkept
    rw [hsame]
    refine ⟨[], (List.append_nil _).symm, rfl, fun h hh ↦ ⟨trivial, hh.isOpen, ?_⟩⟩
    -- what is kept is open, so nothing was kept
    rw [hh.isOpen, hh.retained] at hkept
    rcases h with _ | _ | _
    · rfl
    · rfl
    · exact absurd rfl hkept

theorem fetchSummaries_tidy : ∃ cs, r.Tidy cs r.fetchSummaries.2 :=
  Treated.tidy hc (Request.summaries.perform_treated hc)

end Steps

theorem processRounds_induction {σ η : Type} [Folder σ] {P : Reader σ → Reader σ → Prop}
    (hrefl : ∀ r, P r r) (htrans : ∀ r s t, P r s → P s t → P r t)
    (hfetch : ∀ r, P r r.fetchSummaries.2) (hclose : ∀ r, P r r.closeRetained)
    (handler : Summary → η → Except Error Unit × η) (cancelled : σ → η → Bool)
    (rounds processed : Nat) (r : Reader σ) (x : η) :
    P r (r.processRounds handler cancelled rounds processed x).2.1 := by
  induction rounds generalizing r processed x with
  | zero => exact hrefl r
  | succ rounds ih =>
    have hfetch := hfetch r
    simp only [processRounds]
    cases cancelled r.folder x with
    | true => exact hclose r
    | false =>
      simp only [Bool.false_eq_true, if_false]
      rcases hf : r.fetchSummaries with ⟨e | _ | ⟨s, ss⟩, r'⟩ <;> rw [hf] at hfetch
      · exact hfetch
      · exact hfetch
      · dsimp only
        rcases handleEach handler (s :: ss) x with ⟨e | _, x⟩
        · exact htrans _ _ _ hfetch (hclose r')
        · cases r'.spec.continuous with
          | false => exact hfetch
          | true => exact htrans _ _ _ hfetch (ih _ r' x)

theorem processRounds_tidy {η : Type} (handler : Summary → η → Except Error Unit × η)
    (cancelled : MemoryFolder → η → Bool) (rounds processed : Nat)
    (hc : Fault.close ∉ r.folder.faults) (x : η) :
    ∃ cs, r.Tidy cs (r.processRounds handler cancelled rounds processed x).2.1 := by
  let P (r r' : Reader MemoryFolder) : Prop := Fault.close ∉ r.folder.faults → ∃ cs, r.Tidy cs r'
  have htrans (r s t : Reader MemoryFolder) (hrs : P r s) (hst : P s t) : P r t := by
    intro hc
    obtain ⟨cs, hrs⟩ := hrs hc
    obtain ⟨ds, hst⟩ := hst (hrs.close_not_mem hc)
    exact ⟨cs ++ ds, hrs.trans hst⟩
  exact processRounds_induction (P := P) (fun _ _ ↦ ⟨[], .of_eq rfl rfl⟩) htrans
    (fun _ ↦ fetchSummaries_tidy) (fun _ ↦ closeRetained_tidy) handler cancelled rounds processed r
    x hc

end Reader

inductive Setting where
  | skip (n : Int)
  | take (n : Int) (continuous : Bool)
  | newest (n : UInt32)
  | range (range : IdRange) (continuous : Bool)
  | batch (start : MessageId) (size : UInt32) (continuous : Bool)
  | query (query : Query)
  | items (items : SummaryItems)
  | spec (spec : Spec)

namespace Setting

def apply (r : Reader MemoryFolder) : Setting → Reader MemoryFolder
  | .skip n => (r.skip n).toOption.getD r
  | .take n continuous => (r.take n continuous).toOption.getD r
  | .newest n => (r.newest n).toOption.getD r
  | .range ids continuous => r.range ids continuous
  | .batch start size continuous => r.batch start size continuous
  | .query q => r.query q
  | .items xs => r.items xs
  | .spec s => { r with spec := s }

theorem apply_keeps (x : Setting) (r : Reader MemoryFolder) :
    (x.apply r).folder = r.folder ∧ (x.apply r).retained = r.retained := by
  have hset (spec : Except Error Spec) : ((r.setSpec spec).toOption.getD r).folder = r.folder ∧
      ((r.setSpec spec).toOption.getD r).retained = r.retained := by
    cases spec <;> exact ⟨rfl, rfl⟩
  cases x with
  | skip n => exact hset _
  | newest n => exact hset _
  | take n continuous =>
    simp only [apply, Reader.take]
    cases r.spec.withTake n continuous with
    | error e => exact ⟨rfl, rfl⟩
    | ok spec =>
      simp only [Reader.setSpec, Except.map]
      split <;> exact ⟨rfl, rfl⟩
  | _ => exact ⟨rfl, rfl⟩

end Setting

inductive Reader.Operation : Type 1 where
  | configure (setting : Setting)
  | request (q : Request)
  | process {η : Type} (handler : Summary → η → Except Error Unit × η)
    (cancelled : MemoryFolder → η → Bool) (h : η)
  | finish

namespace Reader.Operation

def perform (r : Reader MemoryFolder) : Operation → Reader MemoryFolder
  | configure setting => setting.apply r
  | request q => (q.perform r).2
  | process handler cancelled h => (r.processSummaries handler cancelled h).2.1
  | finish => r.finish

def deeds (op : Operation) (r : Reader MemoryFolder) : List Deed :=
  r.folder.deeds ((op.perform r).folder.calls.drop r.folder.calls.length)

variable {r : Reader MemoryFolder}

theorem perform_tidy (op : Operation) (hc : Fault.close ∉ r.folder.faults) :
    ∃ cs, r.Tidy cs (op.perform r) := by
  cases op with
  | configure setting =>
    obtain ⟨hf, hr⟩ := setting.apply_keeps r
    exact ⟨[], .of_eq hf hr⟩
  | request q => exact Reader.Treated.tidy hc (q.perform_treated hc)
  | process handler cancelled h =>
    exact Reader.processRounds_tidy handler cancelled Reader.allRounds 0 hc h
  | finish =>
    have hstopped : r.Tidy [] { r with spec := r.spec.stopped } := .of_eq rfl rfl
    obtain ⟨cs, hclose⟩ := Reader.closeRetained_tidy (hstopped.close_not_mem hc)
    exact ⟨_, hstopped.trans hclose⟩

theorem perform_heldBy (op : Operation) (hc : Fault.close ∉ r.folder.faults) {h : Option Party}
    (hh : r.HeldBy h) :
    Deed.Orderly h (op.deeds r) ∧ (op.perform r).HeldBy (Deed.holderAfter h (op.deeds r)) := by
  obtain ⟨cs, ht⟩ := op.perform_tidy hc
  rw [deeds, ht.calls, List.drop_left]
  exact ht.step h hh

end Reader.Operation

/-- What has been done to a folder, and the reader now. The caller may change what is stored, the
faults and the log whenever it likes; it opens and closes the folder only while the reader does not
keep it. -/
inductive Run (start : MemoryFolder) : List Deed → Reader MemoryFolder → Prop
  | fresh (config : Config) : Run start [] { folder := start, config }
  | operate {ds : List Deed} {r : Reader MemoryFolder} (op : Reader.Operation) (run : Run start ds r)
      (granted : Fault.close ∉ r.folder.faults) : Run start (ds ++ op.deeds r) (op.perform r)
  | select {ds : List Deed} {r : Reader MemoryFolder} (access : Access) (run : Run start ds r)
      (free : r.retained = false) :
      Run start (ds ++ [⟨.caller, .select access, (Folder.select access r.folder).1.isOk⟩])
        { r with folder := (Folder.select access r.folder).2 }
  | close {ds : List Deed} {r : Reader MemoryFolder} (expunge : Bool) (run : Run start ds r)
      (free : r.retained = false) :
      Run start (ds ++ [⟨.caller, .close, (Folder.close expunge r.folder).1.isOk⟩])
        { r with folder := (Folder.close expunge r.folder).2 }
  | change {ds : List Deed} {r : Reader MemoryFolder} {f : MemoryFolder} (run : Run start ds r)
      (access : f.access = r.folder.access) : Run start ds { r with folder := f }

namespace Run

open Reader

variable {start : MemoryFolder} {ds : List Deed} {r : Reader MemoryFolder}

def holder (start : MemoryFolder) : Option Party := if start.isOpen then some .caller else none

theorem heldBy_select {h : Option Party} (hh : r.HeldBy h) (hfree : r.retained = false)
    (access : Access) :
    ({ r with folder := (Folder.select access r.folder).2 } : Reader MemoryFolder).HeldBy
      (Deed.holder h ⟨.caller, .select access, (Folder.select access r.folder).1.isOk⟩) := by
  by_cases hf : Fault.select ∈ r.folder.faults
  · obtain ⟨e, he⟩ := MemoryFolder.select_of_denied hf access
    rw [he]
    exact ⟨hh.isOpen, hh.retained⟩
  · rw [MemoryFolder.select_of_granted hf]
    exact ⟨rfl, hfree⟩

theorem heldBy_close {h : Option Party} (hh : r.HeldBy h) (hfree : r.retained = false)
    (expunge : Bool) :
    ({ r with folder := (Folder.close expunge r.folder).2 } : Reader MemoryFolder).HeldBy
      (Deed.holder h ⟨.caller, .close, (Folder.close expunge r.folder).1.isOk⟩) := by
  change ({ r with folder := (MemoryFolder.close expunge r.folder).2 } : Reader MemoryFolder).HeldBy
    (Deed.holder h ⟨.caller, .close, (MemoryFolder.close expunge r.folder).1.isOk⟩)
  simp only [MemoryFolder.close]
  cases (r.folder.log .close).check .close with
  | error e => exact ⟨hh.isOpen, hh.retained⟩
  | ok _ => exact ⟨rfl, hfree⟩

theorem orderly_heldBy (run : Run start ds r) :
    Deed.Orderly (holder start) ds ∧ r.HeldBy (Deed.holderAfter (holder start) ds) := by
  have hcaller (h : Option Party) (c : Call) (granted : Bool) :
      Deed.Orderly h [⟨.caller, c, granted⟩] :=
    (Deed.orderly_singleton _).mpr fun hp ↦ nomatch hp
  induction run with
  | fresh config =>
    refine ⟨trivial, ?_, ?_⟩ <;>
      cases h : start.isOpen <;> simp [Deed.holderAfter, holder, h]
  | operate op _ hc ih =>
    obtain ⟨horderly, hh⟩ := ih
    obtain ⟨hop, hheld⟩ := op.perform_heldBy hc hh
    rw [Deed.orderly_append, Deed.holderAfter_append]
    exact ⟨⟨horderly, hop⟩, hheld⟩
  | select access _ hfree ih =>
    obtain ⟨horderly, hh⟩ := ih
    rw [Deed.orderly_append, Deed.holderAfter_append]
    exact ⟨⟨horderly, hcaller _ _ _⟩, heldBy_select hh hfree access⟩
  | close expunge _ hfree ih =>
    obtain ⟨horderly, hh⟩ := ih
    rw [Deed.orderly_append, Deed.holderAfter_append]
    exact ⟨⟨horderly, hcaller _ _ _⟩, heldBy_close hh hfree expunge⟩
  | change _ access ih =>
    obtain ⟨horderly, hh⟩ := ih
    have hopen := hh.isOpen
    rw [MemoryFolder.isOpen, ← access] at hopen
    exact ⟨horderly, hopen, hh.retained⟩

/-- Over a whole run the reader opens the folder only when it is closed, closes it only when it was
the last to open it, and reads it only when it is open. Between the calls, the folder that it keeps
is open and its own, an open folder that it does not keep is the caller's, and finishing closes what
it keeps. -/
theorem reader_closes_what_it_opens (run : Run start ds r) :
    Deed.Orderly (holder start) ds ∧
    r.folder.isOpen = (Deed.holderAfter (holder start) ds).isSome ∧
    (r.retained = true →
      r.folder.isOpen = true ∧ Deed.holderAfter (holder start) ds = some .reader) ∧
    (r.folder.isOpen = true → r.retained = false →
      Deed.holderAfter (holder start) ds = some .caller) ∧
    (r.retained = true → Fault.close ∉ r.folder.faults →
      r.finish.folder = r.folder.closed ∧ r.finish.retained = false) := by
  obtain ⟨horderly, hh⟩ := run.orderly_heldBy
  refine ⟨horderly, hh.isOpen, fun hkept ↦ ?_, fun hopen hfree ↦ ?_, fun hkept hc ↦ ?_⟩
  · have hreader := of_decide_eq_true (hh.retained ▸ hkept)
    refine ⟨?_, hreader⟩
    rw [hh.isOpen, hreader]
    rfl
  · rw [hh.isOpen] at hopen
    rw [hh.retained] at hfree
    obtain ⟨p, hp⟩ := Option.isSome_iff_exists.mp hopen
    rw [hp] at hfree ⊢
    cases p with
    | caller => rfl
    | reader => exact absurd hfree (by decide)
  · have hreader := of_decide_eq_true (hh.retained ▸ hkept)
    have hopen : r.folder.isOpen = true := by rw [hh.isOpen, hreader]; rfl
    rw [finish, closeRetained_of_kept (r := { r with spec := r.spec.stopped }) hc hkept hopen]
    exact ⟨rfl, rfl⟩

theorem reader_closes_what_it_opens_gapped :
    let r : Reader MemoryFolder :=
      Reader.Operation.perform ((Setting.take 2 true).apply { folder := .gapped })
        (.request (.stream (fun _ ↦ false) 1))
    r.folder.isOpen = true ∧ r.retained = true ∧
    (∃ ds, Deed.Orderly none ds ∧ Deed.holderAfter none ds = some .reader) ∧
    r.finish.folder.isOpen = false := by
  intro r
  have hrun : Run .gapped _ r :=
    .operate _ (.operate (.configure (.take 2 true)) (.fresh {}) (by decide)) (by decide)
  obtain ⟨horderly, -, hkept, -, hfinish⟩ := reader_closes_what_it_opens hrun
  have hretained : r.retained = true := by decide +kernel
  obtain ⟨hopen, hholder⟩ := hkept hretained
  refine ⟨hopen, hretained, ⟨_, horderly, hholder⟩, ?_⟩
  rw [(hfinish hretained (by decide +kernel)).1]
  rfl

end Run

end MailWindow
