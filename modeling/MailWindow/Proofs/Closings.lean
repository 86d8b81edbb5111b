import MailWindow.Proofs.Ownership

namespace MailWindow

namespace Deed

/-- Whether the reader has tried in vain to close the folder since it was opened. -/
def missed (m : Bool) (d : Deed) : Bool :=
  match d.call with
  | .select _ => m && !d.granted
  | .close => !d.granted && (m || decide (d.party = .reader))
  | _ => m

def missedAfter (m : Bool) (ds : List Deed) : Bool := ds.foldl missed m

theorem missedAfter_append (m : Bool) (ds es : List Deed) :
    missedAfter m (ds ++ es) = missedAfter (missedAfter m ds) es := List.foldl_append

end Deed

namespace MemoryFolder

variable {f g : MemoryFolder}

theorem deeds_of_faults (h : g.faults = f.faults) : g.deeds = f.deeds := by
  have hgrants : g.grants = f.grants := by
    funext c
    cases c <;> simp only [grants, h]
  funext cs
  rw [deeds, deeds, hgrants]

theorem reads_pass {reads : List Call} (hr : ∀ c ∈ reads, c.isRead = true) (h : Option Party)
    (m : Bool) : Deed.holderAfter h (f.deeds reads) = h ∧ Deed.missedAfter m (f.deeds reads) = m := by
  induction reads with
  | nil => exact ⟨rfl, rfl⟩
  | cons c reads ih =>
    obtain ⟨hc, hreads⟩ := List.forall_mem_cons.mp hr
    cases c with
    | select access => cases hc
    | close => cases hc
    | _ => exact ih hreads

def shut (f : MemoryFolder) : MemoryFolder := (closeQuietly f).2

theorem shut_eq (f : MemoryFolder) :
    f.shut = if f.grants .close then f.closed else f.logs [.close] := by
  by_cases hf : Fault.close ∈ f.faults
  · have hcheck : ∃ e, (f.log .close).check .close = .error e := by simp [check, log, hf]
    obtain ⟨e, he⟩ := hcheck
    have hgrants : ¬f.grants .close = true := by simp [grants, hf]
    have hclose : Folder.close false f = (.error e, f.logs [.close]) := by
      change MemoryFolder.close false f = _
      simp only [close, he]
      rfl
    rw [if_neg hgrants, shut, closeQuietly, hclose]
  · have hgrants : f.grants .close = true := decide_eq_true hf
    rw [if_pos hgrants, shut, closeQuietly_of_granted hf]

theorem calls_shut (f : MemoryFolder) : f.shut.calls = f.calls ++ [.close] := by
  rw [shut_eq]
  split <;> rfl

theorem faults_shut (f : MemoryFolder) : f.shut.faults = f.faults := by
  rw [shut_eq]
  split <;> rfl

theorem isOpen_shut (f : MemoryFolder) : f.shut.isOpen = (f.isOpen && !f.grants .close) := by
  rw [shut_eq]
  cases f.grants .close with
  | true => exact (Bool.and_false _).symm
  | false => exact (Bool.and_true _).symm

theorem release_shut (owned pending : Bool) (f : MemoryFolder) :
    (Lease.release ⟨owned⟩ pending f).1 = (owned && pending) ∧
      (Lease.release ⟨owned⟩ pending f).2.2 = if owned && !pending then f.shut else f := by
  cases owned <;> cases pending <;> exact ⟨rfl, rfl⟩

theorem abandon_shut (ho : f.isOpen = true) (owned : Bool) :
    (Lease.abandon ⟨owned⟩ f).2 = if owned then f.shut else f := by
  have hopen : Folder.isOpen f = true := ho
  cases owned <;> simp [Lease.abandon, hopen, shut]

end MemoryFolder

namespace Reader

open MemoryFolder

variable {r r' r'' : Reader MemoryFolder} {kept : Bool} {reads : List Call}

/-- How a visit leaves a reader behind if closing may fail: a folder that is neither borrowed nor
kept has been shut. -/
structure Parted (r : Reader MemoryFolder) (kept : Bool) (reads : List Call)
    (r' : Reader MemoryFolder) : Prop where
  folder : r'.folder = if r.borrowed || kept then r.during reads else (r.during reads).shut
  retained : r'.retained = (!r.borrowed && kept)

theorem endVisit_parted (r : Reader MemoryFolder) (reads : List Call) (e : Ending) :
    r.Parted (r.keeps e) reads ({ r.inside with folder := r.during reads }.endVisit r.visit e) := by
  cases e with
  | done returned =>
    obtain ⟨hkept, hfolder⟩ :=
      release_shut (!r.borrowed) (r.following returned).isPending (r.during reads)
    refine ⟨hfolder.trans ?_, hkept⟩
    change _ = if (r.borrowed || (r.following returned).isPending) = true then _ else _
    cases r.borrowed <;> cases (r.following returned).isPending <;> rfl
  | failed =>
    refine ⟨(abandon_shut (r.isOpen_during reads) (!r.borrowed)).trans ?_, ?_⟩
    · cases r.borrowed <;> rfl
    · exact (Bool.and_false _).symm
  | dropped =>
    refine ⟨?_, ?_⟩
    · rw [keeps, Bool.or_true]
      rfl
    · exact (Bool.and_true _).symm

inductive Handled (r : Reader MemoryFolder) : Reader MemoryFolder → Prop
  | unmoved : r.Handled r
  | refused {r' : Reader MemoryFolder} (closed : ¬r.folder.Accessible)
      (folder : r'.folder = r.folder.logs [.select r.config.folderAccess])
      (retained : r'.retained = true → r.retained = true) : r.Handled r'
  | parted {r' : Reader MemoryFolder} {kept : Bool} {reads : List Call}
      (accessible : r.folder.Accessible) (reading : ∀ c ∈ reads, c.isRead = true)
      (parted : r.Parted kept reads r') : r.Handled r'

theorem attend_handled {e : Errand} (he : e.Sound) (r : Reader MemoryFolder) :
    r.Handled (e.attend r).2 := by
  cases ht : r.spec.take.isZero with
  | true =>
    rw [e.attend_of_isZero ht]
    exact .unmoved
  | false =>
    by_cases hf : r.folder.Accessible
    · obtain ⟨⟨a, ending⟩, reads, hreads, hrun, -⟩ := he.agree (.refl r)
      have hrun : e.run r.folder r.inside r.visit = ((a, ending), r.during reads) := hrun
      have hattend : e.attend r =
          (a, { r.inside with folder := r.during reads }.endVisit r.visit ending) := by
        simp only [Errand.attend, attend, ht, Bool.false_eq_true, if_false,
          enter_of_accessible hf, hrun]
      rw [hattend]
      exact .parted hf hreads (r.endVisit_parted reads ending)
    · obtain ⟨x, hx⟩ : ∃ x, e.attend r = (e.refusal x, r.refused) :=
        attend_of_not_accessible hf ht
      rw [hx]
      exact .refused hf rfl fun h ↦ absurd h Bool.false_ne_true

theorem fetchMessage_parted (hf : r.folder.Accessible) (id : MessageId)
    {a : Except SessionError (Option Message)}
    (ha : Target.fetch r.inside.folder (.id id) = (a, r.during reads)) :
    r.Parted (a.isOk && r.retained) reads (r.fetchMessage id).2 := by
  have ha : Target.fetch (r.folder.opened r.config.folderAccess) (.id id) = (a, r.during reads) := ha
  cases a with
  | ok m =>
    obtain ⟨hkept, hfolder⟩ :=
      release_shut (!r.folder.isOpen || r.retained) r.retained (r.during reads)
    simp only [fetchMessage, acquire_of_accessible hf, ha]
    refine ⟨hfolder.trans ?_, hkept.trans ?_⟩
    · change _ = if (r.folder.isOpen && !r.retained || r.retained) = true then _ else _
      cases r.folder.isOpen <;> cases r.retained <;> rfl
    · rw [borrowed]
      cases r.folder.isOpen <;> cases r.retained <;> rfl
  | error e =>
    have hfolder := abandon_shut (r.isOpen_during reads) (!r.folder.isOpen || r.retained)
    simp only [fetchMessage, acquire_of_accessible hf, ha]
    refine ⟨hfolder.trans ?_, (Bool.and_false _).symm⟩
    change _ = if (r.folder.isOpen && !r.retained || false) = true then _ else _
    cases r.folder.isOpen <;> cases r.retained <;> rfl

end Reader

namespace Request

open MemoryFolder Reader

theorem perform_handled (q : Request) (r : Reader MemoryFolder) : r.Handled (q.perform r).2 := by
  rcases q.perform_cases with ⟨o, ho⟩ | ⟨e, he, hattend⟩ | ⟨id, rfl⟩
  · rw [ho]
    exact .unmoved
  · rw [hattend]
    exact attend_handled he r
  · by_cases hf : r.folder.Accessible
    · obtain ⟨a, reads, hreads, ha, -⟩ := fetch_agree (Akin.refl r).twins_inside (.id id)
      exact .parted hf hreads (fetchMessage_parted hf id ha)
    · obtain ⟨e, he⟩ := fetchMessage_of_not_accessible hf id
      simp only [perform, he]
      exact .refused hf rfl fun h ↦ h

end Request

namespace Reader

open MemoryFolder

variable {r r' r'' : Reader MemoryFolder} {h : Option Party} {m : Bool}

/-- The folder is open just if somebody has opened it, and kept just if that was the reader and it
has not tried in vain to close it. -/
structure Tended (r : Reader MemoryFolder) (h : Option Party) (m : Bool) : Prop where
  isOpen : r.folder.isOpen = h.isSome
  retained : r.retained = (decide (h = some .reader) && !m)

structure Traced (r : Reader MemoryFolder) (cs : List Call) (r' : Reader MemoryFolder) : Prop where
  calls : r'.folder.calls = r.folder.calls ++ cs
  faults : r'.folder.faults = r.folder.faults
  step : ∀ h m, r.Tended h m → r'.Tended (Deed.holderAfter h (r.folder.deeds cs))
    (Deed.missedAfter m (r.folder.deeds cs))

namespace Traced

theorem of_eq (hf : r'.folder = r.folder) (hr : r'.retained = r.retained) : r.Traced [] r' where
  calls := by rw [hf, List.append_nil]
  faults := by rw [hf]
  step _ _ ht := ⟨hf ▸ ht.isOpen, hr.trans ht.retained⟩

theorem trans {cs ds : List Call} (h₁ : r.Traced cs r') (h₂ : r'.Traced ds r'') :
    r.Traced (cs ++ ds) r'' where
  calls := by rw [h₂.calls, h₁.calls, List.append_assoc]
  faults := h₂.faults.trans h₁.faults
  step h m ht := by
    have hend := h₂.step _ _ (h₁.step h m ht)
    rw [deeds_of_faults h₁.faults] at hend
    rw [deeds_append, Deed.holderAfter_append, Deed.missedAfter_append]
    exact hend

end Traced

theorem tended_enter (hf : r.folder.Accessible) (ht : r.Tended h m) :
    let opening := r.folder.deeds (if r.folder.isOpen then [] else [.select r.config.folderAccess])
    (Deed.holderAfter h opening).isSome = true ∧ (!r.borrowed) =
      (decide (Deed.holderAfter h opening = some .reader) && !Deed.missedAfter m opening) := by
  cases ho : r.folder.isOpen with
  | true =>
    refine ⟨ht.isOpen.symm.trans ho, ?_⟩
    rw [borrowed, ho, Bool.true_and, Bool.not_not]
    exact ht.retained
  | false =>
    have hselect : Fault.select ∉ r.folder.faults :=
      hf.resolve_left (by rw [ho]; exact Bool.false_ne_true)
    have hgrants : r.folder.grants (.select r.config.folderAccess) = true := decide_eq_true hselect
    have hholder : Deed.holderAfter h (r.folder.deeds [.select r.config.folderAccess]) =
        some .reader := if_pos hgrants
    have hmissed : Deed.missedAfter m (r.folder.deeds [.select r.config.folderAccess]) = false := by
      change (m && !r.folder.grants (.select r.config.folderAccess)) = false
      rw [hgrants, Bool.not_true, Bool.and_false]
    rw [borrowed, ho]
    exact ⟨congrArg Option.isSome hholder, by rw [if_neg Bool.false_ne_true, hholder, hmissed]; rfl⟩

theorem tended_shut {f g : MemoryFolder} (hg : f.faults = g.faults) (hh : h.isSome = true)
    (hf : r.folder = f.shut) (ho : f.isOpen = true) (hr : r.retained = false) :
    r.Tended (Deed.holderAfter h (g.deeds [.close])) (Deed.missedAfter m (g.deeds [.close])) := by
  rw [← deeds_of_faults hg]
  have hholder : Deed.holderAfter h (f.deeds [.close]) = if f.grants .close then none else h := rfl
  have hmissed : Deed.missedAfter m (f.deeds [.close]) = !f.grants .close := by
    change (!f.grants .close && (m || true)) = _
    rw [Bool.or_true, Bool.and_true]
  rw [hholder, hmissed]
  refine ⟨?_, ?_⟩
  · rw [hf, isOpen_shut, ho]
    cases f.grants .close with
    | true => rfl
    | false => exact hh.symm
  · rw [hr]
    cases f.grants .close with
    | true => rfl
    | false => exact (Bool.and_false _).symm

theorem Parted.traced {kept : Bool} {reads : List Call} (hf : r.folder.Accessible)
    (hr : ∀ c ∈ reads, c.isRead = true) (hp : r.Parted kept reads r') :
    r.Traced ((if r.folder.isOpen then [] else [.select r.config.folderAccess]) ++ reads ++
      (if r.borrowed || kept then [] else [.close])) r' where
  calls := by
    rw [hp.folder, ← List.append_assoc, ← List.append_assoc,
      ← calls_opened r.config.folderAccess r.folder]
    split
    · exact (List.append_nil _).symm
    · exact calls_shut _
  faults := by
    have hduring := faults_of_stored (r.stored_during reads)
    rw [hp.folder]
    split
    · exact hduring
    · exact (faults_shut _).trans hduring
  step h m ht := by
    -- what the reader knows when it is inside is what it goes by when it leaves
    obtain ⟨hsome, howned⟩ := tended_enter hf ht
    rw [deeds_append, deeds_append, Deed.holderAfter_append, Deed.holderAfter_append,
      Deed.missedAfter_append, Deed.missedAfter_append, (reads_pass hr _ m).1,
      (reads_pass hr h _).2]
    cases hk : (r.borrowed || kept) with
    | true =>
      refine ⟨?_, ?_⟩
      · rw [hp.folder, if_pos hk]
        exact (r.isOpen_during reads).trans hsome.symm
      · have hkept : (!r.borrowed && kept) = !r.borrowed := by
          revert hk
          cases r.borrowed <;> cases kept <;> decide
        exact hp.retained.trans (hkept.trans howned)
    | false =>
      obtain ⟨hborrowed, rfl⟩ := Bool.or_eq_false_iff.mp hk
      have hfolder : r'.folder = (r.during reads).shut := by
        rw [hp.folder, hk]
        rfl
      exact tended_shut (faults_of_stored (r.stored_during reads)) hsome hfolder
        (r.isOpen_during reads) (hp.retained.trans (Bool.and_false _))

theorem Handled.traced (hr : r.Handled r') : ∃ cs, r.Traced cs r' := by
  cases hr with
  | unmoved => exact ⟨_, .of_eq rfl rfl⟩
  | parted accessible reading parted => exact ⟨_, parted.traced accessible reading⟩
  | refused closed folder retained =>
    obtain ⟨hclosed, hselect⟩ := not_or.mp closed
    have hgrants : r.folder.grants (.select r.config.folderAccess) = false :=
      decide_eq_false hselect
    refine ⟨[.select r.config.folderAccess], by rw [folder]; rfl, by rw [folder]; rfl, ?_⟩
    intro h m ht
    have hnone : h = none := by
      rw [ht.isOpen] at hclosed
      simpa using hclosed
    have hholder : Deed.holderAfter h (r.folder.deeds [.select r.config.folderAccess]) = h :=
      if_neg (Bool.eq_false_iff.mp hgrants)
    rw [hholder]
    subst hnone
    refine ⟨by rw [folder]; exact ht.isOpen, ?_⟩
    exact Bool.eq_false_iff.mpr fun hr ↦ Bool.eq_false_iff.mp ht.retained (retained hr)

theorem closeRetained_traced (r : Reader MemoryFolder) : ∃ cs, r.Traced cs r.closeRetained := by
  by_cases hkept : (r.retained && r.folder.isOpen) = true
  · obtain ⟨-, hopen⟩ := Bool.and_eq_true_iff.mp hkept
    have hclose : r.closeRetained = { r with folder := r.folder.shut, retained := false }.warn
        (closeQuietly r.folder).1 := if_pos hkept
    rw [hclose]
    exact ⟨[.close], calls_shut _, faults_shut _, fun h m ht ↦
      tended_shut rfl (ht.isOpen.symm.trans hopen) rfl hopen rfl⟩
  · have hsame : r.closeRetained = { r with retained := false } := if_neg hkept
    rw [hsame]
    refine ⟨[], (List.append_nil _).symm, rfl, fun h m ht ↦ ⟨ht.isOpen, ?_⟩⟩
    -- what is kept is open, so nothing was kept
    rw [ht.isOpen, ht.retained] at hkept
    rcases h with _ | _ | _
    · rfl
    · rfl
    · cases m with
      | true => rfl
      | false => exact absurd rfl hkept

end Reader

namespace Reader.Operation

variable {r : Reader MemoryFolder}

theorem perform_traced (op : Operation) (r : Reader MemoryFolder) :
    ∃ cs, r.Traced cs (op.perform r) := by
  cases op with
  | configure setting =>
    obtain ⟨hf, hr⟩ := setting.apply_keeps r
    exact ⟨[], .of_eq hf hr⟩
  | request q => exact (q.perform_handled r).traced
  | process handler cancelled x =>
    refine Reader.processRounds_induction (P := fun r r' ↦ ∃ cs, r.Traced cs r')
      (fun r ↦ ⟨[], .of_eq rfl rfl⟩) ?_ (fun r ↦ (Request.summaries.perform_handled r).traced)
      Reader.closeRetained_traced handler cancelled _ _ r x
    rintro r s t ⟨cs, hrs⟩ ⟨ds, hst⟩
    exact ⟨cs ++ ds, hrs.trans hst⟩
  | finish =>
    have hstopped : r.Traced [] { r with spec := r.spec.stopped } := .of_eq rfl rfl
    obtain ⟨cs, hclose⟩ := Reader.closeRetained_traced { r with spec := r.spec.stopped }
    exact ⟨_, hstopped.trans hclose⟩

theorem perform_tended (op : Operation) {h : Option Party} {m : Bool} (ht : r.Tended h m) :
    (op.perform r).Tended (Deed.holderAfter h (op.deeds r)) (Deed.missedAfter m (op.deeds r)) := by
  obtain ⟨cs, htraced⟩ := op.perform_traced r
  rw [deeds, htraced.calls, List.drop_left]
  exact htraced.step h m ht

end Reader.Operation

/-- What has been done to a folder, and the reader now. As in a `Run`, the caller leaves a folder
alone that the reader keeps, but here any call may fail. -/
inductive Usage (start : MemoryFolder) : List Deed → Reader MemoryFolder → Prop
  | fresh (config : Config) : Usage start [] { folder := start, config }
  | operate {ds : List Deed} {r : Reader MemoryFolder} (op : Reader.Operation)
      (usage : Usage start ds r) : Usage start (ds ++ op.deeds r) (op.perform r)
  | select {ds : List Deed} {r : Reader MemoryFolder} (access : Access) (usage : Usage start ds r)
      (free : r.retained = false) :
      Usage start (ds ++ [⟨.caller, .select access, (Folder.select access r.folder).1.isOk⟩])
        { r with folder := (Folder.select access r.folder).2 }
  | close {ds : List Deed} {r : Reader MemoryFolder} (expunge : Bool) (usage : Usage start ds r)
      (free : r.retained = false) :
      Usage start (ds ++ [⟨.caller, .close, (Folder.close expunge r.folder).1.isOk⟩])
        { r with folder := (Folder.close expunge r.folder).2 }
  | change {ds : List Deed} {r : Reader MemoryFolder} {f : MemoryFolder} (usage : Usage start ds r)
      (access : f.access = r.folder.access) : Usage start ds { r with folder := f }

namespace Usage

open Reader

variable {start : MemoryFolder} {ds : List Deed} {r : Reader MemoryFolder} {h : Option Party}
  {m : Bool}

theorem tended_select (ht : r.Tended h m) (hfree : r.retained = false) (access : Access) :
    let d : Deed := ⟨.caller, .select access, (Folder.select access r.folder).1.isOk⟩
    ({ r with folder := (Folder.select access r.folder).2 } : Reader MemoryFolder).Tended
      (d.holder h) (d.missed m) := by
  by_cases hf : Fault.select ∈ r.folder.faults
  · obtain ⟨e, he⟩ := MemoryFolder.select_of_denied hf access
    rw [he]
    refine ⟨ht.isOpen, ht.retained.trans ?_⟩
    change _ = (decide (h = some .reader) && !(m && true))
    rw [Bool.and_true]
  · rw [MemoryFolder.select_of_granted hf]
    exact ⟨rfl, hfree⟩

theorem tended_close (ht : r.Tended h m) (hfree : r.retained = false) (expunge : Bool) :
    let d : Deed := ⟨.caller, .close, (Folder.close expunge r.folder).1.isOk⟩
    ({ r with folder := (Folder.close expunge r.folder).2 } : Reader MemoryFolder).Tended
      (d.holder h) (d.missed m) := by
  change let d : Deed := ⟨.caller, .close, (MemoryFolder.close expunge r.folder).1.isOk⟩
    ({ r with folder := (MemoryFolder.close expunge r.folder).2 } : Reader MemoryFolder).Tended
      (d.holder h) (d.missed m)
  simp only [MemoryFolder.close]
  cases (r.folder.log .close).check .close with
  | error e =>
    refine ⟨ht.isOpen, ht.retained.trans ?_⟩
    change _ = (decide (h = some .reader) && !(m || false))
    rw [Bool.or_false]
  | ok _ => exact ⟨rfl, hfree⟩

theorem tended (usage : Usage start ds r) :
    r.Tended (Deed.holderAfter (Run.holder start) ds) (Deed.missedAfter false ds) := by
  induction usage with
  | fresh config =>
    refine ⟨?_, ?_⟩ <;> cases h : start.isOpen <;> simp [Deed.holderAfter, Run.holder, h]
  | operate op _ ih =>
    rw [Deed.holderAfter_append, Deed.missedAfter_append]
    exact op.perform_tended ih
  | select access _ hfree ih =>
    rw [Deed.holderAfter_append, Deed.missedAfter_append]
    exact tended_select ih hfree access
  | close expunge _ hfree ih =>
    rw [Deed.holderAfter_append, Deed.missedAfter_append]
    exact tended_close ih hfree expunge
  | change _ access ih =>
    have hopen := ih.isOpen
    rw [MemoryFolder.isOpen, ← access] at hopen
    exact ⟨hopen, ih.retained⟩

def jammed : Reader MemoryFolder := { folder := { MemoryFolder.gapped with faults := [.close] } }

def firstCall : Reader.Operation := .request (.messages fun _ ↦ false)

def strained : Reader MemoryFolder :=
  { firstCall.perform jammed with folder := (firstCall.perform jammed).folder.clearFaults }

theorem usage_strained : Usage .gapped (firstCall.deeds jammed) strained := by
  have hjammed : Usage .gapped [] jammed := .change (f := jammed.folder) (.fresh {}) rfl
  exact (hjammed.operate firstCall).change (f := strained.folder) rfl

/-- A folder that the reader was the last to open, and that has not been closed since, is open, and
finishing closes it if closing works then. Only if the reader has tried in vain to close it before
does finishing leave the folder as it is. -/
theorem finish_closes_unless_missed (usage : Usage start ds r)
    (hreader : Deed.holderAfter (Run.holder start) ds = some .reader)
    (hc : Fault.close ∉ r.folder.faults) :
    r.folder.isOpen = true ∧
      r.finish.folder = if Deed.missedAfter false ds then r.folder else r.folder.closed := by
  have ht := usage.tended
  rw [hreader] at ht
  have hopen : r.folder.isOpen = true := ht.isOpen
  refine ⟨hopen, ?_⟩
  cases hm : Deed.missedAfter false ds with
  | true =>
    have hfree : r.retained = false := by rw [ht.retained, hm]; rfl
    have hidle : r.finish = { r with spec := r.spec.stopped, retained := false } :=
      if_neg (by rw [hfree]; exact Bool.false_ne_true)
    rw [hidle]
    rfl
  | false =>
    have hkept : r.retained = true := by rw [ht.retained, hm]; rfl
    rw [finish, closeRetained_of_kept (r := { r with spec := r.spec.stopped }) hc hkept hopen]
    rfl

/-- A caller closes the folder that was left open, and then drops a stream. -/
theorem finish_closes_unless_missed_strained : ∃ ds r, Usage .gapped ds r ∧
    Deed.holderAfter none ds = some .reader ∧ r.folder.isOpen = true ∧
    r.finish.folder.isOpen = false := by
  have usage := ((usage_strained.close false (by decide +kernel)).operate
    (.configure (.take 2 true))).operate (.request (.stream (fun _ ↦ false) 1))
  obtain ⟨hopen, hfinish⟩ :=
    usage.finish_closes_unless_missed (by decide +kernel) (by decide +kernel)
  refine ⟨_, _, usage, by decide +kernel, hopen, ?_⟩
  rw [hfinish]
  decide +kernel

/-- A folder that could not be closed stays open, though closing works again. -/
theorem exists_unfinished : ∃ ds r, Usage .gapped ds r ∧ MemoryFolder.gapped.isOpen = false ∧
    Deed.holderAfter none ds = some .reader ∧ r.folder.faults = [] ∧
    r.folder.isOpen = true ∧ r.finish.folder.isOpen = true :=
  ⟨_, _, usage_strained, rfl, by decide +kernel, rfl, by decide +kernel, by decide +kernel⟩

end Usage

end MailWindow
