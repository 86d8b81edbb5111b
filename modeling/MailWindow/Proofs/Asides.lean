import MailWindow.Proofs.Agreement
import MailWindow.Proofs.Ownership

namespace MailWindow

namespace Reader

open MemoryFolder

variable {r r' s s' t : Reader MemoryFolder}

namespace Alike

theorem of_eq (hspec : s.spec = r.spec) (hconfig : s.config = r.config)
    (hstored : s.folder.stored = r.folder.stored) (hopen : s.folder.isOpen = r.folder.isOpen)
    (hretained : s.retained = r.retained) : r.Alike s := by
  refine ⟨⟨hspec, hconfig, hstored, ?_⟩, hopen, hretained⟩
  rw [borrowed, borrowed, hopen, hretained]

theorem symm (h : r.Alike s) : s.Alike r :=
  of_eq h.spec.symm h.config.symm h.stored.symm h.isOpen.symm h.retained.symm

theorem trans (h : r.Alike s) (h' : s.Alike t) : r.Alike t :=
  of_eq (h'.spec.trans h.spec) (h'.config.trans h.config) (h'.stored.trans h.stored)
    (h'.isOpen.trans h.isOpen) (h'.retained.trans h.retained)

theorem heldBy (h : r.Alike s) {p : Option Party} (hr : r.HeldBy p) : s.HeldBy p :=
  ⟨h.isOpen.trans hr.isOpen, h.retained.trans hr.retained⟩

theorem faults (h : r.Alike s) (hf : r.folder.faults = []) : s.folder.faults = [] :=
  (faults_of_stored h.stored).trans hf

end Alike

/-- Two readers are alike, and since earlier states their folders have had the same calls. -/
def InStep (r s r' s' : Reader MemoryFolder) : Prop :=
  r'.Alike s' ∧ ∃ cs, r'.folder.calls = r.folder.calls ++ cs ∧ s'.folder.calls = s.folder.calls ++ cs

theorem inStep_self (h : r.Alike s) : InStep r s r s :=
  ⟨h, [], (List.append_nil _).symm, (List.append_nil _).symm⟩

theorem Visited.inStep (h : r.Alike s) {kept : Bool} {spec : Spec} {reads : List Call}
    (hr : r.Visited kept spec reads r') (hs : s.Visited kept spec reads s') : InStep r s r' s' := by
  have hakin := h.toAkin.visited hr hs
  refine ⟨⟨hakin, ?_, ?_⟩, (if r.folder.isOpen then [] else [.select r.config.folderAccess]) ++
    (reads ++ if r.borrowed || kept then [] else [.close]), ?_, ?_⟩
  · rw [hr.isOpen, hs.isOpen, h.borrowed]
  · rw [hr.retained, hs.retained, h.borrowed]
  · rw [hr.calls, List.append_assoc, List.append_assoc]
  · rw [hs.calls, h.isOpen, h.config, h.borrowed, List.append_assoc, List.append_assoc]

theorem closeRetained_inStep (h : r.Alike s) (hf : r.folder.faults = []) :
    InStep r s r.closeRetained s.closeRetained := by
  by_cases hkept : (r.retained && r.folder.isOpen) = true
  · obtain ⟨hretained, hopen⟩ := Bool.and_eq_true_iff.mp hkept
    have hr : Fault.close ∉ r.folder.faults := by simp [hf]
    have hs : Fault.close ∉ s.folder.faults := by simp [h.faults hf]
    rw [closeRetained_of_kept hr hretained hopen,
      closeRetained_of_kept hs (h.retained.trans hretained) (h.isOpen.trans hopen)]
    exact ⟨.of_eq h.spec h.config h.stored rfl rfl, [.close], rfl, rfl⟩
  · have hr : r.closeRetained = { r with retained := false } := if_neg hkept
    have hs : s.closeRetained = { s with retained := false } := by
      rw [← h.retained, ← h.isOpen] at hkept
      exact if_neg hkept
    rw [hr, hs]
    exact ⟨.of_eq h.spec h.config h.stored h.isOpen rfl, [], (List.append_nil _).symm,
      (List.append_nil _).symm⟩

/-- A single message that is asked for leaves the reader as it was. What is kept has to be open for
that, since a call opens a folder that it finds closed and keeps it if it was to be kept. -/
theorem fetchMessage_alike (hf : r.folder.faults = []) {p : Option Party} (hr : r.HeldBy p)
    (id : MessageId) : r.Alike (r.fetchMessage id).2 := by
  have hselect : Fault.select ∉ r.folder.faults := by simp [hf]
  have hclose : Fault.close ∉ r.folder.faults := by simp [hf]
  have hfaults : r.inside.folder.faults = [] := (faults_of_stored (stored_opened _ _)).trans hf
  obtain ⟨c, hc⟩ := fetch_of_open hfaults (isOpen_opened _ _) (.id id)
  obtain ⟨r', hfetch, hv⟩ := fetchMessage_of_accessible (.inr hselect) hclose id hc
  have hkept : r.retained = true → r.folder.isOpen = true := by
    intro hretained
    have hp : p = some .reader := of_decide_eq_true (hr.retained ▸ hretained)
    rw [hr.isOpen, hp]
    rfl
  rw [hfetch]
  refine .of_eq hv.spec hv.config hv.stored ?_ ?_
  · rw [hv.isOpen, borrowed]
    cases ho : r.folder.isOpen with
    | true => cases r.retained <;> rfl
    | false =>
      have hfree : r.retained = false := Bool.eq_false_iff.mpr fun h ↦
        Bool.eq_false_iff.mp ho (hkept h)
      rw [hfree]
      rfl
  · rw [hv.retained, borrowed]
    cases r.folder.isOpen <;> cases r.retained <;> rfl

end Reader

namespace Request

open MemoryFolder Reader

variable {r s : Reader MemoryFolder}

theorem attend_inStep {e : Errand} (he : e.Sound) (h : r.Alike s) (hf : r.folder.faults = []) :
    (e.attend s).1 = (e.attend r).1 ∧ InStep r s (e.attend r).2 (e.attend s).2 := by
  cases ht : r.spec.take.isZero with
  | true =>
    rw [e.attend_of_isZero ht, e.attend_of_isZero (h.spec ▸ ht)]
    exact ⟨rfl, inStep_self h⟩
  | false =>
    have hfs := h.faults hf
    have haccessible {t : Reader MemoryFolder} (ht : t.folder.faults = []) :
        t.folder.Accessible ∧ Fault.close ∉ t.folder.faults :=
      ⟨.inr (by simp [ht]), by simp [ht]⟩
    obtain ⟨⟨a, ending⟩, reads, -, hr, hs⟩ := he.agree h.toAkin
    rw [← h.visit_eq] at hs
    have hr : e.attend r = (a, r.outside (r.keeps ending) (r.specAfter ending) reads) :=
      attend_of_accessible (haccessible hf).1 (haccessible hf).2 ht hr
    have hs : e.attend s = (a, s.outside (s.keeps ending) (s.specAfter ending) reads) :=
      attend_of_accessible (haccessible hfs).1 (haccessible hfs).2 (h.spec ▸ ht) hs
    rw [hr, hs, h.keeps_eq, h.specAfter_eq]
    exact ⟨rfl, (r.visited_outside _ _ reads).inStep h (s.visited_outside _ _ reads)⟩

theorem perform_inStep (q : Request) (h : r.Alike s) (hf : r.folder.faults = []) :
    (q.perform s).1 = (q.perform r).1 ∧ InStep r s (q.perform r).2 (q.perform s).2 := by
  rcases q.perform_cases with ⟨o, ho⟩ | ⟨e, he, hattend⟩ | ⟨id, rfl⟩
  · rw [ho, ho]
    exact ⟨rfl, inStep_self h⟩
  · rw [hattend, hattend]
    exact attend_inStep he h hf
  · have hfs := h.faults hf
    obtain ⟨a, reads, -, hr, hs⟩ := fetch_agree h.twins_inside (.id id)
    obtain ⟨r', hr, hvr⟩ := fetchMessage_of_accessible (.inr (by simp [hf])) (by simp [hf]) id hr
    obtain ⟨s', hs, hvs⟩ := fetchMessage_of_accessible (.inr (by simp [hfs])) (by simp [hfs]) id hs
    rw [h.spec, h.retained] at hvs
    simp only [perform, hr, hs]
    exact ⟨trivial, hvr.inStep h hvs⟩

end Request

namespace Reader

open MemoryFolder

variable {r s : Reader MemoryFolder} {η : Type}

theorem fetchSummaries_inStep (h : r.Alike s) (hf : r.folder.faults = []) :
    s.fetchSummaries.1 = r.fetchSummaries.1 ∧
      InStep r s r.fetchSummaries.2 s.fetchSummaries.2 := by
  obtain ⟨houtcome, hstep⟩ := Request.summaries.perform_inStep h hf
  exact ⟨Outcome.summaries.inj houtcome, hstep⟩

theorem processRounds_inStep (handler : Summary → η → Except Error Unit × η)
    {c d : MemoryFolder → η → Bool} (rounds processed : Nat) (x : η) (h : r.Alike s)
    (hf : r.folder.faults = [])
    (hcd : ∀ f g cs x, f.calls = r.folder.calls ++ cs → g.calls = s.folder.calls ++ cs →
      c f x = d g x) :
    let left := r.processRounds handler c rounds processed x
    let right := s.processRounds handler d rounds processed x
    right.1 = left.1 ∧ right.2.2 = left.2.2 ∧ left.2.1.Alike right.2.1 := by
  induction rounds generalizing r s processed x with
  | zero => exact ⟨rfl, rfl, h⟩
  | succ rounds ih =>
    have hnow : d s.folder x = c r.folder x :=
      (hcd r.folder s.folder [] x (List.append_nil _).symm (List.append_nil _).symm).symm
    simp only [processRounds, hnow]
    cases c r.folder x with
    | true => exact ⟨rfl, rfl, (closeRetained_inStep h hf).1⟩
    | false =>
      obtain ⟨hresult, halike, cs, hr, hs⟩ := fetchSummaries_inStep h hf
      have hfaults : r.fetchSummaries.2.folder.faults = [] := by
        have hc : Fault.close ∉ r.folder.faults := by simp [hf]
        obtain ⟨_, htidy⟩ := fetchSummaries_tidy hc
        exact htidy.faults.trans hf
      rcases hrf : r.fetchSummaries with ⟨result, r'⟩
      rcases hsf : s.fetchSummaries with ⟨result', s'⟩
      simp only [hrf, hsf] at hresult halike hr hs hfaults
      subst hresult
      rcases result' with e | _ | ⟨b, bs⟩
      · exact ⟨rfl, rfl, halike⟩
      · exact ⟨rfl, rfl, halike⟩
      · simp only [Bool.false_eq_true, if_false]
        rcases handleEach handler (b :: bs) x with ⟨e | _, y⟩
        · exact ⟨rfl, rfl, (closeRetained_inStep halike hfaults).1⟩
        · simp only [halike.spec]
          cases r'.spec.continuous with
          | false => exact ⟨rfl, rfl, halike⟩
          | true =>
            apply ih (processed + (b :: bs).length) y halike hfaults
            intro f g ds x hfc hgc
            rw [hr, List.append_assoc] at hfc
            rw [hs, List.append_assoc] at hgc
            exact hcd f g (cs ++ ds) x hfc hgc

end Reader

/-- An operation of a reader as its caller sees it. Processing may be cancelled at any time, that is
after any calls of its own and anything that its handler has done. -/
inductive Act : Type 1 where
  | configure (setting : Setting)
  | request (q : Request)
  | process {η : Type} (handler : Summary → η → Except Error Unit × η)
    (cancelled : List Call → η → Bool) (h : η)
  | finish

/-- What the caller is told. Processing also leaves its handler in some state. -/
inductive Reply : Type 1 where
  | configured (result : Except Error Spec)
  | requested (o : Outcome)
  | processed {η : Type} (result : Option (Except Error Nat)) (h : η)
  | finished

/-- What the caller can see of a reader at any time. -/
structure Standing where
  spec : Spec
  retained : Bool
  isOpen : Bool

def Reader.standing (r : Reader MemoryFolder) : Standing := ⟨r.spec, r.retained, r.folder.isOpen⟩

theorem Reader.Alike.standing_eq {r s : Reader MemoryFolder} (h : r.Alike s) :
    s.standing = r.standing := by
  simp only [Reader.standing, h.spec, h.retained, h.isOpen]

def Setting.reply (r : Reader MemoryFolder) : Setting → Except Error Spec
  | .skip n => (r.skip n).map fun _ ↦ r.spec
  | .take n continuous => (r.take n continuous).map fun _ ↦ r.spec
  | .newest n => (r.newest n).map fun _ ↦ r.spec
  | _ => .ok r.spec

namespace Setting

open Reader

variable {r s : Reader MemoryFolder}

theorem setSpec_alike (h : r.Alike s) (previous : Spec) (spec : Except Error Spec) :
    (s.setSpec spec).map (fun _ ↦ previous) = (r.setSpec spec).map (fun _ ↦ previous) ∧
      ((r.setSpec spec).toOption.getD r).Alike ((s.setSpec spec).toOption.getD s) := by
  cases spec with
  | error e => exact ⟨rfl, h⟩
  | ok spec => exact ⟨rfl, .of_eq rfl h.config h.stored h.isOpen h.retained⟩

theorem apply_alike (x : Setting) (h : r.Alike s) :
    x.reply s = x.reply r ∧ (x.apply r).Alike (x.apply s) := by
  cases x with
  | skip n =>
    simp only [reply, apply, Reader.skip, h.spec]
    exact setSpec_alike h _ _
  | newest n =>
    simp only [reply, apply, Reader.newest, h.spec]
    exact setSpec_alike h _ _
  | take n continuous =>
    simp only [reply, apply, Reader.take, h.spec]
    cases r.spec.withTake n continuous with
    | error e => exact ⟨rfl, h⟩
    | ok spec =>
      simp only [Reader.setSpec, Except.map, h.config]
      refine ⟨trivial, ?_⟩
      by_cases hn : r.config.batchWarningThreshold.toNat < n
      · rw [if_pos hn, if_pos hn]
        exact .of_eq rfl rfl h.stored h.isOpen h.retained
      · rw [if_neg hn, if_neg hn]
        exact .of_eq rfl rfl h.stored h.isOpen h.retained
  | query q =>
    simp only [reply, apply, Reader.query, h.spec, h.config]
    exact ⟨trivial, .of_eq rfl rfl h.stored h.isOpen h.retained⟩
  | range ids continuous | batch start size continuous | items xs | spec x =>
    simp only [reply, apply, Reader.range, Reader.batch, Reader.items, h.spec]
    exact ⟨trivial, .of_eq rfl h.config h.stored h.isOpen h.retained⟩

end Setting

namespace Act

open MemoryFolder Reader

def operation (r : Reader MemoryFolder) : Act → Reader.Operation
  | configure setting => .configure setting
  | request q => .request q
  | process handler cancelled h =>
    .process handler (fun f x ↦ cancelled (f.calls.drop r.folder.calls.length) x) h
  | finish => .finish

def perform (r : Reader MemoryFolder) (a : Act) : Reader MemoryFolder := (a.operation r).perform r

def reply (r : Reader MemoryFolder) : Act → Reply
  | configure setting => .configured (setting.reply r)
  | request q => .requested (q.perform r).1
  | process handler cancelled h =>
    let (result, _, h) := r.processSummaries handler
      (fun f x ↦ cancelled (f.calls.drop r.folder.calls.length) x) h
    .processed result h
  | finish => .finished

variable {r s : Reader MemoryFolder}

theorem perform_alike (a : Act) (h : r.Alike s) (hf : r.folder.faults = []) :
    a.reply s = a.reply r ∧ (a.perform r).Alike (a.perform s) := by
  cases a with
  | configure setting =>
    obtain ⟨hreply, halike⟩ := setting.apply_alike h
    exact ⟨congrArg Reply.configured hreply, halike⟩
  | request q =>
    obtain ⟨houtcome, halike, -⟩ := q.perform_inStep h hf
    exact ⟨congrArg Reply.requested houtcome, halike⟩
  | process handler cancelled x =>
    obtain ⟨hresult, hstate, halike⟩ := processRounds_inStep handler
      (c := fun f x ↦ cancelled (f.calls.drop r.folder.calls.length) x)
      (d := fun f x ↦ cancelled (f.calls.drop s.folder.calls.length) x) allRounds 0 x h hf
      (by
        intro f g cs x hcf hcg
        rw [hcf, hcg, List.drop_left, List.drop_left])
    refine ⟨?_, halike⟩
    simp only [reply, processSummaries, hresult, hstate]
  | finish =>
    have hstopped : ({ r with spec := r.spec.stopped } : Reader MemoryFolder).Alike
        { s with spec := s.spec.stopped } :=
      .of_eq (congrArg Spec.stopped h.spec) h.config h.stored h.isOpen h.retained
    exact ⟨rfl, (closeRetained_inStep hstopped hf).1⟩

end Act

structure Record : Type 1 where
  act : Act
  reply : Reply
  standing : Standing

/-- What may happen next in a run: an operation, or a single message is asked for besides. -/
inductive Move : Type 1 where
  | act (a : Act)
  | aside (id : MessageId)

namespace Move

open MemoryFolder Reader

def isAct : Move → Bool
  | act _ => true
  | aside _ => false

def perform (r : Reader MemoryFolder) : Move → Reader MemoryFolder
  | act a => a.perform r
  | aside id => (r.fetchMessage id).2

def performAll (ms : List Move) (r : Reader MemoryFolder) : Reader MemoryFolder :=
  ms.foldl perform r

def records : List Move → Reader MemoryFolder → List Record
  | [], _ => []
  | act a :: ms, r => ⟨a, a.reply r, (a.perform r).standing⟩ :: records ms (a.perform r)
  | aside id :: ms, r => records ms (r.fetchMessage id).2

variable {r s : Reader MemoryFolder}

theorem records_of_alike (ms : List Move) (h : r.Alike s) (hf : r.folder.faults = [])
    {p : Option Party} (hr : r.HeldBy p) :
    records ms r = records (ms.filter isAct) s ∧
      (performAll ms r).Alike (performAll (ms.filter isAct) s) := by
  induction ms generalizing r s p with
  | nil => exact ⟨rfl, h⟩
  | cons m ms ih =>
    cases m with
    | aside id =>
      have haside := fetchMessage_alike hf hr id
      exact ih (haside.symm.trans h) (haside.faults hf) (haside.heldBy hr)
    | act a =>
      have hclose : Fault.close ∉ r.folder.faults := by simp [hf]
      obtain ⟨_, htidy⟩ := (a.operation r).perform_tidy hclose
      obtain ⟨-, hheld⟩ := (a.operation r).perform_heldBy hclose hr
      obtain ⟨hreply, halike⟩ := a.perform_alike h hf
      obtain ⟨hrecords, hend⟩ := ih halike (htidy.faults.trans hf) hheld
      refine ⟨?_, hend⟩
      rw [List.filter_cons_of_pos rfl, records, records, hreply, halike.standing_eq, hrecords]

/-- Asking for single messages, whether they exist or not, between the operations of a run changes
neither what an operation replies nor the spec, nor whether the folder is open or kept, after any of
them and at the end. -/
theorem asides_change_nothing (ms : List Move) (config : Config) (start : MemoryFolder)
    (hf : start.faults = []) :
    let r : Reader MemoryFolder := { folder := start, config }
    records ms r = records (ms.filter isAct) r ∧
      (performAll ms r).standing = (performAll (ms.filter isAct) r).standing := by
  intro r
  have hfresh : r.HeldBy (Run.holder start) := by
    have hrun : Run start [] r := .fresh config
    exact hrun.orderly_heldBy.2
  obtain ⟨hrecords, halike⟩ := records_of_alike ms (.refl r) hf hfresh
  exact ⟨hrecords, halike.standing_eq.symm⟩

def interspersed : List Move :=
  [.aside ⟨5⟩, .act (.configure (.take 2 true)), .aside ⟨4⟩,
    .act (.request (.messages fun _ ↦ false)), .aside ⟨9⟩, .aside ⟨9⟩,
    .act (.request (.stream (fun _ ↦ false) 1)), .aside ⟨2⟩,
    .act (.request (.stream (fun _ ↦ false) 3)), .aside ⟨12⟩, .act .finish, .aside ⟨3⟩]

theorem asides_change_nothing_interspersed :
    let r : Reader MemoryFolder := { folder := .gapped }
    (records interspersed r).map
        (fun x ↦ (x.standing.spec.skip, x.standing.retained, x.standing.isOpen)) =
      [(0, false, false), (2, true, true), (2, true, true), (4, true, true), (4, false, false)] ∧
    (performAll interspersed r).standing.isOpen = false := by
  intro r
  obtain ⟨hrecords, hstanding⟩ := asides_change_nothing interspersed {} .gapped rfl
  rw [hrecords, hstanding]
  decide +kernel

end Move

end MailWindow
