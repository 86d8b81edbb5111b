import MailWindow.Proofs.Requests
import MailWindow.Sink.Files

namespace MailWindow

namespace Reader

open MemoryFolder

variable {r r' s : Reader MemoryFolder}

def under (r : Reader MemoryFolder) (faults : List Fault) : Reader MemoryFolder :=
  { r with folder := { r.folder with faults } }

theorem Treated.unchanged (h : r.Treated true r') :
    r'.spec = r.spec ∧ r'.config = r.config ∧ r'.folder.stored = r.folder.stored := by
  cases h with
  | unmoved => exact ⟨rfl, rfl, rfl⟩
  | refused _ _ folder spec config _ => exact ⟨spec, config, folder ▸ rfl⟩
  | visited _ _ hfailed visit =>
    exact ⟨visit.spec.trans (hfailed rfl).2, visit.config, visit.stored⟩

theorem Treated.closed (h : r.Treated true r') :
    r'.borrowed = r.borrowed ∧ (r'.folder.isOpen = true → r.folder.isOpen = true) ∧
      (r'.retained = true → r.retained = true) := by
  cases h with
  | unmoved => exact ⟨rfl, id, id⟩
  | refused closed _ folder _ _ retained =>
    have hopen : r'.folder.isOpen = r.folder.isOpen := by rw [folder]; rfl
    have hclosed : r.folder.isOpen = false := Bool.not_eq_true _ ▸ (not_or.mp closed).1
    refine ⟨?_, fun h ↦ hopen ▸ h, retained⟩
    simp only [borrowed, hopen, hclosed, Bool.false_and]
  | visited _ _ hfailed visit =>
    obtain ⟨rfl, -⟩ := hfailed rfl
    refine ⟨visit.borrowed_eq, fun h ↦ ?_, fun h ↦ ?_⟩
    · rw [visit.isOpen, Bool.or_false, borrowed, Bool.and_eq_true] at h
      exact h.1
    · rw [visit.retained, Bool.and_false] at h
      cases h

/-- A reader with failures behind it next to one without: they are akin, and the folder is not more
open for the first. -/
structure Trails (r s : Reader MemoryFolder) : Prop extends r.Akin s where
  isOpen : r.folder.isOpen = true → s.folder.isOpen = true
  retained : r.retained = true → s.retained = true

namespace Trails

theorem refl (r : Reader MemoryFolder) : r.Trails r := ⟨.refl r, id, id⟩

theorem under (h : r.Trails s) (faults : List Fault) : (r.under faults).Trails (s.under faults) :=
  ⟨⟨h.spec, h.config, congrArg (fun f : MemoryFolder ↦ { f with faults }) h.stored, h.borrowed⟩,
    h.isOpen, h.retained⟩

theorem of_treated (h : r.Trails s) (ht : r.Treated true r') : r'.Trails s := by
  obtain ⟨hspec, hconfig, hstored⟩ := ht.unchanged
  obtain ⟨hborrowed, hopen, hretained⟩ := ht.closed
  exact ⟨⟨h.spec.trans hspec.symm, h.config.trans hconfig.symm, h.stored.trans hstored.symm,
    h.borrowed.trans hborrowed.symm⟩, h.isOpen ∘ hopen, h.retained ∘ hretained⟩

theorem accessible (h : r.Trails s) (hf : r.folder.Accessible) : s.folder.Accessible :=
  hf.imp h.isOpen fun hselect ↦ faults_of_stored h.stored ▸ hselect

theorem close_not_mem (h : r.Trails s) (hc : Fault.close ∉ r.folder.faults) :
    Fault.close ∉ s.folder.faults := faults_of_stored h.stored ▸ hc

theorem visited (h : r.Trails s) {k l : Bool} (hkl : k = true → l = true) {spec : Spec}
    {cs ds : List Call} {r' s' : Reader MemoryFolder} (hr : r.Visited k spec cs r')
    (hs : s.Visited l spec ds s') : r'.Trails s' := by
  refine ⟨h.toAkin.visited hr hs, fun ho ↦ ?_, fun hk ↦ ?_⟩
  · rw [hr.isOpen, Bool.or_eq_true] at ho
    rw [hs.isOpen, Bool.or_eq_true, h.borrowed]
    exact ho.imp id hkl
  · rw [hr.retained, Bool.and_eq_true] at hk
    rw [hs.retained, Bool.and_eq_true, h.borrowed]
    exact ⟨hk.1, hkl hk.2⟩

end Trails

end Reader

namespace Request

open MemoryFolder

variable {r s : Reader MemoryFolder}

theorem attend_trailing {e : Errand} (he : e.Sound) (h : r.Trails s)
    (hc : Fault.close ∉ r.folder.faults) (hok : (e.attend r).1.isFailure = false) :
    (e.attend s).1 = (e.attend r).1 ∧ (e.attend r).2.Trails (e.attend s).2 := by
  cases ht : r.spec.take.isZero with
  | true =>
    rw [e.attend_of_isZero ht, e.attend_of_isZero (h.spec ▸ ht)]
    exact ⟨rfl, h⟩
  | false =>
    by_cases hf : r.folder.Accessible
    · obtain ⟨⟨a, ending⟩, reads, -, hr, hs⟩ := he.agree h.toAkin
      rw [← h.visit_eq] at hs
      have hr : e.attend r = (a, r.outside (r.keeps ending) (r.specAfter ending) reads) :=
        Reader.attend_of_accessible hf hc ht hr
      have hs : e.attend s = (a, s.outside (s.keeps ending) (s.specAfter ending) reads) :=
        Reader.attend_of_accessible (h.accessible hf) (h.close_not_mem hc) (h.spec ▸ ht) hs
      rw [hr, hs, h.keeps_eq, h.specAfter_eq]
      exact ⟨rfl, h.visited id (r.visited_outside _ _ reads) (s.visited_outside _ _ reads)⟩
    · obtain ⟨x, hx⟩ : ∃ x, e.attend r = (e.refusal x, r.refused) :=
        Reader.attend_of_not_accessible hf ht
      rw [hx, he.refusal x] at hok
      cases hok

/-- A request that succeeds for the reader with failures behind it comes to the same for the other.
-/
theorem perform_trailing (q : Request) (h : r.Trails s) (hc : Fault.close ∉ r.folder.faults)
    (hok : (q.perform r).1.isFailure = false) :
    (q.perform s).1 = (q.perform r).1 ∧ (q.perform r).2.Trails (q.perform s).2 := by
  rcases q.perform_cases with ⟨o, ho⟩ | ⟨e, he, hattend⟩ | ⟨id, rfl⟩
  · rw [ho, ho]
    exact ⟨rfl, h⟩
  · rw [hattend] at hok
    rw [hattend, hattend]
    exact attend_trailing he h hc hok
  · by_cases hf : r.folder.Accessible
    · obtain ⟨a, reads, -, hr, hs⟩ := fetch_agree h.twins_inside (.id id)
      obtain ⟨r', hr, hvr⟩ := Reader.fetchMessage_of_accessible hf hc id hr
      obtain ⟨s', hs, hvs⟩ :=
        Reader.fetchMessage_of_accessible (h.accessible hf) (h.close_not_mem hc) id hs
      simp only [perform, hr, hs]
      rw [h.spec] at hvs
      refine ⟨trivial, h.visited (fun hk ↦ ?_) hvr hvs⟩
      rw [Bool.and_eq_true] at hk ⊢
      exact ⟨hk.1, h.retained hk.2⟩
    · obtain ⟨e, he⟩ := Reader.fetchMessage_of_not_accessible hf id
      simp only [perform, he] at hok
      cases hok

end Request

/-- A call as it is made. If it saves messages, then to the sink that is there. -/
inductive Job (τ : Type) where
  | summaries
  | messages (cancelled : Nat → Bool)
  | stream (cancelled : Nat → Bool) (pulls : Nat)
  | save (dir : String) (create : Bool) (cancelled : Nat → τ → Bool)
  | message (id : MessageId)

/-- A call and the faults that the folder has while it lasts. -/
structure Attempt (τ : Type) where
  faults : List Fault
  job : Job τ

structure Entry (τ : Type) : Type 1 where
  attempt : Attempt τ
  outcome : Outcome
  spec : Spec

variable {τ : Type} [Sink τ] {r t : Reader MemoryFolder} {s : τ}

namespace Job

def request (s : τ) : Job τ → Request
  | summaries => .summaries
  | messages cancelled => .messages cancelled
  | stream cancelled pulls => .stream cancelled pulls
  | save dir create cancelled => .saving dir create cancelled s
  | message id => .message id

def sinkAfter (r : Reader MemoryFolder) (s : τ) : Job τ → τ
  | save dir create cancelled =>
    (r.saveAll dir create (fun f s ↦ cancelled (r.folder.readsSince f) s) s).2.2
  | _ => s

theorem sinkAfter_eq {j : Job τ}
    (h : ((j.request s).perform t).1 = ((j.request s).perform r).1) :
    j.sinkAfter t s = j.sinkAfter r s := by
  cases j with
  | save dir create cancelled =>
    simp only [request, Request.perform] at h
    injection h
  | _ => rfl

end Job

namespace Attempt

def perform (a : Attempt τ) (r : Reader MemoryFolder) (s : τ) :
    Outcome × Reader MemoryFolder × τ :=
  let result := (a.job.request s).perform (r.under a.faults)
  (result.1, result.2, a.job.sinkAfter (r.under a.faults) s)

variable {a : Attempt τ} (hc : Fault.close ∉ a.faults)
  (h : ∀ faults, (r.under faults).Trails (t.under faults))

include hc h

/-- After a failure only the first reader has moved, and it still trails the other. -/
theorem trails_of_failure (hfailed : (a.perform r s).1.isFailure = true) (faults : List Fault) :
    ((a.perform r s).2.1.under faults).Trails (t.under faults) := by
  have htreated := (a.job.request s).perform_treated (r := r.under a.faults) hc
  change (r.under a.faults).Treated (a.perform r s).1.isFailure (a.perform r s).2.1 at htreated
  rw [hfailed] at htreated
  exact ((h a.faults).of_treated htreated).under faults

theorem trails_of_success (hok : (a.perform r s).1.isFailure = false) :
    (a.perform t s).1 = (a.perform r s).1 ∧ (a.perform t s).2.2 = (a.perform r s).2.2 ∧
      (a.perform r s).2.1.Trails (a.perform t s).2.1 := by
  obtain ⟨houtcome, htrails⟩ := (a.job.request s).perform_trailing (h a.faults) hc hok
  exact ⟨houtcome, Job.sinkAfter_eq houtcome, htrails⟩

end Attempt

/-- A turn of a run: an attempt, or the sink is changed by others. -/
inductive Turn (τ : Type) where
  | attempt (a : Attempt τ)
  | becomes (s : τ)

namespace Turn

/-- One turn after the other. Each attempt finds the reader and the sink as the turns before it have
left them. -/
def run : List (Turn τ) → Reader MemoryFolder → τ → List (Entry τ)
  | [], _, _ => []
  | becomes s :: ts, r, _ => run ts r s
  | attempt a :: ts, r, s =>
    let (outcome, r, s) := a.perform r s
    ⟨a, outcome, r.spec⟩ :: run ts r s

def successes (ts : List (Turn τ)) (r : Reader MemoryFolder) (s : τ) : List (Entry τ) :=
  (run ts r s).filter (!·.outcome.isFailure)

/-- The turns without the attempts that fail. -/
def survivors : List (Turn τ) → Reader MemoryFolder → τ → List (Turn τ)
  | [], _, _ => []
  | becomes s :: ts, r, _ => becomes s :: survivors ts r s
  | attempt a :: ts, r, s =>
    let (outcome, r, s) := a.perform r s
    if outcome.isFailure then survivors ts r s else attempt a :: survivors ts r s

/-- The turns without the attempts that fail, but what these do to the sink stays done. -/
def trimmed : List (Turn τ) → Reader MemoryFolder → τ → List (Turn τ)
  | [], _, _ => []
  | becomes s :: ts, r, _ => becomes s :: trimmed ts r s
  | attempt a :: ts, r, s =>
    let (outcome, r, s) := a.perform r s
    (if outcome.isFailure then becomes s else attempt a) :: trimmed ts r s

/-- No attempt that fails changes the sink. -/
def Sparing : List (Turn τ) → Reader MemoryFolder → τ → Prop
  | [], _, _ => True
  | becomes s :: ts, r, _ => Sparing ts r s
  | attempt a :: ts, r, s =>
    ((a.perform r s).1.isFailure = true → (a.perform r s).2.2 = s) ∧
      Sparing ts (a.perform r s).2.1 (a.perform r s).2.2

variable {a : Attempt τ} {ts : List (Turn τ)}

theorem sparing_attempt (hsame : (a.perform r s).2.2 = s)
    (hrest : Sparing ts (a.perform r s).2.1 s) : Sparing (attempt a :: ts) r s := by
  refine ⟨fun _ ↦ hsame, ?_⟩
  rw [hsame]
  exact hrest

theorem run_attempt (a : Attempt τ) (ts : List (Turn τ)) (r : Reader MemoryFolder) (s : τ) :
    run (attempt a :: ts) r s = ⟨a, (a.perform r s).1, (a.perform r s).2.1.spec⟩ ::
      run ts (a.perform r s).2.1 (a.perform r s).2.2 := rfl

section Failure

variable (hfailed : (a.perform r s).1.isFailure = true)

include hfailed

theorem successes_of_failure : successes (attempt a :: ts) r s =
    successes ts (a.perform r s).2.1 (a.perform r s).2.2 := by
  rw [successes, run_attempt, List.filter_cons_of_neg (by rw [hfailed]; exact Bool.false_ne_true)]
  rfl

theorem survivors_of_failure : survivors (attempt a :: ts) r s =
    survivors ts (a.perform r s).2.1 (a.perform r s).2.2 := if_pos hfailed

theorem trimmed_of_failure : trimmed (attempt a :: ts) r s =
    becomes (a.perform r s).2.2 :: trimmed ts (a.perform r s).2.1 (a.perform r s).2.2 :=
  congrArg (· :: _) (if_pos hfailed)

end Failure

section Success

variable (hok : (a.perform r s).1.isFailure = false)

include hok

theorem successes_of_success : successes (attempt a :: ts) r s =
    ⟨a, (a.perform r s).1, (a.perform r s).2.1.spec⟩ ::
      successes ts (a.perform r s).2.1 (a.perform r s).2.2 := by
  rw [successes, run_attempt, List.filter_cons_of_pos (by rw [hok]; rfl)]
  rfl

theorem survivors_of_success : survivors (attempt a :: ts) r s =
    attempt a :: survivors ts (a.perform r s).2.1 (a.perform r s).2.2 :=
  if_neg (Bool.eq_false_iff.mp hok)

theorem trimmed_of_success : trimmed (attempt a :: ts) r s =
    attempt a :: trimmed ts (a.perform r s).2.1 (a.perform r s).2.2 :=
  congrArg (· :: _) (if_neg (Bool.eq_false_iff.mp hok))

theorem run_of_success (hc : Fault.close ∉ a.faults)
    (h : ∀ faults, (r.under faults).Trails (t.under faults)) {rest : List (Turn τ)}
    (hrest : run rest (a.perform t s).2.1 (a.perform r s).2.2 =
      successes ts (a.perform r s).2.1 (a.perform r s).2.2) :
    run (attempt a :: rest) t s = successes (attempt a :: ts) r s := by
  obtain ⟨houtcome, hsink, htrails⟩ := a.trails_of_success hc h hok
  rw [successes_of_success hok, run_attempt, houtcome, hsink, htrails.spec, hrest]

end Success

def NoCloseFault (ts : List (Turn τ)) : Prop := ∀ a, attempt a ∈ ts → Fault.close ∉ a.faults

theorem run_trimmed (hc : NoCloseFault ts)
    (h : ∀ faults, (r.under faults).Trails (t.under faults)) :
    run (trimmed ts r s) t s = successes ts r s := by
  induction ts generalizing r t s with
  | nil => rfl
  | cons turn ts ih =>
    have hrest : NoCloseFault ts := fun b hb ↦ hc b (List.mem_cons_of_mem turn hb)
    cases turn with
    | becomes s' => exact ih hrest h
    | attempt a =>
      have hclose := hc a List.mem_cons_self
      cases hfailed : (a.perform r s).1.isFailure with
      | true =>
        rw [successes_of_failure hfailed, trimmed_of_failure hfailed]
        exact ih hrest (a.trails_of_failure hclose h hfailed)
      | false =>
        obtain ⟨-, -, htrails⟩ := a.trails_of_success hclose h hfailed
        rw [trimmed_of_success hfailed]
        exact run_of_success hfailed hclose h (ih hrest htrails.under)

theorem run_survivors (hc : NoCloseFault ts) (hs : Sparing ts r s)
    (h : ∀ faults, (r.under faults).Trails (t.under faults)) :
    run (survivors ts r s) t s = successes ts r s := by
  induction ts generalizing r t s with
  | nil => rfl
  | cons turn ts ih =>
    have hrest : NoCloseFault ts := fun b hb ↦ hc b (List.mem_cons_of_mem turn hb)
    cases turn with
    | becomes s' => exact ih hrest hs h
    | attempt a =>
      have hclose := hc a List.mem_cons_self
      cases hfailed : (a.perform r s).1.isFailure with
      | true =>
        have hsame := ih hrest hs.2 (a.trails_of_failure hclose h hfailed)
        rw [successes_of_failure hfailed, survivors_of_failure hfailed, ← hsame, hs.1 hfailed]
      | false =>
        obtain ⟨-, -, htrails⟩ := a.trails_of_success hclose h hfailed
        rw [survivors_of_success hfailed]
        exact run_of_success hfailed hclose h (ih hrest hs.2 htrails.under)

/-- A request that fails leaves the spec and the messages as they were, and without the directory
that it needs it does not reach the folder at all. So under any faults but failing closes the
attempts of a run that succeed come to the same without those that fail, with the same outcomes and
the same specs after them, as long as what these do to the sink stays done. If they do nothing to it,
they can be deleted from the run. -/
theorem failures_leave_no_trace (q : Request) (ts : List (Turn τ)) (r : Reader MemoryFolder) (s : τ)
    (hc : Fault.close ∉ r.folder.faults) (hts : NoCloseFault ts) :
    ((q.perform r).1.isFailure = true →
      (q.perform r).2.spec = r.spec ∧ (q.perform r).2.folder.messages = r.folder.messages) ∧
    (∀ (dir : String) (create : Bool) (cancelled : Nat → τ → Bool) (s s' : τ) (e : Error),
      Sink.prepare dir create s = (.error e, s') →
        (Request.saving dir create cancelled s).perform r =
          (.saved (.error (.ofError e)) s', r)) ∧
    run (trimmed ts r s) r s = successes ts r s ∧
    (Sparing ts r s → run (survivors ts r s) r s = successes ts r s) := by
  refine ⟨fun hfailed ↦ ?_, fun dir create cancelled s s' e hp ↦ ?_, ?_, fun hs ↦ ?_⟩
  · have htreated := q.perform_treated hc
    rw [hfailed] at htreated
    obtain ⟨hspec, -, hstored⟩ := htreated.unchanged
    exact ⟨hspec, MemoryFolder.messages_of_stored hstored⟩
  · exact Request.perform_saving_of_unprepared hp r
  · exact run_trimmed hts fun _ ↦ .refl _
  · exact run_survivors hts hs fun _ ↦ .refl _

/-- Files among which `notes` is no directory and `full` has no room for the second message. -/
def crowded : FileSink :=
  { tree := ⟨[(["notes"], .file []), (["full"], .directory), (["full", "3.eml"], .directory)]⟩ }

def interrupted : List (Turn FileSink) :=
  [.attempt ⟨[.message ⟨3⟩], .messages fun _ ↦ false⟩,
   .attempt ⟨[], .save "box" false fun _ _ ↦ false⟩,
   .attempt ⟨[], .save "notes" true fun _ _ ↦ false⟩,
   .attempt ⟨[], .save "full" false fun _ _ ↦ false⟩,
   .attempt ⟨[.message ⟨3⟩], .save "box" true fun _ _ ↦ false⟩,
   .attempt ⟨[], .save "box" false fun _ _ ↦ false⟩,
   .attempt ⟨[], .stream (· = 1) 5⟩,
   .attempt ⟨[.select], .message ⟨9⟩⟩,
   .attempt ⟨[], .stream (fun _ ↦ false) 5⟩]

theorem failures_leave_no_trace_interrupted :
    let r : Reader MemoryFolder :=
      { folder := { MemoryFolder.gapped with faults := [.message ⟨3⟩] },
        spec := { take := .count 2, continuous := true } }
    let q := Request.messages fun _ ↦ false
    let spared := interrupted.take 2 ++ interrupted.drop 6
    (q.perform r).1.isFailure = true ∧ (q.perform r).2.spec = r.spec ∧
    (q.perform r).2.folder.messages = r.folder.messages ∧
    (Request.saving "box" false (fun _ (_ : FileSink) ↦ false) crowded).perform r =
      (.saved (.error (.ofError (.directoryNotFound "box"))) crowded, r) ∧
    ((run interrupted r crowded).map fun e ↦ (e.outcome.isFailure, e.spec.skip)) =
      [(true, 0), (true, 0), (true, 0), (true, 0), (true, 0), (false, 2), (true, 2), (true, 2),
        (false, 4)] ∧
    (run (trimmed interrupted r crowded) r crowded).map (·.spec.skip) = [2, 4] ∧
    Sparing spared r crowded ∧
    (run (survivors spared r crowded) r crowded).map (·.spec.skip) = [2] := by
  intro r q spared
  have hclose : NoCloseFault interrupted := by simp [NoCloseFault, interrupted]
  have hspared : NoCloseFault spared := fun a ha ↦ hclose a (by
    rcases List.mem_append.mp ha with ha | ha
    · exact List.mem_of_mem_take ha
    · exact List.mem_of_mem_drop ha)
  have hmissing : Sink.directoryExists "box" crowded = (false, crowded) :=
    Prod.ext (by decide +kernel) rfl
  have hsave (r : Reader MemoryFolder) :
      (Job.save "box" false fun _ _ ↦ false).sinkAfter r crowded = crowded := by
    simp only [Job.sinkAfter, Reader.saveAll, hmissing, Bool.false_eq_true, if_false]
  have hsparing : Sparing spared r crowded :=
    sparing_attempt rfl <| sparing_attempt (hsave _) <| sparing_attempt rfl <|
      sparing_attempt rfl <| sparing_attempt rfl trivial
  have hunprepared : Sink.prepare "box" false crowded =
      (.error (.directoryNotFound "box"), crowded) := by
    simp only [Sink.prepare, hmissing, Bool.false_eq_true, if_false]
  have hfailed : (q.perform r).1.isFailure = true := by decide +kernel
  obtain ⟨hkept, hunreached, htrimmed, -⟩ :=
    failures_leave_no_trace q interrupted r crowded (by decide) hclose
  obtain ⟨-, -, -, hsurvivors⟩ := failures_leave_no_trace q spared r crowded (by decide) hspared
  obtain ⟨hspec, hmessages⟩ := hkept hfailed
  rw [htrimmed, hsurvivors hsparing]
  exact ⟨hfailed, hspec, hmessages, hunreached "box" false _ crowded crowded _ hunprepared,
    by decide +kernel, by decide +kernel, hsparing, by decide +kernel⟩

/-- A call that fails may have created the directory that the next one needs. -/
theorem not_survivors_retried :
    let r : Reader MemoryFolder := { folder := MemoryFolder.gapped }
    let retried : List (Turn FileSink) :=
      [.attempt ⟨[.message ⟨2⟩], .save "box" true fun _ _ ↦ false⟩,
       .attempt ⟨[], .save "box" false fun _ _ ↦ false⟩]
    NoCloseFault retried ∧
    (run retried r {}).map (·.outcome.isFailure) = [true, false] ∧
    (run (survivors retried r {}) r {}).map (·.outcome.isFailure) = [true] ∧
    run (survivors retried r {}) r {} ≠ successes retried r {} := by
  intro r retried
  have hsurvivors : (run (survivors retried r {}) r {}).map (·.outcome.isFailure) = [true] := by
    decide +kernel
  refine ⟨by simp [NoCloseFault, retried], by decide +kernel, hsurvivors, fun h ↦ ?_⟩
  rw [h] at hsurvivors
  revert hsurvivors
  decide +kernel

end Turn

end MailWindow
