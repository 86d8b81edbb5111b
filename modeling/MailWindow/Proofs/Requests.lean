import MailWindow.Proofs.Attendance

namespace MailWindow

@[simp]
theorem isOk_ok {ε β : Type*} (b : β) : (Except.ok b : Except ε β).isOk = true := rfl

@[simp]
theorem isOk_error {ε β : Type*} (e : ε) : (Except.error e : Except ε β).isOk = false := rfl

def Call.isMessage : Call → Bool
  | .messageById _ | .messageByIndex _ => true
  | _ => false

def MemoryFolder.readsSince (start f : MemoryFolder) : Nat :=
  f.calls.countP Call.isMessage - start.calls.countP Call.isMessage

/-- A call that retrieves something. Its work may be cancelled at any time, that is after any number
of messages that it has asked for. A sink comes in the state in which the call finds it. -/
inductive Request : Type 1 where
  | summaries
  | messages (cancelled : Nat → Bool)
  | stream (cancelled : Nat → Bool) (pulls : Nat)
  | saving {τ : Type} [Sink τ] (dir : String) (create : Bool) (cancelled : Nat → τ → Bool) (s : τ)
  | message (id : MessageId)

/-- What a request comes to; for a sink, the state in which it is left as well. -/
inductive Outcome : Type 1 where
  | summaries (result : Except Error (List Summary))
  | messages (result : Except (Interruption Message) (List Message))
  | stream (items : List (Except Error Message)) (seen : Bool)
  | saved {τ : Type} (result : Except (Interruption String) (List String)) (s : τ)
  | message (result : Except Error (Option Message))

/-- Whether a request has failed; a stream has if one of its items is an error. -/
def Outcome.isFailure : Outcome → Bool
  | .summaries result => !result.isOk
  | .messages result => !result.isOk
  | .stream items _ => items.any (!·.isOk)
  | .saved result _ => !result.isOk
  | .message result => !result.isOk

namespace Request

def perform (r : Reader MemoryFolder) : Request → Outcome × Reader MemoryFolder
  | .summaries =>
    let (result, r) := r.fetchSummaries
    (.summaries result, r)
  | .messages cancelled =>
    let (result, r) := r.fetchMessages fun f ↦ cancelled (r.folder.readsSince f)
    (.messages result, r)
  | .stream cancelled pulls =>
    let ((items, seen), r) := r.streamMessages (fun f ↦ cancelled (r.folder.readsSince f)) pulls
    (.stream items seen, r)
  | @saving _ _ dir create cancelled s =>
    let (result, r, s) := r.saveAll dir create (fun f s ↦ cancelled (r.folder.readsSince f) s) s
    (.saved result s, r)
  | .message id =>
    let (result, r) := r.fetchMessage id
    (.message result, r)

end Request

/-- What a request does about the window: how it stands if nothing is to be taken or the folder
cannot be entered, and what it does in the folder. -/
structure Errand where
  idle : Outcome
  refusal : Error → Outcome
  run : MemoryFolder → Reader MemoryFolder → Visit → (Outcome × Ending) × MemoryFolder

namespace Errand

open MemoryFolder

def attend (e : Errand) (r : Reader MemoryFolder) : Outcome × Reader MemoryFolder :=
  r.attend e.idle e.refusal (e.run r.folder)

theorem attend_of_isZero (e : Errand) {r : Reader MemoryFolder} (h : r.spec.take.isZero = true) :
    e.attend r = (e.idle, r) := if_pos h

/-- An errand fails where its visit does, and readers that are akin get the same from it. -/
structure Sound (e : Errand) : Prop where
  refusal : ∀ x, (e.refusal x).isFailure = true
  failed : ∀ f r v, (e.run f r v).1.1.isFailure = true ↔ (e.run f r v).1.2 = .failed
  agree : ∀ {r s : Reader MemoryFolder}, r.Akin s →
    r.inside.folder.Agree s.inside.folder (e.run r.folder r.inside r.visit)
      (e.run s.folder s.inside r.visit)

def summaries : Errand where
  idle := .summaries (.ok [])
  refusal e := .summaries (.error e)
  run _ r v :=
    let ((result, ending), f) := r.summarizing v
    ((.summaries result, ending), f)

def messages (cancelled : Nat → Bool) : Errand where
  idle := .messages (.ok [])
  refusal e := .messages (.error (.ofError e))
  run start r v :=
    let ((result, ending), f) := r.retrieving v fun f ↦ cancelled (start.readsSince f)
    ((.messages result, ending), f)

def stream (cancelled : Nat → Bool) (pulls : Nat) : Errand where
  idle := .stream [] true
  refusal e := let (items, seen) := Halt.pulled pulls [] (.failed e); .stream items seen
  run start r v :=
    let (((items, seen), ending), f) :=
      r.streaming v (fun f ↦ cancelled (start.readsSince f)) pulls
    ((.stream items seen, ending), f)

def saving {τ : Type} [Sink τ] (dir : String) (cancelled : Nat → τ → Bool) (s : τ) : Errand where
  idle := .saved (.ok []) s
  refusal e := .saved (.error (.ofError e)) s
  run start r v :=
    let (((result, s), ending), f) :=
      r.saving v dir (fun f s ↦ cancelled (start.readsSince f) s) s
    ((.saved result s, ending), f)

theorem readsSince_inside (r : Reader MemoryFolder) (cs : List Call) :
    r.folder.readsSince (r.inside.folder.logs cs) = cs.countP Call.isMessage := by
  have hcalls : (r.inside.folder.logs cs).calls = r.folder.calls ++
      (if r.folder.isOpen then [] else [.select r.config.folderAccess]) ++ cs :=
    congrArg (· ++ cs) (calls_opened r.config.folderAccess r.folder)
  rw [readsSince, hcalls]
  split <;> simp [Call.isMessage]

/-- Cancellation that goes by the messages asked for goes by the calls since the folder was entered,
whatever happened before. -/
theorem cancelled_agree {β : Type*} (r s : Reader MemoryFolder) (cancelled : Nat → β) (cs ds : List Call) :
    cancelled (r.folder.readsSince ((r.inside.folder.logs cs).logs ds)) =
      cancelled (s.folder.readsSince ((s.inside.folder.logs cs).logs ds)) := by
  rw [logs_logs, logs_logs, readsSince_inside, readsSince_inside]

section Agreement

variable {r s : Reader MemoryFolder} (h : r.Akin s)

include h

theorem window_agree (v : Visit) :
    r.inside.folder.Agree s.inside.folder (r.inside.window v) (s.inside.window v) := by
  have hcap : s.inside.config.searchCap = r.inside.config.searchCap :=
    congrArg Config.searchCap h.config
  simp only [Reader.window, hcap]
  exact resolve_agree h.twins_inside _ _

theorem targets_agree (v : Visit) :
    r.inside.folder.Agree s.inside.folder (r.inside.targets v) (s.inside.targets v) := by
  obtain ⟨a, cs, hcs, hr, hs⟩ := window_agree h v
  simp only [Reader.targets, hr, hs]
  cases a with
  | error e => exact ⟨_, cs, hcs, rfl, rfl⟩
  | ok w => exact .after hcs (MemoryFolder.targets_agree (h.twins_inside.logs cs) w)

theorem summarizing_agree (v : Visit) :
    r.inside.folder.Agree s.inside.folder (r.inside.summarizing v) (s.inside.summarizing v) := by
  obtain ⟨a, cs, hcs, hr, hs⟩ := window_agree h v
  simp only [Reader.summarizing, hr, hs]
  cases a with
  | error e => exact ⟨_, cs, hcs, rfl, rfl⟩
  | ok w =>
    obtain ⟨a, ds, hds, hr, hs⟩ := summaries_agree (h.twins_inside.logs cs) v.spec.items w
    simp only [hr, hs]
    cases a <;> exact .after hcs ⟨_, ds, hds, rfl, rfl⟩

theorem retrieving_agree (v : Visit) (cancelled : Nat → Bool) :
    r.inside.folder.Agree s.inside.folder
      (r.inside.retrieving v fun f ↦ cancelled (r.folder.readsSince f))
      (s.inside.retrieving v fun f ↦ cancelled (s.folder.readsSince f)) := by
  obtain ⟨a, cs, hcs, hr, hs⟩ := targets_agree h v
  simp only [Reader.retrieving, hr, hs]
  cases a with
  | error e => exact ⟨_, cs, hcs, rfl, rfl⟩
  | ok targets =>
    obtain ⟨a, ds, hds, hr, hs⟩ := messages_agree
      (c := fun f ↦ cancelled (r.folder.readsSince f))
      (d := fun f ↦ cancelled (s.folder.readsSince f)) (h.twins_inside.logs cs)
      (cancelled_agree r s cancelled cs) targets
    simp only [hr, hs]
    cases a <;> exact .after hcs ⟨_, ds, hds, rfl, rfl⟩

theorem streaming_agree (v : Visit) (cancelled : Nat → Bool) (n : Nat) :
    r.inside.folder.Agree s.inside.folder
      (r.inside.streaming v (fun f ↦ cancelled (r.folder.readsSince f)) n)
      (s.inside.streaming v (fun f ↦ cancelled (s.folder.readsSince f)) n) := by
  obtain ⟨a, cs, hcs, hr, hs⟩ := targets_agree h v
  simp only [Reader.streaming, hr, hs]
  cases a with
  | error e => exact ⟨_, cs, hcs, rfl, rfl⟩
  | ok targets =>
    obtain ⟨a, ds, hds, hr, hs⟩ := draw_agree
      (c := fun f ↦ cancelled (r.folder.readsSince f))
      (d := fun f ↦ cancelled (s.folder.readsSince f)) (h.twins_inside.logs cs)
      (cancelled_agree r s cancelled cs) targets.ascending n
    simp only [hr, hs]
    exact .after hcs ⟨_, ds, hds, rfl, rfl⟩

theorem saving_agree {τ : Type} [Sink τ] (v : Visit) (dir : String) (cancelled : Nat → τ → Bool)
    (t : τ) :
    r.inside.folder.Agree s.inside.folder
      (r.inside.saving v dir (fun f t ↦ cancelled (r.folder.readsSince f) t) t)
      (s.inside.saving v dir (fun f t ↦ cancelled (s.folder.readsSince f) t) t) := by
  obtain ⟨a, cs, hcs, hr, hs⟩ := targets_agree h v
  have hpath : s.inside.savePath dir = r.inside.savePath dir := by
    have hconfig : s.inside.config = r.inside.config := h.config
    funext m
    rw [Reader.savePath, Reader.savePath, hconfig]
  simp only [Reader.saving, hr, hs, hpath]
  cases a with
  | error e => exact ⟨_, cs, hcs, rfl, rfl⟩
  | ok targets =>
    obtain ⟨⟨paths, failure⟩, t', ds, hds, hr, hs⟩ := saveEach_agree
      (c := fun f t ↦ cancelled (r.folder.readsSince f) t)
      (d := fun f t ↦ cancelled (s.folder.readsSince f) t) (h.twins_inside.logs cs)
      (fun ds t ↦ cancelled_agree r s (cancelled · t) cs ds) (r.inside.savePath dir)
      targets.ascending t
    simp only [hr, hs]
    rcases failure with _ | e | e <;> exact .after hcs ⟨_, ds, hds, rfl, rfl⟩

end Agreement

section Soundness

theorem any_pulled (n : Nat) (ms : List Message) (halt : Halt) :
    (halt.pulled n ms).1.any (!·.isOk) = true ↔ halt.ending ms.length = .failed := by
  cases halt <;> simp [Halt.pulled, Halt.ending]

theorem sound_summaries : summaries.Sound where
  refusal _ := rfl
  failed f r v := by
    simp only [summaries, Reader.summarizing]
    rcases r.window v with ⟨e | w, f⟩
    · simp [Outcome.isFailure]
    · rcases hw : w.summaries v.spec.items f with ⟨e | found, g⟩ <;>
        simp [hw, Outcome.isFailure]
  agree h := (summarizing_agree h _).map fun x ↦ (Outcome.summaries x.1, x.2)

theorem sound_messages (cancelled : Nat → Bool) : (messages cancelled).Sound where
  refusal _ := rfl
  failed f r v := by
    simp only [messages, Reader.retrieving]
    rcases r.targets v with ⟨e | targets, g⟩
    · simp [Outcome.isFailure]
    · rcases ht : targets.messages (fun g ↦ cancelled (f.readsSince g)) g with ⟨i | ms, g'⟩ <;>
        simp [ht, Outcome.isFailure]
  agree h := (retrieving_agree h _ cancelled).map fun x ↦ (Outcome.messages x.1, x.2)

theorem sound_stream (cancelled : Nat → Bool) (pulls : Nat) : (stream cancelled pulls).Sound where
  refusal _ := rfl
  failed f r v := by
    simp only [stream, Reader.streaming]
    rcases r.targets v with ⟨e | targets, g⟩
    · exact any_pulled pulls [] (.failed _)
    · exact any_pulled _ _ _
  agree h := (streaming_agree h _ cancelled pulls).map fun x ↦ (Outcome.stream x.1.1 x.1.2, x.2)

theorem sound_saving {τ : Type} [Sink τ] (dir : String) (cancelled : Nat → τ → Bool) (t : τ) :
    (saving dir cancelled t).Sound where
  refusal _ := rfl
  failed f r v := by
    simp only [saving, Reader.saving]
    rcases r.targets v with ⟨e | targets, g⟩
    · simp [Outcome.isFailure]
    · rcases hs : saveEach (fun g t ↦ cancelled (f.readsSince g) t) (r.savePath dir)
        targets.ascending g t with ⟨⟨paths, _ | e | e⟩, g', t'⟩ <;>
        simp [hs, Outcome.isFailure]
  agree h := (saving_agree h _ dir cancelled t).map fun x ↦ (Outcome.saved x.1.1 x.1.2, x.2)

end Soundness

end Errand

namespace Reader

open MemoryFolder

variable {r r' : Reader MemoryFolder}

/-- What a request may do to a reader, by whether it fails. -/
inductive Treated (r : Reader MemoryFolder) (failed : Bool) : Reader MemoryFolder → Prop
  | unmoved : r.Treated failed r
  | refused {r' : Reader MemoryFolder} (closed : ¬r.folder.Accessible) (hfailed : failed = true)
      (folder : r'.folder = r.folder.logs [.select r.config.folderAccess]) (spec : r'.spec = r.spec)
      (config : r'.config = r.config) (retained : r'.retained = true → r.retained = true) :
      r.Treated failed r'
  | visited {r' : Reader MemoryFolder} {kept : Bool} {spec : Spec} {reads : List Call}
      (accessible : r.folder.Accessible) (reading : ∀ c ∈ reads, c.isRead = true)
      (hfailed : failed = true → kept = false ∧ spec = r.spec) (visit : r.Visited kept spec reads r') :
      r.Treated failed r'

theorem fetchMessage_of_accessible (hf : r.folder.Accessible) (hc : Fault.close ∉ r.folder.faults)
    (id : MessageId) {a : Except SessionError (Option Message)} {reads : List Call}
    (ha : Target.fetch r.inside.folder (.id id) = (a, r.during reads)) :
    ∃ r', r.fetchMessage id = (a.mapError .session, r') ∧
      r.Visited (a.isOk && r.retained) r.spec reads r' := by
  have hc := close_not_mem_during hc reads
  have ha : Target.fetch (r.folder.opened r.config.folderAccess) (.id id) = (a, r.during reads) := ha
  let kept := a.isOk && r.retained
  have hleft : r.fetchMessage id = (a.mapError .session, { r with
      folder := if r.borrowed || kept then r.during reads else (r.during reads).closed
      retained := !r.borrowed && kept }) := by
    cases a with
    | ok m =>
      simp only [fetchMessage, acquire_of_accessible hf, ha, release_of_granted hc]
      cases ho : r.folder.isOpen <;> cases hr : r.retained <;>
        simp [borrowed, kept, warn, ho, hr, Except.mapError]
    | error e =>
      simp only [fetchMessage, acquire_of_accessible hf, ha,
        abandon_of_granted hc (r.isOpen_during reads)]
      cases ho : r.folder.isOpen <;> cases hr : r.retained <;>
        simp [borrowed, kept, warn, ho, hr, Except.mapError]
  exact ⟨_, hleft, .of_folder rfl rfl rfl rfl⟩

theorem fetchMessage_of_not_accessible (hf : ¬r.folder.Accessible) (id : MessageId) :
    ∃ e, r.fetchMessage id =
      (.error e, { r with folder := r.folder.logs [.select r.config.folderAccess] }) := by
  obtain ⟨e, he⟩ := acquire_of_not_accessible hf r.config.folderAccess r.retained
  exact ⟨.session e, by simp only [fetchMessage, he]⟩

end Reader

namespace Request

open MemoryFolder

variable {r : Reader MemoryFolder}

theorem perform_saving_of_unprepared {τ : Type} [Sink τ] {dir : String} {create : Bool} {s s' : τ}
    {e : Error} (hp : Sink.prepare dir create s = (.error e, s')) {cancelled : Nat → τ → Bool}
    (r : Reader MemoryFolder) :
    (saving dir create cancelled s).perform r = (.saved (.error (.ofError e)) s', r) := by
  simp only [perform, Reader.saveAll_eq_prepare, hp]

/-- A request comes to the same for every reader, which it leaves alone, or it is an errand, or it
asks for one message. -/
theorem perform_cases (q : Request) :
    (∃ o, ∀ r, q.perform r = (o, r)) ∨
    (∃ e : Errand, e.Sound ∧ ∀ r, q.perform r = e.attend r) ∨
    ∃ id, q = .message id := by
  cases q with
  | summaries =>
    refine .inr (.inl ⟨.summaries, Errand.sound_summaries, fun r ↦ ?_⟩)
    simp only [perform, Reader.fetchSummaries_eq_attend]
    exact (Reader.attend_map Outcome.summaries r).symm
  | messages cancelled =>
    refine .inr (.inl ⟨.messages cancelled, Errand.sound_messages cancelled, fun r ↦ ?_⟩)
    simp only [perform, Reader.fetchMessages_eq_attend]
    exact (Reader.attend_map Outcome.messages r).symm
  | stream cancelled pulls =>
    cases pulls with
    | zero => exact .inl ⟨.stream [] false, fun _ ↦ rfl⟩
    | succ n =>
      refine .inr (.inl ⟨.stream cancelled (n + 1), Errand.sound_stream cancelled _, fun r ↦ ?_⟩)
      simp only [perform, Reader.streamMessages_eq_attend]
      exact (Reader.attend_map (fun x : List _ × Bool ↦ Outcome.stream x.1 x.2) r).symm
  | @saving τ inst dir create cancelled s =>
    rcases hp : Sink.prepare dir create s with ⟨e | _, s'⟩
    · exact .inl ⟨.saved (.error (.ofError e)) s', perform_saving_of_unprepared hp⟩
    · refine .inr (.inl ⟨.saving dir cancelled s', Errand.sound_saving dir cancelled s',
        fun r ↦ ?_⟩)
      simp only [perform, Reader.saveAll_eq_prepare, hp, Reader.saveWindow_eq_attend]
      exact (Reader.attend_map (fun x : Except _ _ × τ ↦ Outcome.saved x.1 x.2) r).symm
  | message id => exact .inr (.inr ⟨id, rfl⟩)

theorem perform_treated (q : Request) (hc : Fault.close ∉ r.folder.faults) :
    r.Treated (q.perform r).1.isFailure (q.perform r).2 := by
  rcases q.perform_cases with ⟨o, ho⟩ | ⟨e, he, hattend⟩ | ⟨id, rfl⟩
  · rw [ho]
    exact .unmoved
  · rw [hattend]
    cases ht : r.spec.take.isZero with
    | true =>
      rw [e.attend_of_isZero ht]
      exact .unmoved
    | false =>
      by_cases hf : r.folder.Accessible
      · obtain ⟨⟨a, ending⟩, reads, hreads, hrun, -⟩ := he.agree (.refl r)
        have hfailed := he.failed r.folder r.inside r.visit
        rw [hrun] at hfailed
        rw [Errand.attend, Reader.attend_of_accessible hf hc ht hrun]
        refine .visited hf hreads (fun h ↦ ?_) (r.visited_outside _ _ _)
        obtain rfl := hfailed.mp h
        exact ⟨rfl, rfl⟩
      · obtain ⟨x, hx⟩ : ∃ x, e.attend r = (e.refusal x, r.refused) :=
          Reader.attend_of_not_accessible hf ht
        rw [hx]
        exact .refused hf (he.refusal x) rfl rfl rfl fun h ↦ nomatch h
  · simp only [perform]
    by_cases hf : r.folder.Accessible
    · obtain ⟨a, reads, hreads, ha, -⟩ := fetch_agree (Reader.Akin.refl r).twins_inside (.id id)
      obtain ⟨r', hr, hv⟩ := Reader.fetchMessage_of_accessible hf hc id ha
      rw [hr]
      refine .visited hf hreads (fun h ↦ ?_) hv
      cases a with
      | ok m => cases h
      | error e => exact ⟨rfl, rfl⟩
    · obtain ⟨e, he⟩ := Reader.fetchMessage_of_not_accessible hf id
      rw [he]
      exact .refused hf rfl rfl rfl rfl fun h ↦ h

end Request

end MailWindow
