import MailWindow.Proofs.Retrievals
import MailWindow.Sink.Recording

namespace MailWindow

namespace Reader

open MemoryFolder

variable {r r' s s' : Reader MemoryFolder}

namespace Akin

theorem contents_eq (h : r.Akin s) : s.contents = r.contents := by
  rw [contents, contents, h.visit_eq, h.config]
  exact eq_of_stored (fun f ↦ r.visit.plan.contents r.config.searchCap f)
    (fun _ ↦ by cases r.visit.plan <;> rfl) h.stored

theorem savePath_eq (h : r.Akin s) : s.savePath = r.savePath := by
  funext dir m
  rw [savePath, savePath, h.config]

end Akin

/-- Two readers that the calls so far do not tell apart. -/
structure Alike (r s : Reader MemoryFolder) : Prop extends r.Akin s where
  isOpen : s.folder.isOpen = r.folder.isOpen
  retained : s.retained = r.retained

namespace Alike

theorem refl (r : Reader MemoryFolder) : r.Alike r := ⟨.refl r, rfl, rfl⟩

theorem covered (h : r.Alike s) (hr : r.Covered r') (hs : s.Covered s') : r'.Alike s' := by
  have htake : s.spec.take.isZero = r.spec.take.isZero := by rw [h.spec]
  cases hr with
  | idle hr =>
    cases hs with
    | idle => exact h
    | visited hs => exact absurd (htake.trans hr) (Bool.eq_false_iff.mp hs)
  | visited hr hvr =>
    cases hs with
    | idle hs => exact absurd (htake.symm.trans hs) (Bool.eq_false_iff.mp hr)
    | visited _ hvs =>
      rw [h.contents_eq, Advanced, h.following_eq] at hvs
      refine ⟨h.toAkin.visited hvr hvs, ?_, ?_⟩
      · rw [hvr.isOpen, hvs.isOpen, h.borrowed]
      · rw [hvr.retained, hvs.retained, h.borrowed]

end Alike

theorem Covered.stored (h : r.Covered r') : r'.folder.stored = r.folder.stored := by
  cases h with
  | idle => rfl
  | visited _ h => exact h.stored

theorem Covered.savePath_eq (h : r.Covered r') : r'.savePath = r.savePath := by
  cases h with
  | idle => rfl
  | visited _ h =>
    funext dir m
    rw [savePath, savePath, h.config]

end Reader

namespace RecordingSink

variable {s : RecordingSink}

theorem exists_writes (hs : s.failAt = none) (path : Message → String) (ms : List Message) :
    ∃ s', Sink.Writes path ms none s s' := by
  induction ms generalizing s with
  | nil => exact ⟨s, .nothing s⟩
  | cons m ms ih =>
    let s₁ : RecordingSink := { s.log (.write m.id (path m)) with writes := s.writes + 1 }
    have hwrite : Sink.write m (path m) s = (.ok (), s₁) := by
      change (if s.failAt = some (s.writes + 1) then _ else _, s₁) = _
      rw [hs]
      rfl
    obtain ⟨s', hrest⟩ := ih (s := s₁) hs
    exact ⟨s', .written hwrite hrest⟩

theorem serves (hd : s.deniesEnsure = false) (hs : s.failAt = none) (dir : String)
    (path : Message → String) (ms : List Message) :
    ∃ s', Sink.Serves dir true path ms s s' := by
  obtain ⟨s', hwrites⟩ := exists_writes (s := s.log (.ensure dir)) hs path ms
  have hprepare : Sink.prepare dir true s = (.ok (), s.log (.ensure dir)) := by
    change (if s.deniesEnsure then _ else _, s.log (.ensure dir)) = _
    rw [hd]
    rfl
  exact ⟨s', _, hprepare, hwrites⟩

end RecordingSink

namespace Outcome

def isComplete : Outcome → Bool
  | .stream _ seen => seen
  | _ => true

/-- The messages with these identifiers have been retrieved, or saved where messages are saved. -/
inductive Covers (path : String → Message → String) : Outcome → List MessageId → Prop
  | summaries (found : List Summary) : Covers path (.summaries (.ok found)) (found.map (·.id))
  | messages (ms : List Message) : Covers path (.messages (.ok ms)) (ms.map (·.id))
  | stream (ms : List Message) : Covers path (.stream (ms.map .ok) true) (ms.map (·.id))
  | saved {τ : Type} (dir : String) (ms : List Message) (s : τ) :
    Covers path (.saved (.ok (ms.map (path dir))) s) (ms.map (·.id))

variable {path : String → Message → String} {ids : List MessageId}

theorem Covers.isComplete {o : Outcome} (h : o.Covers path ids) : o.isComplete = true := by
  cases h <;> rfl

theorem Covers.of_saved {τ : Type} {result : Except (Interruption String) (List String)} {s : τ}
    (h : Covers path (.saved result s) ids) :
    ∃ (dir : String) (ms : List Message), result = .ok (ms.map (path dir)) ∧ ids = ms.map (·.id) := by
  cases h with
  | saved dir ms => exact ⟨dir, ms, rfl, rfl⟩

end Outcome

namespace Request

open MemoryFolder Reader

/-- A request for the window that is never cancelled and, if it saves, is served by the sink. -/
def Unhindered (r : Reader MemoryFolder) : Request → Prop
  | .summaries => True
  | .messages cancelled => ∀ n, cancelled n = false
  | .stream cancelled _ => ∀ n, cancelled n = false
  | @saving _ _ dir create cancelled s => (∀ n s, cancelled n s = false) ∧
    ∃ s', Sink.Serves dir create (r.savePath dir) (deliveries r.contents) s s'
  | .message _ => False

def performAll : List Request → Reader MemoryFolder → List Outcome × Reader MemoryFolder
  | [], r => ([], r)
  | q :: qs, r =>
    let (o, r) := q.perform r
    let (os, r) := performAll qs r
    (o :: os, r)

/-- One request after the other, each unhindered and, if it is a stream, pulled to its end. -/
def Undisturbed : List Request → Reader MemoryFolder → Prop
  | [], _ => True
  | q :: qs, r => q.Unhindered r ∧ (q.perform r).1.isComplete = true ∧
    Undisturbed qs (q.perform r).2

variable {r s : Reader MemoryFolder} {q : Request}

theorem perform_covers (hq : q.Unhindered r) (hf : r.folder.faults = [])
    (h : r.folder.ids.Pairwise (· < ·)) (hcomplete : (q.perform r).1.isComplete = true) :
    (q.perform r).1.Covers r.savePath (r.contents.map (·.1.id)) ∧ r.Covered (q.perform r).2 := by
  cases q with
  | message id => exact hq.elim
  | summaries =>
    obtain ⟨r', hr, hcovered⟩ := fetchSummaries_covered hf h
    simp only [perform, hr]
    rw [← map_id_summarize r.visit.spec.items]
    exact ⟨.summaries _, hcovered⟩
  | messages cancelled =>
    obtain rfl : cancelled = fun _ ↦ false := funext hq
    obtain ⟨r', hr, hcovered⟩ := fetchMessages_covered hf h
    simp only [perform, hr]
    rw [← map_id_deliveries]
    exact ⟨.messages _, hcovered⟩
  | stream cancelled pulls =>
    obtain rfl : cancelled = fun _ ↦ false := funext hq
    obtain ⟨r', hr, hcovered⟩ := streamMessages_covered hf h (contents_lt_of_seen hf h hcomplete)
    simp only [perform, hr]
    rw [← map_id_deliveries]
    exact ⟨.stream _, hcovered⟩
  | saving dir create cancelled s =>
    obtain ⟨hcancelled, s', hs⟩ := hq
    obtain rfl : cancelled = fun _ _ ↦ false := funext fun n ↦ funext (hcancelled n)
    obtain ⟨r', hr, hcovered⟩ := saveAll_covered hf h hs
    simp only [perform, hr]
    rw [← map_id_deliveries]
    exact ⟨.saved dir _ _, hcovered⟩

theorem performAll_covers (k : Nat) (hf : r.folder.faults = []) (h : r.folder.ids.Pairwise (· < ·)) :
    ∃ (windows : List (List MessageId)) (r' : Reader MemoryFolder), windows.length = k ∧
      ∀ s, r.Alike s → ∀ qs : List Request, qs.length = k → Undisturbed qs s →
        List.Forall₂ (Outcome.Covers r.savePath) (performAll qs s).1 windows ∧
          r'.Alike (performAll qs s).2 := by
  induction k generalizing r with
  | zero =>
    refine ⟨[], r, rfl, ?_⟩
    intro s hs qs hk _
    obtain rfl := List.eq_nil_of_length_eq_zero hk
    exact ⟨.nil, hs⟩
  | succ k ih =>
    obtain ⟨r₁, -, hr₁⟩ := fetchSummaries_covered hf h
    obtain ⟨windows, r', hlength, hrest⟩ := ih ((faults_of_stored hr₁.stored).trans hf)
      (ids_of_stored hr₁.stored ▸ h)
    refine ⟨r.contents.map (·.1.id) :: windows, r', congrArg (· + 1) hlength, ?_⟩
    intro s hs qs hk hqs
    obtain ⟨q, qs, rfl⟩ := List.exists_cons_of_length_eq_add_one hk
    obtain ⟨hq, hcomplete, hqs⟩ := hqs
    obtain ⟨hcovers, hcovered⟩ := perform_covers hq ((faults_of_stored hs.stored).trans hf)
      (ids_of_stored hs.stored ▸ h) hcomplete
    rw [hs.contents_eq, hs.savePath_eq] at hcovers
    obtain ⟨hwindows, hend⟩ := hrest _ (hs.covered hr₁ hcovered) qs (Nat.succ.inj hk) hqs
    rw [hr₁.savePath_eq] at hwindows
    exact ⟨.cons hcovers hwindows, hend⟩

end Request

namespace Reader

open MemoryFolder

variable {r : Reader MemoryFolder}

/-- On a folder without faults all calls for the window agree if they are not cancelled: in the
messages, as far as they return them, in their order, and in where they leave the reader and the
folder. So it makes no difference to a chain which of them is used when. -/
theorem retrievals_agree (hf : r.folder.faults = []) (h : r.folder.ids.Pairwise (· < ·)) :
    (∃ ms r₁, r.fetchMessages (fun _ ↦ false) = (.ok ms, r₁) ∧
      (∀ n, ((r.streamMessages (fun _ ↦ false) n).1.2 = true ↔ ms.length < n) ∧
        (ms.length < n → ∃ r₂,
          r.streamMessages (fun _ ↦ false) n = ((ms.map .ok, true), r₂) ∧ r₁.Alike r₂)) ∧
      (∃ found r₂, r.fetchSummaries = (.ok found, r₂) ∧ found.map (·.id) = ms.map (·.id) ∧
        r₁.Alike r₂) ∧
      ∀ (τ : Type) [Sink τ] (dir : String) (create : Bool) (s s' : τ),
        Sink.Serves dir create (r.savePath dir) ms s s' → ∃ r₂,
          r.saveAll dir create (fun _ _ ↦ false) s = (.ok (ms.map (r.savePath dir)), r₂, s') ∧
          r₁.Alike r₂) ∧
    ∀ k, ∃ (windows : List (List MessageId)) (r' : Reader MemoryFolder), windows.length = k ∧
      ∀ qs : List Request, qs.length = k → Request.Undisturbed qs r →
        List.Forall₂ (Outcome.Covers r.savePath) (Request.performAll qs r).1 windows ∧
          r'.Alike (Request.performAll qs r).2 := by
  refine ⟨?_, fun k ↦ ?_⟩
  · obtain ⟨r₁, hr₁, hcovered₁⟩ := fetchMessages_covered hf h
    have hlength : (deliveries r.contents).length = r.contents.length := List.length_map _
    refine ⟨_, r₁, hr₁, fun n ↦ ⟨⟨fun hn ↦ ?_, fun hn ↦ ?_⟩, fun hn ↦ ?_⟩, ?_, ?_⟩
    · rw [hlength]
      exact contents_lt_of_seen hf h hn
    · obtain ⟨r₂, hr₂, -⟩ := streamMessages_covered hf h (hlength ▸ hn)
      rw [hr₂]
    · obtain ⟨r₂, hr₂, hcovered₂⟩ := streamMessages_covered hf h (hlength ▸ hn)
      exact ⟨r₂, hr₂, (Alike.refl r).covered hcovered₁ hcovered₂⟩
    · obtain ⟨r₂, hr₂, hcovered₂⟩ := fetchSummaries_covered hf h
      refine ⟨_, r₂, hr₂, ?_, (Alike.refl r).covered hcovered₁ hcovered₂⟩
      rw [map_id_summarize, map_id_deliveries]
    · intro τ _ dir create s s' hs
      obtain ⟨r₂, hr₂, hcovered₂⟩ := saveAll_covered hf h hs
      exact ⟨r₂, hr₂, (Alike.refl r).covered hcovered₁ hcovered₂⟩
  · obtain ⟨windows, r', hlength, hchain⟩ := Request.performAll_covers k hf h
    exact ⟨windows, r', hlength, hchain r (.refl r)⟩

theorem retrievals_agree_gapped :
    let r : Reader MemoryFolder :=
      { folder := gapped, spec := { skip := 1, take := .count 2, continuous := true } }
    let box : RecordingSink := { directories := ["box"] }
    let full : RecordingSink :=
      { box with
        writes := 2
        calls := [.exists "box", .write ⟨3⟩ "box/3.eml", .write ⟨5⟩ "box/5.eml"] }
    let chain : List Request := [.saving "box" false (fun _ _ ↦ false) box, .stream (fun _ ↦ false) 3]
    ∃ ms r₁ r₂ found r₃ r₄, r.fetchMessages (fun _ ↦ false) = (.ok ms, r₁) ∧
      ms.map (·.id) = [⟨3⟩, ⟨5⟩] ∧
      r.streamMessages (fun _ ↦ false) 3 = ((ms.map .ok, true), r₂) ∧
      r.fetchSummaries = (.ok found, r₃) ∧ found.map (·.id) = ms.map (·.id) ∧
      r.saveAll "box" false (fun _ _ ↦ false) box = (.ok ["box/3.eml", "box/5.eml"], r₄, full) ∧
      r₁.Alike r₂ ∧ r₁.Alike r₃ ∧ r₁.Alike r₄ ∧
      ∃ (windows : List (List MessageId)) (r' : Reader MemoryFolder), windows.length = 2 ∧
        List.Forall₂ (Outcome.Covers r.savePath) (Request.performAll chain r).1 windows ∧
        r'.Alike (Request.performAll chain r).2 := by
  intro r box full chain
  obtain ⟨⟨ms, r₁, hms, hstream, ⟨found, r₃, hfound, hids, halike₃⟩, hsave⟩, hchain⟩ :=
    retrievals_agree (r := r) rfl (by decide)
  let window : List (Stored × Nat) := [(gapped.messages[1], 1), (gapped.messages[2], 2)]
  obtain rfl : ms = deliveries window := by
    have hcall : (r.fetchMessages (fun _ ↦ false)).1.toOption = some (deliveries window) := by
      decide +kernel
    rw [hms] at hcall
    exact Option.some.inj hcall
  have hserves : Sink.Serves "box" false (r.savePath "box") (deliveries window) box full :=
    ⟨_, rfl, .written rfl (.written rfl (.nothing _))⟩
  obtain ⟨r₂, hr₂, halike₂⟩ := (hstream 3).2 (by decide)
  obtain ⟨r₄, hr₄, halike₄⟩ := hsave RecordingSink "box" false box full hserves
  obtain ⟨windows, r', hlength, hcovers⟩ := hchain 2
  have hcontents : r.contents = window := by decide +kernel
  have hchain : Request.Undisturbed chain r :=
    ⟨⟨fun _ _ ↦ rfl, full, hcontents ▸ hserves⟩, rfl, fun _ ↦ rfl, by decide +kernel, trivial⟩
  exact ⟨_, r₁, r₂, found, r₃, r₄, hms, by decide, hr₂, hfound, hids, hr₄, halike₂, halike₃,
    halike₄, windows, r', hlength, hcovers chain rfl hchain⟩

end Reader

end MailWindow
