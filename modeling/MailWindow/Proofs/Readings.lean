import MailWindow.Proofs.Leases
import MailWindow.Proofs.Visits

namespace MailWindow

universe u

variable {α : Type u}

/-- Whether a call leaves the folder as open and as full as it was. -/
def Call.isRead : Call → Bool
  | .select _ | .close => false
  | _ => true

namespace MemoryFolder

structure Twins (f g : MemoryFolder) : Prop where
  stored : g.stored = f.stored
  left : f.isOpen = true
  right : g.isOpen = true

/-- What is done in one folder and what is done in another come to the same: the same result, after
the same calls, which only read. -/
def Agree (f g : MemoryFolder) (x y : α × MemoryFolder) : Prop :=
  ∃ a cs, (∀ c ∈ cs, c.isRead = true) ∧ x = (a, f.logs cs) ∧ y = (a, g.logs cs)

variable {f g : MemoryFolder}

theorem Twins.logs (h : f.Twins g) (cs : List Call) : (f.logs cs).Twins (g.logs cs) :=
  ⟨h.stored, h.left, h.right⟩

theorem Agree.pure (a : α) : f.Agree g (a, f) (a, g) :=
  ⟨a, [], by simp, by rw [logs_nil], by rw [logs_nil]⟩

theorem Agree.map {β : Type*} (φ : α → β) {x y : α × MemoryFolder} (h : f.Agree g x y) :
    f.Agree g (φ x.1, x.2) (φ y.1, y.2) := by
  obtain ⟨a, cs, hcs, rfl, rfl⟩ := h
  exact ⟨φ a, cs, hcs, rfl, rfl⟩

theorem Agree.after {cs : List Call} (hcs : ∀ c ∈ cs, c.isRead = true) {x y : α × MemoryFolder}
    (h : (f.logs cs).Agree (g.logs cs) x y) : f.Agree g x y := by
  obtain ⟨a, ds, hds, hx, hy⟩ := h
  rw [logs_logs] at hx hy
  exact ⟨a, cs ++ ds, fun c hc ↦ (List.mem_append.mp hc).elim (hcs c) (hds c), hx, hy⟩

theorem read_agree {β : Type} (h : f.Twins g) (call : Call) (hc : call.isRead = true)
    (result : MemoryFolder → Except SessionError β) (hr : ∀ f, result f.stored = result f) :
    f.Agree g (f.read call result) (g.read call result) := by
  have hf : (f.log call).checkOpen = .ok () := if_pos h.left
  have hg : (g.log call).checkOpen = .ok () := if_pos h.right
  have heq : result (g.log call) = result (f.log call) := eq_of_stored result hr h.stored
  refine ⟨result (f.log call), [call], by simpa using hc, ?_, ?_⟩
  · simp only [read, hf]
    rfl
  · rw [← heq]
    simp only [read, hg]
    rfl

section Operations

variable (h : f.Twins g)

include h

theorem search_agree (query : Query) :
    f.Agree g (Folder.search query f) (Folder.search query g) :=
  read_agree h (.search query.toText) rfl
    (fun f ↦ (f.check .search).map fun _ ↦ f.results query) fun _ ↦ rfl

theorem fetchIds_agree (set : IdSet) (items : SummaryItems) :
    f.Agree g (Folder.fetchIds set items f) (Folder.fetchIds set items g) := by
  have hread := read_agree h (.fetchIds set) rfl (fun f ↦ (f.check .fetch).map fun _ ↦
    (f.indexed.filter fun p ↦ set.contains p.1.id).map fun p ↦ p.1.summary p.2 items) fun _ ↦ rfl
  exact hread

theorem fetchIndices_agree (range : IndexRange) (items : SummaryItems) :
    f.Agree g (Folder.fetchIndices range items f) (Folder.fetchIndices range items g) := by
  have hread := read_agree h (.fetchIndices range) rfl (fun f ↦ (f.check .fetch).map fun _ ↦
    (f.indexed.filter fun p ↦ range.contains p.2).map fun p ↦ p.1.summary p.2 items) fun _ ↦ rfl
  exact hread

theorem fetch_agree (t : Target) : f.Agree g (t.fetch f) (t.fetch g) := by
  cases t with
  | id id => exact read_agree h (.messageById id) rfl (fun f ↦ f.deliver (f.locate? id)) fun _ ↦ rfl
  | index i =>
    exact read_agree h (.messageByIndex i) rfl
      (fun f ↦ f.deliver ((f.messages[i.toNat]?).map fun m ↦ (m, i))) fun _ ↦ rfl

theorem resolve_agree (cap : UInt32) (p : Plan) :
    f.Agree g (p.resolve cap f) (p.resolve cap g) := by
  cases p with
  | search query skip take =>
    obtain ⟨a, cs, hcs, hf, hg⟩ := search_agree h query
    simp only [Plan.resolve, hf, hg]
    cases a <;> exact ⟨_, cs, hcs, rfl, rfl⟩
  | _ => exact .pure _

theorem summaries_agree (items : SummaryItems) (w : Window) :
    f.Agree g (w.summaries items f) (w.summaries items g) := by
  cases w with
  | empty => exact .pure _
  | ids set =>
    obtain ⟨a, cs, hcs, hf, hg⟩ := fetchIds_agree h set items
    simp only [Window.summaries, hf, hg]
    cases a <;> exact ⟨_, cs, hcs, rfl, rfl⟩
  | indices range | newest range =>
    obtain ⟨a, cs, hcs, hf, hg⟩ := fetchIndices_agree h range items
    simp only [Window.summaries, hf, hg]
    cases a <;> exact ⟨_, cs, hcs, rfl, rfl⟩

theorem targets_agree (w : Window) : f.Agree g (w.targets f) (w.targets g) := by
  cases w with
  | ids set =>
    obtain ⟨a, cs, hcs, hf, hg⟩ := fetchIds_agree h set .idOnly
    simp only [Window.targets, hf, hg]
    cases a <;> exact ⟨_, cs, hcs, rfl, rfl⟩
  | _ => exact .pure _

end Operations

section Loops

variable {c d : MemoryFolder → Bool} (h : f.Twins g) (hcd : ∀ cs, c (f.logs cs) = d (g.logs cs))

include hcd

theorem cancelled_eq : c f = d g := by
  have hnil := hcd []
  rwa [logs_nil, logs_nil] at hnil

theorem cancelled_eq_after (cs ds : List Call) :
    c ((f.logs cs).logs ds) = d ((g.logs cs).logs ds) := by
  rw [logs_logs, logs_logs, hcd]

include h

theorem retrieveEach_agree (ts : List Target) :
    f.Agree g (retrieveEach c ts f) (retrieveEach d ts g) := by
  induction ts generalizing f g with
  | nil => exact .pure _
  | cons t ts ih =>
    obtain ⟨a, cs, hcs, hf, hg⟩ := fetch_agree h t
    simp only [retrieveEach, ← cancelled_eq hcd, hf, hg]
    cases c f with
    | true => exact .pure _
    | false =>
      cases a with
      | error e => exact ⟨_, cs, hcs, rfl, rfl⟩
      | ok m =>
        obtain ⟨rest, ds, hds, hf, hg⟩ := ih (h.logs cs) (cancelled_eq_after hcd cs)
        simp only [hf, hg]
        exact .after hcs ⟨_, ds, hds, rfl, rfl⟩

theorem messages_agree (ts : Targets) : f.Agree g (ts.messages c f) (ts.messages d g) := by
  obtain ⟨got, cs, hcs, hf, hg⟩ := retrieveEach_agree h hcd ts.list
  simp only [Targets.messages, hf, hg]
  cases got.error? <;> exact ⟨_, cs, hcs, rfl, rfl⟩

theorem draw_agree (ts : List Target) (n : Nat) : f.Agree g (draw c n ts f) (draw d n ts g) := by
  induction ts generalizing f g n with
  | nil => cases n <;> exact .pure _
  | cons t ts ih =>
    cases n with
    | zero => exact .pure _
    | succ n =>
      obtain ⟨a, cs, hcs, hf, hg⟩ := fetch_agree h t
      simp only [draw, ← cancelled_eq hcd, hf, hg]
      cases c f with
      | true => exact .pure _
      | false =>
        have ih := fun n ↦ ih (h.logs cs) (cancelled_eq_after hcd cs) n
        rcases a with e | _ | m
        · exact ⟨_, cs, hcs, rfl, rfl⟩
        · exact .after hcs (ih (n + 1))
        · obtain ⟨rest, ds, hds, hf, hg⟩ := ih n
          simp only [hf, hg]
          exact .after hcs ⟨_, ds, hds, rfl, rfl⟩

end Loops

theorem saveEach_agree {τ : Type} [Sink τ] {c d : MemoryFolder → τ → Bool} (h : f.Twins g)
    (hcd : ∀ cs s, c (f.logs cs) s = d (g.logs cs) s) (path : Message → String)
    (ts : List Target) (s : τ) : ∃ out s' cs, (∀ c ∈ cs, c.isRead = true) ∧
      saveEach c path ts f s = (out, f.logs cs, s') ∧
      saveEach d path ts g s = (out, g.logs cs, s') := by
  induction ts generalizing f g s with
  | nil => exact ⟨([], none), s, [], by simp, by rw [logs_nil]; rfl, by rw [logs_nil]; rfl⟩
  | cons t ts ih =>
    obtain ⟨a, cs, hcs, hf, hg⟩ := fetch_agree h t
    have hnow : c f s = d g s := cancelled_eq (c := (c · s)) (d := (d · s)) fun cs ↦ hcd cs s
    simp only [saveEach, ← hnow, hf, hg]
    cases c f s with
    | true => exact ⟨_, s, [], by simp, by rw [logs_nil]; rfl, by rw [logs_nil]; rfl⟩
    | false =>
      have ih := fun s ↦ ih (h.logs cs) (fun ds s ↦
        cancelled_eq_after (c := (c · s)) (d := (d · s)) (fun cs ↦ hcd cs s) cs ds) s
      have hmem {ds : List Call} (hds : ∀ c ∈ ds, c.isRead = true) :
          ∀ c ∈ cs ++ ds, c.isRead = true :=
        fun c hc ↦ (List.mem_append.mp hc).elim (hcs c) (hds c)
      rcases a with e | _ | m
      · exact ⟨_, s, cs, hcs, rfl, rfl⟩
      · obtain ⟨out, s', ds, hds, hf, hg⟩ := ih s
        rw [logs_logs] at hf hg
        exact ⟨out, s', cs ++ ds, hmem hds, hf, hg⟩
      · simp only [Bool.false_eq_true, if_false]
        rcases Sink.write m (path m) s with ⟨e | _, s⟩
        · exact ⟨_, s, cs, hcs, rfl, rfl⟩
        · obtain ⟨out, s', ds, hds, hf, hg⟩ := ih s
          rw [logs_logs] at hf hg
          simp only [hf, hg]
          exact ⟨_, s', cs ++ ds, hmem hds, rfl, rfl⟩

end MemoryFolder

end MailWindow
