import MailWindow.Proofs.Decoding
import MailWindow.Proofs.Leases
import MailWindow.Proofs.Planning

namespace MailWindow

theorem Header.value?_encode (text : List Char) (name : String) :
    value? (Utf8.encode text) name =
      (find? name.toList (Text.lines text)).map .ofList := by
  rw [value?, Utf8.decode_encode]

namespace Reader

open MemoryFolder

variable {r r' : Reader MemoryFolder}

/-- How a call leaves a reader when it succeeds: nothing that is stored changes, the spec moves on,
and the folder is kept open as long as there is more to come or it was open before. -/
abbrev Advanced (r : Reader MemoryFolder) (returned : Nat) (reads : List Call)
    (r' : Reader MemoryFolder) : Prop :=
  r.Visited (r.following returned).isPending (r.following returned).spec reads r'

theorem fetchSummaries_of_yields (hf : r.folder.faults = []) (ht : r.spec.take ≠ .count 0)
    {found : List Summary} {reads : List Call}
    (hy : r.visit.plan.Yields r.config.searchCap r.spec.items
      (r.folder.opened r.config.folderAccess) found reads) :
    ∃ r', r.fetchSummaries = (.ok found, r') ∧ r.Advanced found.length reads r' := by
  obtain ⟨w, g, hw, hs⟩ := hy
  have hselect : Fault.select ∉ r.folder.faults := by simp [hf]
  have hclose : Fault.close ∉ r.folder.faults := by simp [hf]
  have hitems : r.visit.spec.items = r.spec.items := by
    rcases Spec.plan_spec_eq r.spec (Folder.count r.folder) r.config.searchCap with h | h <;>
      simp only [visit, h]
  have hwindow : r.inside.window r.visit = (.ok w, g) := hw
  have hs : w.summaries r.spec.items g = (.ok found, r.during reads) := hs
  refine ⟨_, ?_, r.visited_outside _ _ reads⟩
  simp only [fetchSummaries, Spec.isZero_eq_false ht, Bool.false_eq_true, if_false,
    enter_of_accessible (.inr hselect), hwindow, hitems, hs, leave_eq_outside hclose reads]

section Selections

theorem fetchSummaries_of_selection (hf : r.folder.faults = []) (ht : r.spec.take ≠ .count 0)
    {g : MemoryFolder} (hg : g = r.folder.opened r.config.folderAccess) {reads : List Call}
    (hy : (r.spec.plan (Folder.count g) r.config.searchCap).plan.Yields r.config.searchCap
      r.spec.items g (summarize r.spec.items (g.selection r.spec r.config.searchCap)) reads) :
    ∃ r', r.fetchSummaries =
        (.ok (summarize r.spec.items (r.folder.selection r.spec r.config.searchCap)), r') ∧
      r.Advanced (r.folder.selection r.spec r.config.searchCap).length reads r' := by
  have hstored : g.stored = r.folder.stored := hg ▸ stored_opened _ _
  rw [selection_of_stored hstored, count_of_stored hstored, hg] at hy
  have hcall := fetchSummaries_of_yields hf ht hy
  rwa [summarize, List.length_map] at hcall

variable (hf : r.folder.faults = []) (ht : r.spec.take ≠ .count 0)

include hf ht

theorem fetchSummaries_of_idRange (h : r.folder.ids.Pairwise (· < ·)) {range : IdRange}
    (hr : r.spec.idRange = some range) :
    ∃ r', r.fetchSummaries =
        (.ok (summarize r.spec.items (r.folder.selection r.spec r.config.searchCap)), r') ∧
      r.Advanced (r.folder.selection r.spec r.config.searchCap).length
        (if range.isInverted then [] else [.fetchIds (.range range)]) r' := by
  have hstored := stored_opened r.config.folderAccess r.folder
  exact fetchSummaries_of_selection hf ht rfl (yields_of_idRange
    ((faults_of_stored hstored).trans hf) (isOpen_opened _ _) (ids_of_stored hstored ▸ h) ht hr)

theorem fetchSummaries_of_query (h : r.folder.ids.Pairwise (· < ·)) (hr : r.spec.idRange = none)
    (hq : r.spec.query.isAll = false) :
    ∃ reads r', r.fetchSummaries =
        (.ok (summarize r.spec.items (r.folder.selection r.spec r.config.searchCap)), r') ∧
      r.Advanced (r.folder.selection r.spec r.config.searchCap).length reads r' := by
  have hstored := stored_opened r.config.folderAccess r.folder
  exact (yields_of_query ((faults_of_stored hstored).trans hf) (isOpen_opened _ _)
    (ids_of_stored hstored ▸ h) ht hr hq).imp fun _ hy ↦
      fetchSummaries_of_selection hf ht rfl hy

theorem fetchSummaries_of_position (hl : r.folder.messages.length < UInt32.size)
    (hr : r.spec.idRange = none) (hq : r.spec.query.isAll = true) :
    ∃ reads r', r.fetchSummaries =
        (.ok (summarize r.spec.items (r.folder.selection r.spec r.config.searchCap)), r') ∧
      r.Advanced (r.folder.selection r.spec r.config.searchCap).length reads r' := by
  have hstored := stored_opened r.config.folderAccess r.folder
  exact (yields_of_position ((faults_of_stored hstored).trans hf) (isOpen_opened _ _)
    (messages_of_stored hstored ▸ hl) ht hr hq).imp fun _ hy ↦
      fetchSummaries_of_selection hf ht rfl hy

/-- A call succeeds and shows what the spec selects, each message with its position and with all
that is requested of it, in ascending order and whoever has opened the folder; nothing that is
stored changes. -/
theorem fetchSummaries_shows_selection (h : r.folder.ids.Pairwise (· < ·))
    (hl : r.folder.messages.length < UInt32.size) :
    (∃ found r', r.fetchSummaries = (.ok found, r') ∧
      List.Forall₂ (fun e s ↦ e.1.Summarizes e.2 r.spec.items s)
        (r.folder.selection r.spec r.config.searchCap) found ∧
      r'.folder.stored = r.folder.stored) ∧
    (r.folder.selection r.spec r.config.searchCap).Pairwise fun a b ↦
      a.1.id < b.1.id ∧ a.2 < b.2 := by
  have hsublist := selection_sublist r.folder r.spec r.config.searchCap
  have hshown := forall₂_summarize (Nat.le_of_lt hl) r.spec.items hsublist
  refine ⟨?_, ((entries_pairwise_id h).and (entries_pairwise_snd r.folder)).sublist hsublist⟩
  cases hr : r.spec.idRange with
  | some range =>
    obtain ⟨r', he, ha⟩ := fetchSummaries_of_idRange hf ht h hr
    exact ⟨_, r', he, hshown, ha.stored⟩
  | none =>
    cases hq : r.spec.query.isAll with
    | false =>
      obtain ⟨_, r', he, ha⟩ := fetchSummaries_of_query hf ht h hr hq
      exact ⟨_, r', he, hshown, ha.stored⟩
    | true =>
      obtain ⟨_, r', he, ha⟩ := fetchSummaries_of_position hf ht hl hr hq
      exact ⟨_, r', he, hshown, ha.stored⟩

end Selections

def twoLetters : MemoryFolder where
  name := "INBOX"
  messages := [
    { id := ⟨4⟩
      raw := Utf8.encode <|
        ["Subject: Minutes", "From: sender1@example.com",
          "To: inbox@example.com, archive@example.com", "Date: Mon, 1 Jan 2024 10:00:00 +0100",
          "Message-ID: <1@example.com>", "", "Text."].flatMap fun line ↦ line.toList ++ ['\r', '\n']
      flags := ["\\Seen"]
      received := { seconds := 1704099700 } },
    { id := ⟨7⟩
      raw := Utf8.encode <|
        ["FROM: sender2@example.com", "Subject: Agenda", " for May", "", "Text."].flatMap fun line ↦
          line.toList ++ ['\n']
      received := { seconds := 1704186000 } }]

theorem fetchSummaries_shows_selection_twoLetters :
    let items := SummaryItems.ofList [.envelope, .internalDate, .size, .flags]
    let r : Reader MemoryFolder := { folder := twoLetters, spec := { items } }
    ∃ s t r', r.fetchSummaries = (.ok [s, t], r') ∧
      (s.index = 0 ∧ s.id = ⟨4⟩ ∧ s.subject = some "Minutes" ∧
        s.sender = some "sender1@example.com" ∧
        s.recipients = ["inbox@example.com", "archive@example.com"] ∧
        s.date = some { seconds := 1704099600 } ∧ s.size.map (·.toNat) = some 165 ∧
        s.flags = ["\\Seen"] ∧ s.messageId = some "<1@example.com>") ∧
      (t.index = 1 ∧ t.id = ⟨7⟩ ∧ t.subject = some "Agenda for May" ∧
        t.sender = some "sender2@example.com" ∧ t.recipients = [] ∧
        t.date = some { seconds := 1704186000 } ∧ t.size.map (·.toNat) = some 58 ∧
        t.flags = [] ∧ t.messageId = none) := by
  intro items r
  obtain ⟨⟨found, r', hfound, hshown, -⟩, -⟩ :=
    fetchSummaries_shows_selection (r := r) rfl (by decide) (by decide) (by decide)
  have hselection : r.folder.selection r.spec r.config.searchCap = twoLetters.entries := rfl
  rw [hselection] at hshown
  rcases hshown with _ | ⟨hs, _ | ⟨ht, _ | _⟩⟩
  refine ⟨_, _, r', hfound, ⟨UInt32.toNat_inj.mp hs.index, hs.id, ?_⟩,
    UInt32.toNat_inj.mp ht.index, ht.id, ?_⟩
  · rw [hs.subject, hs.sender, hs.recipients, hs.date, hs.size, hs.flags, hs.messageId]
    simp only [Header.value?_encode]
    decide +kernel
  · rw [ht.subject, ht.sender, ht.recipients, ht.date, ht.size, ht.flags, ht.messageId]
    simp only [Header.value?_encode]
    decide +kernel

end Reader

end MailWindow
