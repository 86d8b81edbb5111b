import MailWindow.Proofs.Histories
import MailWindow.Proofs.Retrievals

namespace MailWindow

namespace MemoryFolder

variable {f start : MemoryFolder} {cs : List Change}

section Single

theorem locate?_eq_none_iff (h : f.ids.Pairwise (· < ·)) {id : MessageId} :
    f.locate? id = none ↔ id ∉ f.ids := by
  constructor
  · intro hnone hid
    rw [← map_id_entries] at hid
    obtain ⟨e, he, rfl⟩ := List.mem_map.mp hid
    rw [locate?_of_mem h he] at hnone
    cases hnone
  · intro hid
    rw [locate?, Option.filter_eq_none_iff]
    intro p hp heq
    have hmem := mem_of_halve hp
    rw [indexed_eq_map_entries] at hmem
    obtain ⟨e, he, rfl⟩ := List.mem_map.mp hmem
    rw [← of_decide_eq_true heq, ← map_id_entries] at hid
    exact hid (List.mem_map_of_mem he)

theorem deliver_eq_none_iff {found : Option (Stored × UInt32)} :
    f.deliver found = .ok none ↔ found = none := by
  cases found with
  | none => exact ⟨fun _ ↦ rfl, fun _ ↦ rfl⟩
  | some p =>
    refine ⟨fun hnone ↦ ?_, fun hnone ↦ nomatch hnone⟩
    rw [deliver] at hnone
    cases hc : f.check (.message p.1.id) with
    | error e =>
      rw [hc] at hnone
      cases hnone
    | ok _ =>
      rw [hc] at hnone
      cases hnone

theorem messageById_eq_messageByIndex (h : f.ids.Pairwise (· < ·)) (ho : f.isOpen = true) {i : Nat}
    (hi : i < f.ids.length) :
    (Folder.messageById f.ids[i] f).1 = (Folder.messageByIndex (.ofNat i) f).1 := by
  have hlt : i < f.messages.length := Nat.lt_of_lt_of_eq hi (List.length_map _)
  have hentry : (f.messages[i], i) ∈ f.entries :=
    List.mem_zipIdx_iff_getElem?.mpr (List.getElem?_eq_getElem hlt)
  have hid : f.ids[i] = f.messages[i].id := List.getElem_map _
  have hindex : (UInt32.ofNat i).toNat = i := toNat_ofNat_snd (length_le_size h) hentry
  rw [messageById_of_open ho, messageByIndex_of_open ho, hid, locate?_of_mem h hentry, hindex,
    List.getElem?_eq_getElem hlt]
  rfl

theorem messageById_eq_none_iff (h : f.ids.Pairwise (· < ·)) (ho : f.isOpen = true)
    (id : MessageId) : (Folder.messageById id f).1 = .ok none ↔ id ∉ f.ids := by
  rw [messageById_of_open ho, deliver_eq_none_iff, locate?_eq_none_iff h]

end Single

section Listed

theorem filter_whole (h : f.ids.Pairwise (· < ·)) {range : IndexRange} (hstart : range.start = 0)
    (hstop : f.ids.length ≤ range.stop.toNat + 1) :
    f.entries.filter (fun e ↦ range.contains (.ofNat e.2)) = f.entries := by
  rw [ids, List.length_map] at hstop
  refine List.filter_eq_self.mpr fun e he ↦ ?_
  have hlt := snd_lt_of_mem_entries he
  rw [IndexRange.contains, hstart, Bool.and_eq_true, decide_eq_true_eq, decide_eq_true_eq,
    UInt32.le_iff_toNat_le, UInt32.le_iff_toNat_le, toNat_ofNat_snd (length_le_size h) he]
  exact ⟨Nat.zero_le _, by omega⟩

theorem summarize_filter_contains {set : IdSet} (hset : set.IsAscending) (items : SummaryItems)
    (es : List (Stored × Nat)) : summarize items (es.filter fun e ↦ set.contains e.1.id) =
      (summarize items es).filter fun s ↦ set.Holds s.id := by
  rw [summarize, summarize, List.filter_map]
  congr 1
  refine List.filter_congr fun e _ ↦ Bool.eq_iff_iff.mpr ?_
  exact (IdSet.contains_iff_holds hset e.1.id).trans decide_eq_true_iff.symm

end Listed

/-- Where messages are inserted by increasing identifiers and pushed only below the largest one, the
identifiers ascend at any time. While the folder is open, a message is found by its identifier as it
is at its position, with the same outcome, and nothing is found just where no message has the
identifier; and those listed by identifier are those listed by position that belong to the set. -/
theorem lookups_coherent (h : start.ids.Pairwise (· < ·))
    (hc : start.Throughout (fun f c ↦ c.Increasing f ∧ c.Spared f) cs) :
    let f := start.after cs
    f.ids.Pairwise (· < ·) ∧ (f.isOpen = true →
      (∀ (i : Nat) (hi : i < f.ids.length),
        (Folder.messageById f.ids[i] f).1 = (Folder.messageByIndex (.ofNat i) f).1) ∧
      (∀ id, (Folder.messageById id f).1 = .ok none ↔ id ∉ f.ids) ∧
      ∀ (set : IdSet) (range : IndexRange) items, set.IsAscending → range.start = 0 →
        f.ids.length ≤ range.stop.toNat + 1 → ∃ all, all.map (·.id) = f.ids ∧
          (Folder.fetchIndices range items f).1 = (f.check .fetch).map (fun _ ↦ all) ∧
          (Folder.fetchIds set items f).1 =
            (f.check .fetch).map fun _ ↦ all.filter fun s ↦ set.Holds s.id) := by
  intro f
  have hasc : f.ids.Pairwise (· < ·) :=
    pairwise_after (fun _ _ h hc ↦ Change.Increasing.lt_added h hc.1 hc.2) h hc
  refine ⟨hasc, fun ho ↦ ⟨fun i hi ↦ messageById_eq_messageByIndex hasc ho hi,
    messageById_eq_none_iff hasc ho, fun set range items hset hstart hstop ↦ ?_⟩⟩
  refine ⟨summarize items f.entries, ?_, ?_, ?_⟩
  · rw [map_id_summarize, map_id_entries]
  · rw [fetchIndices_checked ho, filter_whole hasc hstart hstop]
  · rw [fetchIds_checked ho, summarize_filter_contains hset]

theorem lookups_coherent_gapped :
    let start : MemoryFolder := { name := "Archive" }
    let cs : List Change := [.push [] { seconds := 0 }, .insert ⟨5⟩ [] { seconds := 0 },
      .push [] { seconds := 0 }, .select .readWrite, .setFlags ⟨5⟩ ["\\Deleted"], .close true,
      .inject .fetch, .clearFaults, .select .readOnly]
    let f := start.after cs
    let set : IdSet := .list [⟨5⟩, ⟨6⟩]
    f.ids = [⟨1⟩, ⟨6⟩] ∧
      (Folder.messageById ⟨6⟩ f).1 = (Folder.messageByIndex 1 f).1 ∧
      (Folder.messageById ⟨5⟩ f).1 = .ok none ∧
      ∃ all, all.map (·.id) = f.ids ∧
        (Folder.fetchIndices ⟨0, 1, by decide⟩ .envelope f).1 = .ok all ∧
        (Folder.fetchIds set .envelope f).1 = .ok (all.filter fun s ↦ set.Holds s.id) := by
  intro start cs f set
  obtain ⟨-, hopen⟩ := @lookups_coherent start cs .nil (by decide)
  obtain ⟨hfound, hmissing, hlisted⟩ := hopen rfl
  have hids : f.ids = [⟨1⟩, ⟨6⟩] := by decide
  have hasc : set.IsAscending := List.pairwise_pair.mpr (by decide)
  obtain ⟨all, hall, hrange, hset⟩ := hlisted set ⟨0, 1, by decide⟩ .envelope hasc rfl (by decide)
  exact ⟨hids, hfound 1 (by decide), (hmissing ⟨5⟩).mpr (by decide), all, hall, hrange, hset⟩

end MemoryFolder

end MailWindow
