import MailWindow.Proofs.Ascending
import MailWindow.Proofs.Scanning

namespace MailWindow

namespace IdSet

variable {ids others : List MessageId} {id : MessageId}

theorem ascending_ofList (ids : List MessageId) : (ofList ids).IsAscending :=
  ascending_squeeze (pairwise_mergeSort_key (fun id ↦ id) ids)

theorem holds_ofList : (ofList ids).Holds id ↔ id ∈ ids := mem_squeeze.trans List.mem_mergeSort

theorem ofList_eq_iff : ofList others = ofList ids ↔ ∀ id, id ∈ others ↔ id ∈ ids := by
  constructor
  · intro h id
    rw [← holds_ofList, h, holds_ofList]
  · intro h
    apply congrArg list
    apply ascending_ext (ascending_ofList others) (ascending_ofList ids)
    intro id
    exact holds_ofList.trans ((h id).trans holds_ofList.symm)

theorem text_inj {s t : IdSet} : s.text = t.text ↔ s = t := by
  refine ⟨fun h ↦ ?_, congrArg text⟩
  have hread := congrArg Scanner.set? h
  rw [Scanner.set?_text, Scanner.set?_text] at hread
  exact Option.some.inj hread

/-- The set of a list is an ascending list without repetitions, in which exactly the identifiers of
the list are found by halving. Two lists make the same set, and the same text, just if they have the
same identifiers. -/
theorem ofList_faithful (ids : List MessageId) :
    (∃ l, ofList ids = list l ∧ l.Pairwise (· < ·)) ∧
    (∀ id, (ofList ids).contains id = true ↔ id ∈ ids) ∧
    ∀ others, (ofList others = ofList ids ↔ ∀ id, id ∈ others ↔ id ∈ ids) ∧
      ((ofList others).text = (ofList ids).text ↔ ∀ id, id ∈ others ↔ id ∈ ids) := by
  refine ⟨⟨_, rfl, ascending_ofList ids⟩, fun id ↦ ?_, fun others ↦ ⟨ofList_eq_iff, ?_⟩⟩
  · exact (contains_iff_holds (ascending_ofList ids) id).trans holds_ofList
  · exact text_inj.trans ofList_eq_iff

end IdSet

end MailWindow
