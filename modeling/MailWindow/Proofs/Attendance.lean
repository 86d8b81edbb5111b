import MailWindow.Proofs.Readings

namespace MailWindow

namespace Reader

open MemoryFolder

universe u

variable {α : Type u} {r s : Reader MemoryFolder}

def keeps (r : Reader MemoryFolder) : Ending → Bool
  | .done returned => (r.following returned).isPending
  | .failed => false
  | .dropped => true

def specAfter (r : Reader MemoryFolder) : Ending → Spec
  | .done returned => (r.following returned).spec
  | .failed | .dropped => r.spec

theorem endVisit_eq_outside (hc : Fault.close ∉ r.folder.faults) (reads : List Call) (e : Ending) :
    { r.inside with folder := r.during reads }.endVisit r.visit e =
      r.outside (r.keeps e) (r.specAfter e) reads := by
  cases e with
  | done returned => exact leave_eq_outside hc reads returned
  | failed => exact giveUp_eq_outside hc reads
  | dropped =>
    simp only [endVisit, outside, keeps, specAfter, Bool.or_true, if_true, Bool.and_true]
    rfl

section Attend

variable {idle : α} {refusal : Error → α}
  {errand : Reader MemoryFolder → Visit → (α × Ending) × MemoryFolder}

theorem attend_of_accessible (hf : r.folder.Accessible) (hc : Fault.close ∉ r.folder.faults)
    (ht : r.spec.take.isZero = false) {a : α} {ending : Ending} {reads : List Call}
    (he : errand r.inside r.visit = ((a, ending), r.during reads)) :
    r.attend idle refusal errand =
      (a, r.outside (r.keeps ending) (r.specAfter ending) reads) := by
  simp only [attend, ht, Bool.false_eq_true, if_false, enter_of_accessible hf, he,
    endVisit_eq_outside hc]

theorem attend_of_not_accessible (hf : ¬r.folder.Accessible) (ht : r.spec.take.isZero = false) :
    ∃ e, r.attend idle refusal errand = (refusal e, r.refused) := by
  obtain ⟨e, he⟩ := enter_of_not_accessible hf
  exact ⟨e, by simp only [attend, ht, Bool.false_eq_true, if_false, he]⟩

end Attend

/-- Readers that would find the same in the same folder. It may be open for one and closed for the
other, but it is not borrowed by one alone. -/
structure Akin (r s : Reader MemoryFolder) : Prop where
  spec : s.spec = r.spec
  config : s.config = r.config
  stored : s.folder.stored = r.folder.stored
  borrowed : s.borrowed = r.borrowed

namespace Akin

theorem refl (r : Reader MemoryFolder) : r.Akin r := ⟨rfl, rfl, rfl, rfl⟩

theorem visit_eq (h : r.Akin s) : s.visit = r.visit := by
  simp only [visit, h.spec, h.config, h.borrowed, count_of_stored h.stored]

theorem following_eq (h : r.Akin s) : s.following = r.following := by
  funext returned
  simp only [following, h.spec, h.config, count_of_stored h.stored]

theorem keeps_eq (h : r.Akin s) : s.keeps = r.keeps := by
  funext e
  cases e <;> simp only [keeps, h.following_eq]

theorem specAfter_eq (h : r.Akin s) : s.specAfter = r.specAfter := by
  funext e
  cases e <;> simp only [specAfter, h.following_eq, h.spec]

theorem twins_inside (h : r.Akin s) : r.inside.folder.Twins s.inside.folder :=
  ⟨((stored_opened _ _).trans h.stored).trans (stored_opened _ _).symm, isOpen_opened _ _,
    isOpen_opened _ _⟩

theorem visited (h : r.Akin s) {kept kept' : Bool} {spec : Spec} {cs ds : List Call}
    {r' s' : Reader MemoryFolder} (hr : r.Visited kept spec cs r')
    (hs : s.Visited kept' spec ds s') : r'.Akin s' :=
  ⟨hs.spec.trans hr.spec.symm, (hs.config.trans h.config).trans hr.config.symm,
    (hs.stored.trans h.stored).trans hr.stored.symm,
    (hs.borrowed_eq.trans h.borrowed).trans hr.borrowed_eq.symm⟩

end Akin

end Reader

end MailWindow
