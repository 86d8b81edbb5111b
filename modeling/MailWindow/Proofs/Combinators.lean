import Mathlib.Data.List.Infix
import MailWindow.Folder.Stored

namespace MailWindow

namespace Text

theorem occursIn_iff_infix {part text : List Char} : occursIn part text = true ↔ part <:+: text := by
  induction text with
  | nil => rw [occursIn, List.isEmpty_iff, List.infix_nil]
  | cons c cs ih => rw [occursIn, Bool.or_eq_true, List.isPrefixOf_iff_prefix, ih, List.infix_cons_iff]

/-- Whether a part occurs in a text, in any case. -/
def Holds (text part : List Char) : Prop := toLowercase part <:+: toLowercase text

theorem containsIgnoringCase_iff {text part : List Char} :
    containsIgnoringCase text part = true ↔ Holds text part := occursIn_iff_infix

theorem lowercase_of_ascii {c : Char} (h : c.toNat < 128) :
    Character.lowercase c = [c.toLower] := by
  have hall : ∀ n < 128, Character.lowercase (Char.ofNat n) = [(Char.ofNat n).toLower] := by
    decide +kernel
  simpa only [Char.ofNat_toNat] using hall c.toNat h

theorem toLowercase_of_ascii {cs : List Char} (h : ∀ c ∈ cs, c.toNat < 128) :
    toLowercase cs = cs.map Char.toLower := by
  have hafter (before : List Char) : lowercaseAfter before cs = cs.map Char.toLower := by
    induction cs generalizing before with
    | nil => rfl
    | cons c cs ih =>
      have hc := h c List.mem_cons_self
      have hsigma : c ≠ 'Σ' := by
        rintro rfl
        exact absurd hc (by decide)
      rw [lowercaseAfter, if_neg hsigma, lowercase_of_ascii hc,
        ih fun d hd ↦ h d (List.mem_cons_of_mem c hd)]
      rfl
  exact hafter []

/-- To ignore case is to take the ASCII letters `A` to `Z` for `a` to `z`, in a text that has no
other characters. -/
theorem holds_iff_of_ascii {text part : List Char} (ht : ∀ c ∈ text, c.toNat < 128)
    (hp : ∀ c ∈ part, c.toNat < 128) :
    Holds text part ↔ part.map Char.toLower <:+: text.map Char.toLower := by
  rw [Holds, toLowercase_of_ascii ht, toLowercase_of_ascii hp]

example : Holds "Re: MINUTES of Äpril".toList "minutes OF ä".toList := by
  unfold Holds
  decide +kernel

end Text

namespace Query

variable {p q r : Query}

theorem eq_all_of_isAll (h : q.isAll = true) : q = all := by
  unfold isAll at h
  split at h
  · rfl
  · cases h

/-- The queries of which a query is the conjunction. -/
def members : Query → List Query
  | conj qs => qs
  | q => [q]

theorem members_of_ne_conj (h : ∀ qs, q ≠ conj qs) : q.members = [q] := by
  unfold members
  split
  · exact absurd rfl (h _)
  · rfl

theorem and_all (q : Query) : q.and all = q := by
  cases q <;> rfl

theorem and_eq_conj (hp : p.isAll = false) (hq : q.isAll = false) :
    p.and q = conj (p.members ++ q.members) := by
  unfold and
  split
  · cases hp
  · cases hq
  · rfl
  · next qs q _ hne => rw [members_of_ne_conj fun ps h ↦ hne ps h, members]
  · next p qs _ hne => rw [members_of_ne_conj fun ps h ↦ hne ps h, members, List.singleton_append]
  · next p q _ hp _ hq _ =>
    rw [members_of_ne_conj fun ps h ↦ hp ps h, members_of_ne_conj fun ps h ↦ hq ps h]
    rfl

theorem and_assoc (p q r : Query) : (p.and q).and r = p.and (q.and r) := by
  cases hp : p.isAll with
  | true =>
    obtain rfl := eq_all_of_isAll hp
    rfl
  | false =>
    cases hq : q.isAll with
    | true =>
      obtain rfl := eq_all_of_isAll hq
      rw [and_all]
      rfl
    | false =>
      cases hr : r.isAll with
      | true =>
        obtain rfl := eq_all_of_isAll hr
        rw [and_all, and_all]
      | false =>
        rw [and_eq_conj hp hq, and_eq_conj hq hr, and_eq_conj rfl hr, and_eq_conj hp rfl, members,
          members, List.append_assoc]

end Query

namespace Stored

open Query Text

variable (m : Stored)

theorem satisfiesEach_append (ps qs : List Query) :
    m.satisfiesEach (ps ++ qs) = (m.satisfiesEach ps && m.satisfiesEach qs) := by
  induction ps with
  | nil => rfl
  | cons p ps ih =>
    rw [List.cons_append, satisfiesEach, satisfiesEach, ih, Bool.and_assoc]

theorem satisfiesEach_members (q : Query) : m.satisfiesEach q.members = m.satisfies q := by
  unfold members
  split
  · rfl
  · exact Bool.and_true _

theorem satisfies_and (p q : Query) : m.satisfies (p.and q) = (m.satisfies p && m.satisfies q) := by
  cases hp : p.isAll with
  | true =>
    obtain rfl := eq_all_of_isAll hp
    rfl
  | false =>
    cases hq : q.isAll with
    | true =>
      obtain rfl := eq_all_of_isAll hq
      rw [and_all, satisfies, Bool.and_true]
    | false =>
      rw [and_eq_conj hp hq, satisfies, satisfiesEach_append, satisfiesEach_members,
        satisfiesEach_members]

theorem satisfies_foldl_or (q : Query) (qs : List Query) :
    m.satisfies (qs.foldl Query.or q) = true ↔ ∃ r ∈ q :: qs, m.satisfies r = true := by
  induction qs generalizing q with
  | nil => simp
  | cons r qs ih =>
    rw [List.foldl_cons, ih, Query.or]
    simp only [List.mem_cons, exists_eq_or_imp, satisfies, Bool.or_eq_true, or_assoc]

theorem satisfies_anyOf? {criterion : String → Query} {words : List String} {q : Query}
    (h : anyOf? (words.map criterion) = some q) :
    m.satisfies q = true ↔ ∃ word ∈ words, m.satisfies (criterion word) = true := by
  cases words with
  | nil => cases h
  | cons w ws =>
    obtain rfl := Option.some.inj h
    rw [satisfies_foldl_or, ← List.map_cons]
    simp only [List.mem_map, exists_exists_and_eq_and]

/-- A message mentions a word if it occurs in the subject or in the body, in any case. -/
def Mentions (word : String) : Prop :=
  (∃ subject, m.header? "subject" = some subject ∧ Holds subject.toList word.toList) ∨
    Holds m.body word.toList

theorem headerContains_iff {name part : String} : m.headerContains name part = true ↔
    ∃ value, m.header? name = some value ∧ Holds value.toList part.toList := by
  rw [headerContains, Option.any_eq_true]
  simp only [containsIgnoringCase_iff]

theorem mentions_iff (word : String) : m.Mentions word ↔
    m.satisfies (.subject word) = true ∨ m.satisfies (.body word) = true := by
  rw [satisfies, satisfies, headerContains_iff, containsIgnoringCase_iff, Mentions]

theorem satisfies_keywords (words : List String) : m.satisfies (keywords words) = true ↔
    words = [] ∨ ∃ word ∈ words, m.Mentions word := by
  cases words with
  | nil => exact iff_of_true rfl (.inl rfl)
  | cons w ws =>
    have hsubject : anyOf? ((w :: ws).map subject) = some _ := rfl
    have hbody : anyOf? ((w :: ws).map Query.body) = some _ := rfl
    change (m.satisfies _ || m.satisfies _) = true ↔ _
    rw [Bool.or_eq_true, m.satisfies_anyOf? hsubject, m.satisfies_anyOf? hbody,
      or_iff_right (List.cons_ne_nil w ws)]
    simp only [mentions_iff, and_or_left, exists_or]

end Stored

/-- Joining queries is associative, and the query that asks nothing is neutral to it. A message
matches joined queries, either of two queries, a negated query and a list of words as these say. -/
theorem Query.combinators_match :
    (∀ p q r : Query, (p.and q).and r = p.and (q.and r)) ∧
    (∀ q : Query, all.and q = q ∧ q.and all = q) ∧
    ∀ m : Stored,
      (∀ p q : Query, m.satisfies (p.and q) = true ↔
        m.satisfies p = true ∧ m.satisfies q = true) ∧
      (∀ p q : Query, m.satisfies (p.or q) = true ↔
        m.satisfies p = true ∨ m.satisfies q = true) ∧
      (∀ q : Query, m.satisfies q.not = true ↔ ¬m.satisfies q = true) ∧
      ∀ words : List String, m.satisfies (keywords words) = true ↔
        words = [] ∨ ∃ word ∈ words, m.Mentions word := by
  refine ⟨and_assoc, fun q ↦ ⟨rfl, and_all q⟩, fun m ↦ ⟨?_, ?_, ?_, m.satisfies_keywords⟩⟩
  · intro p q
    rw [m.satisfies_and, Bool.and_eq_true]
  · intro p q
    rw [Query.or, Stored.satisfies, Bool.or_eq_true]
  · intro q
    rw [Query.not, Stored.satisfies, Bool.not_eq_true', Bool.not_eq_true]

end MailWindow
