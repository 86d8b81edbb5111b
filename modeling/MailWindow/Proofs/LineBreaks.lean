import MailWindow.Proofs.Scanning

namespace MailWindow.Query

open Scanner

/-- A character that may not stand within a command. -/
def isBreak (c : Char) : Bool := c = '\r' || c = '\n' || c = '\x00'

def breaks (cs : List Char) : List Char := cs.filter isBreak

mutual

/-- The texts that are given to a query, in the order in which they are written. -/
def arguments : Query → List String
  | subject s | sender s | recipient s | body s | text s => [s]
  | header name value => [name, value]
  | conj qs => argumentsEach qs
  | disj p q => arguments p ++ arguments q
  | neg q => arguments q
  | _ => []

def argumentsEach : List Query → List String
  | [] => []
  | q :: qs => arguments q ++ argumentsEach qs

end

theorem breaks_append (s t : List Char) : breaks (s ++ t) = breaks s ++ breaks t :=
  List.filter_append s t

theorem breaks_cons {c : Char} (hc : isBreak c = false) (cs : List Char) :
    breaks (c :: cs) = breaks cs := List.filter_cons_of_neg (Bool.eq_false_iff.mp hc)

theorem breaks_eq_nil {cs : List Char} (h : ∀ c ∈ cs, isBreak c = false) : breaks cs = [] :=
  List.filter_eq_nil_iff.mpr fun c hc ↦ Bool.eq_false_iff.mp (h c hc)

theorem breaks_escaped (cs : List Char) : breaks (escaped cs) = breaks cs := by
  induction cs with
  | nil => rfl
  | cons c cs ih =>
    have hcons : breaks (c :: escaped cs) = breaks (c :: cs) := by
      rw [breaks, breaks, List.filter_cons, List.filter_cons]
      exact congrArg (fun l ↦ if isBreak c then c :: l else l) ih
    rw [escaped]
    split
    · rw [breaks_cons rfl, hcons]
    · exact hcons

theorem breaks_argument (s : String) : breaks (argument s) = breaks s.toList := by
  unfold argument
  split
  · rw [List.cons_append, breaks_cons rfl, breaks_append, breaks_escaped]
    exact List.append_nil _
  · rfl

theorem isBreak_of_isDigit {c : Char} (h : c.isDigit = true) : isBreak c = false := by
  apply Bool.eq_false_iff.mpr
  intro hbreak
  simp only [isBreak, Bool.or_eq_true, decide_eq_true_eq] at hbreak
  rcases hbreak with (rfl | rfl) | rfl <;> cases h

theorem breaks_digits (n : Nat) : breaks (Decimal.digits n) = [] :=
  breaks_eq_nil fun _ hc ↦ isBreak_of_isDigit (isDigit_of_mem_digits hc)

theorem breaks_set (set : IdSet) : breaks set.text = [] := by
  apply breaks_eq_nil
  intro c hc
  have hset := isSetChar_of_mem hc
  simp only [isSetChar, Bool.or_eq_true, decide_eq_true_eq] at hset
  rcases hset with (hdigit | rfl) | rfl
  · exact isBreak_of_isDigit hdigit
  · rfl
  · rfl

theorem breaks_searchText (d : Date) : breaks d.searchText = [] := by
  have hmonths : ∀ month < 13, breaks (Calendar.monthName month) = [] := by decide
  have hmonth := hmonths d.month (Nat.lt_succ_of_le (month_bounds d).2)
  have hpadded (n : Nat) : breaks (Decimal.padded 4 n) = [] :=
    breaks_eq_nil fun _ hc ↦ isBreak_of_isDigit (isDigit_of_mem_padded hc)
  have hyear : breaks (Calendar.yearText d.year) = [] := by
    unfold Calendar.yearText
    split
    · rw [breaks_cons rfl, hpadded]
    · split
      · exact hpadded _
      · rw [breaks_cons rfl, hpadded]
  rw [Date.searchText, breaks_append, breaks_append, breaks_cons rfl, breaks_cons rfl,
    breaks_digits, hmonth, hyear]
  rfl

def breaksOf (arguments : List String) : List Char := arguments.flatMap fun s ↦ breaks s.toList

theorem breaksOf_append (as bs : List String) : breaksOf (as ++ bs) = breaksOf as ++ breaksOf bs :=
  List.flatMap_append

section Criteria

variable {word : List Char} (hword : breaks word = [])

include hword

theorem breaks_bare {cs : List Char} (h : breaks cs = []) : breaks (word ++ cs) = breaksOf [] := by
  rw [breaks_append, hword, h]
  rfl

theorem breaks_applied (s : String) : breaks (word ++ argument s) = breaksOf [s] := by
  rw [breaks_append, hword, breaks_argument]
  exact (List.append_nil _).symm

end Criteria

mutual

theorem breaks_render : ∀ (nested : Bool) (q : Query),
    breaks (render nested q) = breaksOf q.arguments
  | _, .all | _, .seen | _, .unseen | _, .flagged | _, .answered | _, .deleted
  | _, .conj [] => rfl
  | _, .subject s => breaks_applied rfl s
  | _, .sender s => breaks_applied rfl s
  | _, .recipient s => breaks_applied rfl s
  | _, .body s => breaks_applied rfl s
  | _, .text s => breaks_applied rfl s
  | _, .header name value => by
    change breaks (("HEADER ".toList ++ argument name) ++ ' ' :: argument value) =
      breaksOf ([name] ++ [value])
    rw [breaks_append, breaks_applied rfl, breaks_cons rfl, breaks_argument, breaksOf_append]
    exact congrArg (breaksOf [name] ++ ·) (List.append_nil _).symm
  | _, .since d => breaks_bare rfl (breaks_searchText d)
  | _, .before d => breaks_bare rfl (breaks_searchText d)
  | _, .on d => breaks_bare rfl (breaks_searchText d)
  | _, .larger n => breaks_bare rfl (breaks_digits n.toNat)
  | _, .smaller n => breaks_bare rfl (breaks_digits n.toNat)
  | _, .ids known => breaks_bare rfl (breaks_set known)
  | nested, .conj [q] => by
    change breaks (render nested q) = breaksOf (q.arguments ++ [])
    rw [breaks_render nested q, List.append_nil]
  | nested, .conj (p :: q :: qs) => by
    let inner := render true p ++ renderTail (q :: qs)
    have hinner : breaks inner = breaksOf (p.arguments ++ argumentsEach (q :: qs)) := by
      rw [breaks_append, breaks_render, breaks_renderTail (q :: qs), breaksOf_append]
    change breaks (if nested then '(' :: inner ++ [')'] else inner) = _
    split
    · rw [List.cons_append, breaks_cons rfl, breaks_append, hinner]
      exact List.append_nil _
    · exact hinner
  | _, .disj p q => by
    change breaks (("OR ".toList ++ render true p) ++ ' ' :: render true q) =
      breaksOf (p.arguments ++ q.arguments)
    rw [breaks_append, breaks_append, breaks_cons rfl, breaks_render, breaks_render,
      breaksOf_append]
    rfl
  | _, .neg q => by
    change breaks ("NOT ".toList ++ render true q) = breaksOf q.arguments
    rw [breaks_append, breaks_render]
    rfl

theorem breaks_renderTail : ∀ qs : List Query, breaks (renderTail qs) = breaksOf (argumentsEach qs)
  | [] => rfl
  | q :: qs => by
    have htail : renderTail (q :: qs) = ' ' :: (render true q ++ renderTail qs) := rfl
    rw [htail, breaks_cons rfl, breaks_append, breaks_render, breaks_renderTail qs]
    exact (breaksOf_append _ _).symm

end

/-- The characters that would end a line stand in a written query as they do in its arguments, one
after the other. So the query is one line if and only if each argument is. -/
theorem breaks_toText (q : Query) :
    breaks q.toText.toList = q.arguments.flatMap (fun s ↦ breaks s.toList) ∧
      ((∀ c ∈ q.toText.toList, isBreak c = false) ↔
        ∀ s ∈ q.arguments, ∀ c ∈ s.toList, isBreak c = false) := by
  have hbreaks : breaks q.toText.toList = breaksOf q.arguments := by
    rw [toText, String.toList_ofList, breaks_render]
  have hiff (cs : List Char) : breaks cs = [] ↔ ∀ c ∈ cs, isBreak c = false := by
    rw [breaks, List.filter_eq_nil_iff]
    simp only [Bool.not_eq_true]
  refine ⟨hbreaks, ?_⟩
  rw [← hiff, hbreaks, breaksOf, List.flatMap_eq_nil_iff]
  exact ⟨fun h s hs ↦ (hiff s.toList).mp (h s hs), fun h s hs ↦ (hiff s.toList).mpr (h s hs)⟩

/-- A quoted argument keeps its line breaks, and what follows one reads as a command of its own. -/
theorem exists_break_toText : ∃ q : Query, q.toText = "SUBJECT \"a\r\nA2 LOGOUT\"" ∧
    ∃ c ∈ q.toText.toList, isBreak c = true :=
  ⟨.subject "a\r\nA2 LOGOUT", rfl, '\r', by decide, rfl⟩

end MailWindow.Query
