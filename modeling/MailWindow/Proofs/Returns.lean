import MailWindow.Text.LineEndings

namespace MailWindow.LineEndings

variable {previous : UInt8} {bs : List UInt8}

def isBare (previous b : UInt8) : Bool := b = 10 && previous ≠ 13

theorem eq_of_isBare {b : UInt8} (h : isBare previous b = true) : b = 10 :=
  of_decide_eq_true (Bool.and_eq_true_iff.mp h).1

theorem eq_return_of_not_bare (h : isBare previous 10 = false) : previous = 13 :=
  Decidable.not_not.mp (of_decide_eq_false h)

theorem isBare_return (previous : UInt8) : isBare previous 13 = false := rfl

theorem isBare_of_return (b : UInt8) : isBare 13 b = false := Bool.and_false _

def baresAfter (previous : UInt8) (bs : List UInt8) : Nat :=
  (bs.zip (previous :: bs)).countP fun p ↦ isBare p.2 p.1

theorem bareCount_eq (bs : List UInt8) : bareCount bs = baresAfter 0 bs := rfl

theorem baresAfter_cons (previous b : UInt8) (bs : List UInt8) :
    baresAfter previous (b :: bs) = baresAfter b bs + (isBare previous b).toNat := by
  rw [baresAfter, List.zip_cons_cons, List.countP_cons]
  cases isBare previous b <;> rfl

theorem insertReturns_of_bare {b : UInt8} (h : isBare previous b = true) (bs : List UInt8) :
    insertReturns previous (b :: bs) = 13 :: b :: insertReturns b bs := if_pos h

theorem insertReturns_of_not_bare {b : UInt8} (h : isBare previous b = false) (bs : List UInt8) :
    insertReturns previous (b :: bs) = b :: insertReturns b bs := if_neg (Bool.eq_false_iff.mp h)

section Counting

theorem baresAfter_cons_eq_zero {b : UInt8} (h : baresAfter previous (b :: bs) = 0) :
    isBare previous b = false ∧ baresAfter b bs = 0 := by
  rw [baresAfter_cons, Nat.add_eq_zero_iff] at h
  exact ⟨Bool.toNat_eq_zero.mp h.2, h.1⟩

theorem insertReturns_of_baresAfter_eq_zero (h : baresAfter previous bs = 0) :
    insertReturns previous bs = bs := by
  induction bs generalizing previous with
  | nil => rfl
  | cons b bs ih =>
    obtain ⟨hb, hbs⟩ := baresAfter_cons_eq_zero h
    rw [insertReturns_of_not_bare hb, ih hbs]

theorem baresAfter_insertReturns (previous : UInt8) (bs : List UInt8) :
    baresAfter previous (insertReturns previous bs) = 0 := by
  induction bs generalizing previous with
  | nil => rfl
  | cons b bs ih =>
    cases hb : isBare previous b with
    | true =>
      rw [insertReturns_of_bare hb, baresAfter_cons, baresAfter_cons, ih b, isBare_return,
        isBare_of_return]
      rfl
    | false =>
      rw [insertReturns_of_not_bare hb, baresAfter_cons, ih b, hb]
      rfl

theorem length_insertReturns (previous : UInt8) (bs : List UInt8) :
    (insertReturns previous bs).length = bs.length + baresAfter previous bs := by
  induction bs generalizing previous with
  | nil => rfl
  | cons b bs ih =>
    rw [baresAfter_cons, List.length_cons]
    cases hb : isBare previous b with
    | true =>
      rw [insertReturns_of_bare hb, List.length_cons, List.length_cons, ih, Bool.toNat_true]
      omega
    | false =>
      rw [insertReturns_of_not_bare hb, List.length_cons, ih, Bool.toNat_false]
      omega

theorem preceded_of_baresAfter_eq_zero (h : baresAfter previous bs = 0) {i : Nat}
    (hi : bs[i]? = some 10) : (previous :: bs)[i]? = some 13 := by
  induction bs generalizing previous i with
  | nil => cases hi
  | cons b bs ih =>
    obtain ⟨hb, hbs⟩ := baresAfter_cons_eq_zero h
    cases i with
    | zero =>
      obtain rfl := Option.some.inj hi
      exact congrArg some (eq_return_of_not_bare hb)
    | succ i => exact ih hbs hi

end Counting

theorem toCrlf_eq_insertReturns (bs : List UInt8) : toCrlf bs = insertReturns 0 bs := by
  unfold toCrlf
  split
  · next h => exact (insertReturns_of_baresAfter_eq_zero h).symm
  · rfl

/-- The text with a carriage return put before each line feed that follows none. -/
def withReturns (bs : List UInt8) : List UInt8 :=
  (bs.zip (0 :: bs)).flatMap fun p ↦ if p.1 = 10 ∧ p.2 ≠ 13 then [13, 10] else [p.1]

theorem toCrlf_eq_withReturns (bs : List UInt8) : toCrlf bs = withReturns bs := by
  have hrest (previous : UInt8) (bs : List UInt8) : insertReturns previous bs =
      (bs.zip (previous :: bs)).flatMap fun p ↦ if p.1 = 10 ∧ p.2 ≠ 13 then [13, 10] else [p.1] := by
    induction bs generalizing previous with
    | nil => rfl
    | cons b bs ih =>
      rw [List.zip_cons_cons, List.flatMap_cons, ← ih b]
      by_cases hb : b = 10 ∧ previous ≠ 13
      · rw [if_pos hb, insertReturns_of_bare (by simpa [isBare] using hb), hb.1]
        rfl
      · rw [if_neg hb, insertReturns_of_not_bare (by simpa [isBare] using hb)]
        rfl
  rw [toCrlf_eq_insertReturns, hrest, withReturns]

section Removal

def toLf : List UInt8 → List UInt8
  | 13 :: 10 :: bs => 10 :: toLf bs
  | b :: bs => b :: toLf bs
  | [] => []

theorem toLf_insertReturns (previous : UInt8) (bs : List UInt8) :
    toLf (insertReturns previous bs) = toLf bs := by
  fun_induction toLf bs generalizing previous with
  | case1 bs ih =>
    rw [insertReturns_of_not_bare (isBare_return previous),
      insertReturns_of_not_bare (isBare_of_return 10), toLf, ih]
  | case2 b bs hne ih =>
    cases hb : isBare previous b with
    | true =>
      obtain rfl := eq_of_isBare hb
      rw [insertReturns_of_bare hb, toLf, ih]
    | false =>
      rw [insertReturns_of_not_bare hb, toLf, ih]
      -- after a carriage return the next byte stays, and it is no line feed
      rintro cs rfl hcs
      cases bs with
      | nil => cases hcs
      | cons c bs =>
        rw [insertReturns_of_not_bare (isBare_of_return c)] at hcs
        exact hne bs rfl (congrArg (· :: bs) (List.cons.inj hcs).1)
  | case3 => rfl

def picked {α : Type} (mark : Bool) (marks : List Bool) (l : List α) : List α :=
  ((l.zip marks).filter (·.2 = mark)).map Prod.fst

/-- Which bytes of the converted text are inserted: one right before each bare line feed. -/
def insertions (previous : UInt8) (bs : List UInt8) : List Bool :=
  (bs.zip (previous :: bs)).flatMap fun p ↦ if isBare p.2 p.1 then [true, false] else [false]

theorem insertions_cons (previous b : UInt8) (bs : List UInt8) :
    insertions previous (b :: bs) =
      (if isBare previous b then [true, false] else [false]) ++ insertions b bs := by
  rw [insertions, List.zip_cons_cons, List.flatMap_cons]
  rfl

theorem picked_kept (previous : UInt8) (bs : List UInt8) :
    picked false (insertions previous bs) (insertReturns previous bs) = bs := by
  induction bs generalizing previous with
  | nil => rfl
  | cons b bs ih =>
    rw [insertions_cons]
    cases hb : isBare previous b with
    | true =>
      rw [insertReturns_of_bare hb]
      exact congrArg (b :: ·) (ih b)
    | false =>
      rw [insertReturns_of_not_bare hb]
      exact congrArg (b :: ·) (ih b)

theorem picked_inserted (previous : UInt8) (bs : List UInt8) :
    picked true (insertions previous bs) (insertReturns previous bs) =
      List.replicate (baresAfter previous bs) 13 := by
  induction bs generalizing previous with
  | nil => rfl
  | cons b bs ih =>
    rw [insertions_cons, baresAfter_cons]
    cases hb : isBare previous b with
    | true =>
      rw [insertReturns_of_bare hb]
      exact congrArg (13 :: ·) (ih b)
    | false =>
      rw [insertReturns_of_not_bare hb]
      exact ih b

end Removal

/-- In the converted text a carriage return stands before each line feed. It is the text with a
carriage return put in for each bare line feed: without what was put in it is the text again, and with
all two-byte endings turned back it is the text turned back. To convert it again changes nothing. -/
theorem toCrlf_lossless (bs : List UInt8) :
    (∀ i : Nat, (toCrlf bs)[i]? = some 10 → ∃ j, i = j + 1 ∧ (toCrlf bs)[j]? = some 13) ∧
    (picked false (insertions 0 bs) (toCrlf bs) = bs ∧
      picked true (insertions 0 bs) (toCrlf bs) = List.replicate (bareCount bs) 13) ∧
    toLf (toCrlf bs) = toLf bs ∧
    toCrlf (toCrlf bs) = toCrlf bs ∧
    (toCrlf bs).length = bs.length + bareCount bs ∧
    toCrlf bs = insertReturns 0 bs := by
  have hnone := baresAfter_insertReturns 0 bs
  have heq := toCrlf_eq_insertReturns bs
  refine ⟨fun i hi ↦ ?_, ⟨?_, ?_⟩, ?_, ?_, ?_, heq⟩
  · rw [heq] at hi ⊢
    have hbefore := preceded_of_baresAfter_eq_zero hnone hi
    cases i with
    | zero => cases hbefore
    | succ j => exact ⟨j, rfl, hbefore⟩
  · rw [heq, picked_kept]
  · rw [heq, picked_inserted, bareCount_eq]
  · rw [heq, toLf_insertReturns]
  · rw [toCrlf_eq_insertReturns (toCrlf bs), heq, insertReturns_of_baresAfter_eq_zero hnone]
  · rw [heq, length_insertReturns, bareCount_eq]

example : toCrlf [10, 97, 13, 10, 13, 13, 10, 10] = [13, 10, 97, 13, 10, 13, 13, 10, 13, 10] := by
  decide

end MailWindow.LineEndings
