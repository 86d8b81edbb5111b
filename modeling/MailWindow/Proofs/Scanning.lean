import MailWindow.Calendar.MailDate
import MailWindow.Query.Rendering

namespace MailWindow

namespace Scanner

variable {α β : Type}

/-- What may follow a criterion: nothing, a space, or the end of a group. -/
def Stops (rest : List Char) : Prop := ∀ c ∈ rest.head?, c = ' ' ∨ c = ')'

theorem stops_space (cs : List Char) : Stops (' ' :: cs) := by
  rintro c ⟨⟩
  exact .inl rfl

/-- A scanner takes a text for a value, and leaves whatever follows. -/
def Reads (p : Scanner α) (text : List Char) (a : α) : Prop :=
  ∀ rest, Stops rest → p (text ++ rest) = some (a, rest)

theorem bind_eq (p : Scanner α) (k : α → Scanner β) (cs : List Char) :
    (p >>= k) cs = (p cs).bind fun x ↦ k x.1 x.2 := rfl

theorem map_eq (f : α → β) (p : Scanner α) (cs : List Char) :
    (f <$> p) cs = (p cs).map fun x ↦ (f x.1, x.2) := by
  change ((p cs).bind fun x ↦ some (f x.1, x.2)) = _
  cases p cs <;> rfl

theorem reads_pure (a : α) : Reads (pure a) [] a := fun _ _ ↦ rfl

theorem Reads.map {p : Scanner α} {text : List Char} {a : α} (h : Reads p text a) (f : α → β) :
    Reads (f <$> p) text (f a) := by
  intro rest hrest
  rw [map_eq, h rest hrest, Option.map_some]

def checked (p : Scanner α) (f : α → Option β) : Scanner β := do
  let a ← p
  StateT.lift (f a)

theorem Reads.checked {p : Scanner α} {text : List Char} {a : α} (h : Reads p text a)
    {f : α → Option β} {b : β} (hb : f a = some b) : Reads (checked p f) text b := by
  intro rest hrest
  rw [Scanner.checked, bind_eq, h rest hrest, Option.bind_some, hb]
  rfl

def spaced (p : Scanner α) : Scanner α := do
  mark ' '
  p

theorem Reads.spaced {p : Scanner α} {text : List Char} {a : α} (h : Reads p text a) :
    Reads (spaced p) (' ' :: text) a := h

def both (f : α → α → β) (p : Scanner α) : Scanner β := do
  let a ← p
  let b ← spaced p
  pure (f a b)

theorem Reads.both {p : Scanner α} {s t : List Char} {a b : α} (ha : Reads p s a)
    (hb : Reads p t b) (f : α → α → β) : Reads (both f p) (s ++ ' ' :: t) (f a b) := by
  intro rest hrest
  rw [List.append_assoc, Scanner.both, bind_eq, List.cons_append, ha _ (stops_space _),
    Option.bind_some, bind_eq]
  have hread := hb.spaced rest hrest
  rw [List.cons_append] at hread
  rw [hread]
  rfl

section Pieces

variable {kind : Char → Bool} {text rest : List Char}

theorem piece_append (htext : ∀ c ∈ text, kind c = true)
    (hrest : ∀ c ∈ rest.head?, kind c = false) : piece kind (text ++ rest) = some (text, rest) := by
  have hnone : rest.takeWhile kind = [] ∧ rest.dropWhile kind = rest := by
    cases rest with
    | nil => exact ⟨rfl, rfl⟩
    | cons c cs =>
      have hc := hrest c rfl
      exact ⟨List.takeWhile_cons_of_neg (by simp [hc]), List.dropWhile_cons_of_neg (by simp [hc])⟩
  rw [piece, List.takeWhile_append_of_pos htext, List.dropWhile_append_of_pos htext, hnone.1,
    hnone.2, List.append_nil]

theorem reads_piece (htext : ∀ c ∈ text, kind c = true) (hspace : kind ' ' = false)
    (hclose : kind ')' = false) : Reads (piece kind) text text := by
  intro rest hrest
  apply piece_append htext
  intro c hc
  rcases hrest c hc with rfl | rfl
  · exact hspace
  · exact hclose

end Pieces

section Numbers

theorem isDigit_of_mem_digits {n : Nat} {c : Char} (h : c ∈ Decimal.digits n) :
    c.isDigit = true := Nat.isDigit_of_mem_toDigits (by decide) (by decide) h

theorem digits_ne_nil (n : Nat) : Decimal.digits n ≠ [] := Nat.toDigits_ne_nil

theorem valueOf_eq_ofDigitChars (ds : List Char) : valueOf ds = Nat.ofDigitChars 10 ds 0 := by
  rw [Nat.ofDigitChars_eq_foldl, valueOf]
  congr 1
  funext n d
  rw [Nat.mul_comm]
  rfl

theorem valueOf_digits (n : Nat) : valueOf (Decimal.digits n) = n := by
  rw [valueOf_eq_ofDigitChars]
  exact Nat.ofDigitChars_ten_toDigits

theorem valueOf_padded (width n : Nat) : valueOf (Decimal.padded width n) = n := by
  rw [valueOf_eq_ofDigitChars, Decimal.padded, List.leftpad, Nat.ofDigitChars_append,
    Nat.ofDigitChars_replicate_zero, Nat.mul_zero]
  exact Nat.ofDigitChars_ten_toDigits

theorem isDigit_of_mem_padded {width n : Nat} {c : Char} (h : c ∈ Decimal.padded width n) :
    c.isDigit = true := by
  rcases List.mem_append.mp h with h | h
  · obtain rfl := List.eq_of_mem_replicate h
    rfl
  · exact isDigit_of_mem_digits h

def word? (ds : List Char) : Option UInt32 :=
  if !ds.isEmpty && ds.all Char.isDigit && valueOf ds < UInt32.size then some (.ofNat (valueOf ds))
  else none

theorem word?_digits (n : UInt32) : word? (Decimal.digits n.toNat) = some n := by
  have hdigits : (Decimal.digits n.toNat).all Char.isDigit = true :=
    List.all_eq_true.mpr fun _ ↦ isDigit_of_mem_digits
  rw [word?, valueOf_digits, hdigits, UInt32.ofNat_toNat]
  simp [digits_ne_nil, n.toNat_lt_size]

theorem reads_digits (n : Nat) : Reads (piece Char.isDigit) (Decimal.digits n) (Decimal.digits n) :=
  reads_piece (fun _ ↦ isDigit_of_mem_digits) rfl rfl

def number : Scanner UInt32 := checked (piece Char.isDigit) word?

theorem reads_number (n : UInt32) : Reads number (Decimal.digits n.toNat) n :=
  (reads_digits n.toNat).checked (word?_digits n)

end Numbers

section Days

def sign : Scanner Int := (mark '-' *> pure (-1)) <|> (mark '+' *> pure 1) <|> pure 1

def year : Scanner Int := do
  let s ← sign
  let ds ← piece Char.isDigit
  pure (s * valueOf ds)

def date : Scanner Date := do
  let day ← piece Char.isDigit
  mark '-'
  let month ← MailDate.name Calendar.monthNames
  mark '-'
  let year ← year
  StateT.lift (Date.of? year (month + 1) (valueOf day))

theorem month_bounds (d : Date) : 1 ≤ d.month ∧ d.month ≤ 12 := by
  have hpos := Nat.le_trans d.one_le_day d.day_le
  unfold Calendar.daysInMonth at hpos
  split at hpos <;> omega

theorem name_monthName {month : Nat} (hlow : 1 ≤ month) (hhigh : month ≤ 12) (rest : List Char) :
    MailDate.name Calendar.monthNames (Calendar.monthName month ++ rest) =
      some (month - 1, rest) := by
  obtain rfl | rfl | rfl | rfl | rfl | rfl | rfl | rfl | rfl | rfl | rfl | rfl :
    month = 1 ∨ month = 2 ∨ month = 3 ∨ month = 4 ∨ month = 5 ∨ month = 6 ∨ month = 7 ∨
      month = 8 ∨ month = 9 ∨ month = 10 ∨ month = 11 ∨ month = 12 := by omega
  all_goals rfl

theorem sign_of_digit {c : Char} (hc : c.isDigit = true) (cs : List Char) :
    sign (c :: cs) = some (1, c :: cs) := by
  have hmark {m : Char} (hm : m.isDigit = false) : mark m (c :: cs) = none := by
    refine if_neg fun heq ↦ ?_
    obtain rfl := Option.some.inj heq
    exact Bool.eq_false_iff.mp hm hc
  have hminus : (mark '-' *> pure (-1) : Scanner Int) (c :: cs) = none := by
    change (mark '-' (c :: cs)).bind _ = none
    rw [hmark rfl, Option.bind_none]
  have hplus : (mark '+' *> pure 1 : Scanner Int) (c :: cs) = none := by
    change (mark '+' (c :: cs)).bind _ = none
    rw [hmark rfl, Option.bind_none]
  change ((mark '-' *> pure (-1) : Scanner Int) (c :: cs)).orElse (fun _ ↦
    ((mark '+' *> pure 1 : Scanner Int) (c :: cs)).orElse fun _ ↦ some (1, c :: cs)) = _
  rw [hminus, hplus]
  rfl

theorem reads_year (y : Int) : Reads year (Calendar.yearText y) y := by
  intro rest hrest
  have hpiece : piece Char.isDigit (Decimal.padded 4 y.natAbs ++ rest) =
      some (Decimal.padded 4 y.natAbs, rest) :=
    reads_piece (fun _ ↦ isDigit_of_mem_padded) rfl rfl rest hrest
  have hyear {cs : List Char} {s : Int}
      (hsign : sign cs = some (s, Decimal.padded 4 y.natAbs ++ rest)) (hs : s * y.natAbs = y) :
      year cs = some (y, rest) := by
    rw [year, bind_eq, hsign, Option.bind_some, bind_eq, hpiece, Option.bind_some,
      valueOf_padded, hs]
    rfl
  unfold Calendar.yearText
  split
  · exact hyear (s := -1) rfl (by omega)
  · split
    · apply hyear (s := 1) ?_ (by omega)
      cases hds : Decimal.padded 4 y.natAbs with
      | nil =>
        have hnil := (List.append_eq_nil_iff.mp hds).2
        exact absurd hnil (digits_ne_nil _)
      | cons d ds =>
        exact sign_of_digit (isDigit_of_mem_padded (hds ▸ List.mem_cons_self)) _
    · exact hyear (s := 1) rfl (by omega)

theorem of?_eq_some (d : Date) : Date.of? d.year d.month d.day = some d :=
  dif_pos ⟨d.one_le_day, d.day_le⟩

theorem reads_date (d : Date) : Reads date d.searchText d := by
  intro rest hrest
  obtain ⟨hlow, hhigh⟩ := month_bounds d
  have hday (cs : List Char) : piece Char.isDigit (Decimal.digits d.day ++ '-' :: cs) =
      some (Decimal.digits d.day, '-' :: cs) := by
    apply piece_append fun _ ↦ isDigit_of_mem_digits
    rintro c ⟨⟩
    rfl
  have hyear := reads_year d.year rest hrest
  have hdash (cs : List Char) : mark '-' ('-' :: cs) = some ((), cs) := rfl
  simp only [Date.searchText, List.append_assoc, List.cons_append]
  rw [date, bind_eq, hday, Option.bind_some, bind_eq, hdash, Option.bind_some, bind_eq,
    name_monthName hlow hhigh, Option.bind_some, bind_eq, hdash, Option.bind_some, bind_eq, hyear,
    Option.bind_some, valueOf_digits, Nat.sub_add_cancel hlow, of?_eq_some]
  rfl

end Days

section Sets

def isSetChar (c : Char) : Bool := c.isDigit || c = ':' || c = ','

def set? (text : List Char) : Option IdSet :=
  match text.splitOn ':' with
  | [start, stop] => do some (.range ⟨⟨← word? start⟩, ⟨← word? stop⟩⟩)
  | _ =>
    if text.isEmpty then some (.list [])
    else ((text.splitOn ',').mapM word?).map fun ws ↦ .list (ws.map MessageId.mk)

def set : Scanner IdSet := checked (piece isSetChar) set?

theorem not_mem_text {c : Char} (hc : c.isDigit = false) (id : MessageId) : c ∉ id.text := by
  intro hmem
  exact Bool.eq_false_iff.mp hc (isDigit_of_mem_digits hmem)

theorem mem_intercalate {c : Char} {texts : List (List Char)} (h : c ∈ [','].intercalate texts) :
    c = ',' ∨ ∃ text ∈ texts, c ∈ text := by
  induction texts with
  | nil => cases h
  | cons text texts ih =>
    cases texts with
    | nil =>
      rw [List.intercalate_singleton] at h
      exact .inr ⟨text, List.mem_cons_self, h⟩
    | cons text' texts =>
      rw [List.intercalate_cons_cons, List.append_assoc] at h
      rcases List.mem_append.mp h with h | h
      · exact .inr ⟨text, List.mem_cons_self, h⟩
      · rcases List.mem_append.mp h with h | h
        · exact .inl (List.mem_singleton.mp h)
        · obtain hcomma | ⟨t, ht, hc⟩ := ih h
          · exact .inl hcomma
          · exact .inr ⟨t, List.mem_cons_of_mem _ ht, hc⟩

theorem isSetChar_of_mem {set : IdSet} {c : Char} (h : c ∈ set.text) : isSetChar c = true := by
  have hid {id : MessageId} (h : c ∈ id.text) : isSetChar c = true := by
    simp [isSetChar, isDigit_of_mem_digits h]
  cases set with
  | range r =>
    rcases List.mem_append.mp h with h | h
    · exact hid h
    · rcases List.mem_cons.mp h with rfl | h
      · rfl
      · exact hid h
  | list ids =>
    obtain rfl | ⟨text, htext, hc⟩ := mem_intercalate h
    · rfl
    · obtain ⟨id, -, rfl⟩ := List.mem_map.mp htext
      exact hid hc

theorem splitOn_range (r : IdRange) : r.text.splitOn ':' = [r.start.text, r.stop.text] := by
  have htext : r.text = [':'].intercalate [r.start.text, r.stop.text] := by
    rw [List.intercalate_cons_cons, List.intercalate_singleton, List.append_assoc]
    rfl
  rw [htext]
  apply List.splitOn_intercalate
  · intro text hmem
    simp only [List.mem_cons, List.not_mem_nil, or_false] at hmem
    rcases hmem with rfl | rfl <;> exact not_mem_text rfl _
  · exact List.cons_ne_nil _ _

theorem splitOn_colon_list (ids : List MessageId) :
    (IdSet.list ids).text.splitOn ':' = [(IdSet.list ids).text] := by
  have hsplit : ([':'].intercalate [(IdSet.list ids).text]).splitOn ':' =
      [(IdSet.list ids).text] := by
    apply List.splitOn_intercalate
    · intro text hmem hcolon
      obtain rfl := List.mem_singleton.mp hmem
      obtain h | ⟨text, htext, hc⟩ := mem_intercalate hcolon
      · cases h
      · obtain ⟨id, -, rfl⟩ := List.mem_map.mp htext
        exact not_mem_text rfl id hc
    · exact List.cons_ne_nil _ _
  rwa [List.intercalate_singleton] at hsplit

theorem splitOn_comma_list {ids : List MessageId} (hids : ids ≠ []) :
    (IdSet.list ids).text.splitOn ',' = ids.map MessageId.text := by
  apply List.splitOn_intercalate
  · intro text hmem
    obtain ⟨id, -, rfl⟩ := List.mem_map.mp hmem
    exact not_mem_text rfl id
  · exact fun h ↦ hids (List.map_eq_nil_iff.mp h)

theorem mapM_word? (ids : List MessageId) :
    (ids.map MessageId.text).mapM word? = some (ids.map MessageId.val) := by
  induction ids with
  | nil => rfl
  | cons id ids ih =>
    rw [List.map_cons, List.mapM_cons, ih, MessageId.text, word?_digits]
    rfl

theorem set?_text (s : IdSet) : set? s.text = some s := by
  cases s with
  | range r =>
    have hwords := splitOn_range r
    have hstart : word? r.start.text = some r.start.val := word?_digits _
    have hstop : word? r.stop.text = some r.stop.val := word?_digits _
    simp only [set?, IdSet.text, hwords, hstart, hstop]
    rfl
  | list ids =>
    simp only [set?, splitOn_colon_list]
    cases ids with
    | nil => rfl
    | cons id ids =>
      have hne : (IdSet.list (id :: ids)).text.isEmpty = false := by
        cases hid : id.text with
        | nil => exact absurd hid (digits_ne_nil _)
        | cons d ds =>
          rw [IdSet.text, List.map_cons, hid, List.intercalate_cons_cons_left]
          rfl
      rw [hne, splitOn_comma_list (List.cons_ne_nil _ _), mapM_word?]
      simp only [Bool.false_eq_true, if_false, Option.map_some, List.map_map]
      exact congrArg (some ∘ IdSet.list) (List.map_id _)

theorem reads_set (s : IdSet) : Reads set s.text s :=
  Reads.checked (reads_piece (fun _ ↦ isSetChar_of_mem) rfl rfl) (set?_text s)

end Sets

section Arguments

def quoted : List Char → Option (List Char × List Char)
  | '"' :: cs => some ([], cs)
  | '\\' :: c :: cs => (quoted cs).map fun x ↦ (c :: x.1, x.2)
  | c :: cs => (quoted cs).map fun x ↦ (c :: x.1, x.2)
  | [] => none

theorem quoted_cons {c : Char} (hquote : c ≠ '"') (hbackslash : c ≠ '\\') (cs : List Char) :
    quoted (c :: cs) = (quoted cs).map fun x ↦ (c :: x.1, x.2) := by
  rw [quoted]
  · exact hquote
  · exact fun _ _ h _ ↦ hbackslash h

theorem quoted_escaped (cs rest : List Char) :
    quoted (Query.escaped cs ++ '"' :: rest) = some (cs, rest) := by
  induction cs with
  | nil => rfl
  | cons c cs ih =>
    rw [Query.escaped]
    split
    · rw [List.cons_append, List.cons_append, quoted, ih, Option.map_some]
    · next hc =>
      simp only [Bool.or_eq_true, decide_eq_true_eq, not_or] at hc
      rw [List.cons_append, quoted_cons hc.1 hc.2, ih, Option.map_some]

def plain : Scanner String :=
  checked (piece fun c ↦ !Query.needsQuotes c) fun s ↦ if s.isEmpty then none else some (.ofList s)

def argument : Scanner String
  | '"' :: cs => (quoted cs).map fun x ↦ (.ofList x.1, x.2)
  | cs => plain cs

theorem argument_of_ne {c : Char} (hc : c ≠ '"') (cs : List Char) :
    argument (c :: cs) = plain (c :: cs) := by
  unfold argument
  split
  · next h => exact absurd (List.cons.inj h).1 hc
  · rfl

theorem reads_plain {s : String} (hne : s.toList ≠ [])
    (hs : ∀ c ∈ s.toList, Query.needsQuotes c = false) : Reads plain s.toList s := by
  apply Reads.checked (reads_piece (fun c hc ↦ by rw [hs c hc]; rfl) rfl rfl)
  rw [List.isEmpty_eq_false_iff.mpr hne]
  exact congrArg some String.ofList_toList

theorem reads_argument (s : String) : Reads argument (Query.argument s) s := by
  unfold Query.argument
  split
  · intro rest _
    have hquoted := quoted_escaped s.toList rest
    have htext : '"' :: Query.escaped s.toList ++ ['"'] ++ rest =
        '"' :: (Query.escaped s.toList ++ '"' :: rest) := by
      rw [List.append_assoc]
      rfl
    rw [htext, argument, hquoted, Option.map_some, String.ofList_toList]
  · next hs =>
    simp only [Bool.or_eq_true, not_or, Bool.not_eq_true, List.any_eq_false] at hs
    obtain ⟨hempty, hplain⟩ := hs
    have hne : s.toList ≠ [] := by
      intro hnil
      rw [String.toList_eq_nil_iff.mp hnil] at hempty
      cases hempty
    intro rest hrest
    have hread := reads_plain hne hplain rest hrest
    cases hcs : s.toList with
    | nil => exact absurd hcs hne
    | cons c cs =>
      rw [hcs] at hread
      rw [List.cons_append] at hread ⊢
      rw [argument_of_ne, hread]
      rintro rfl
      exact nomatch hplain '"' (hcs ▸ List.mem_cons_self)

end Arguments

end Scanner

end MailWindow
