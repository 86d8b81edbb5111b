import MailWindow.Folder.Stored
import MailWindow.Proofs.Headers

namespace MailWindow

namespace Text

section Separators

variable {sep text rest : List Char}

theorem exists_of_after? (h : after? sep text = some rest) :
    ∃ before, before ++ sep ++ rest = text := by
  induction text with
  | nil =>
    rw [after?] at h
    split at h
    · next hsep =>
      obtain rfl := Option.some.inj h
      exact ⟨[], by rw [List.isEmpty_iff.mp hsep]; rfl⟩
    · cases h
  | cons c cs ih =>
    rw [after?] at h
    split at h
    · next hsep =>
      obtain rfl := Option.some.inj h
      exact ⟨[], List.prefix_iff_eq_append.mp (List.isPrefixOf_iff_prefix.mp hsep)⟩
    · obtain ⟨before, hbefore⟩ := ih h
      exact ⟨c :: before, congrArg (c :: ·) hbefore⟩

theorem suffix_of_after? (h : after? sep text = some rest) {before other : List Char}
    (ho : before ++ sep ++ other = text) : other <:+ rest := by
  induction text generalizing before with
  | nil =>
    obtain ⟨-, rfl⟩ := List.append_eq_nil_iff.mp ho
    exact List.nil_suffix
  | cons c cs ih =>
    rw [after?] at h
    split at h
    · obtain rfl := Option.some.inj h
      refine List.suffix_of_suffix_length_le ⟨before ++ sep, ho⟩ (List.drop_suffix _ _) ?_
      rw [← ho, List.length_drop, List.length_append, List.length_append]
      omega
    · next hsep =>
      cases before with
      | nil => exact absurd (List.isPrefixOf_iff_prefix.mpr ⟨other, ho⟩) hsep
      | cons d before => exact ih h (List.cons.inj ho).2

theorem after?_eq_none_iff : after? sep text = none ↔ ¬sep <:+: text := by
  induction text with
  | nil =>
    rw [after?, List.infix_nil]
    cases sep <;> simp
  | cons c cs ih =>
    rw [after?, List.infix_cons_iff, ← List.isPrefixOf_iff_prefix]
    split
    · next hsep => simp [hsep]
    · next hsep => simp [hsep, ih]

end Separators

section Lines

variable {cs : List Char}

/-- Whether a further line may follow: the text is empty, or its last line is ended. -/
def EndsLine (cs : List Char) : Prop := ∀ c ∈ cs.getLast?, c = '\n'

instance (cs : List Char) : Decidable (EndsLine cs) := Option.decidableForallMem _

theorem EndsLine.tail {c : Char} (h : EndsLine (c :: cs)) : EndsLine cs := by
  intro d hd
  apply h
  rw [List.getLast?_cons, Option.mem_def.mp hd]
  rfl

theorem EndsLine.append {a b : List Char} (ha : EndsLine a) (hb : EndsLine b) :
    EndsLine (a ++ b) := by
  intro c hc
  rw [List.getLast?_append] at hc
  cases h : b.getLast? with
  | none =>
    rw [h] at hc
    exact ha c hc
  | some d =>
    rw [h] at hc
    exact hb c (h ▸ hc)

theorem EndsLine.right {a b : List Char} (h : EndsLine (a ++ b)) : EndsLine b := by
  intro c hc
  apply h
  rw [List.getLast?_append, Option.mem_def.mp hc]
  rfl

theorem endsLine_ending (cs : List Char) (e : Ending) : EndsLine (cs ++ e.text) := by
  intro c hc
  rw [List.getLast?_append] at hc
  cases e <;> exact (Option.some.inj hc).symm

theorem eq_nil_of_ending_eq_append {e : Ending} {part more : List Char} (h : e.text = part ++ more)
    (hne : part ≠ []) (hends : EndsLine part) : more = [] := by
  match part with
  | [] => exact absurd rfl hne
  | [c] =>
    obtain rfl := hends c rfl
    cases e with
    | lf => exact (List.cons.inj h).2.symm
    | crlf => exact absurd (List.cons.inj h).1 (by decide)
  | c :: d :: part =>
    cases e with
    | lf => cases (List.cons.inj h).2
    | crlf =>
      have htail := (List.cons.inj (List.cons.inj h).2).2
      exact (List.append_eq_nil_iff.mp htail.symm).2

theorem exists_lines_cons {c : Char} (hn : c ≠ '\n')
    (hr : ∀ ds, c = '\r' → cs = '\n' :: ds → False) : ∃ l ls, lines (c :: cs) = (c :: l) :: ls := by
  cases h : lines cs with
  | nil =>
    refine ⟨[], [], ?_⟩
    rw [lines, h]
    · exact hn
    · exact hr
  | cons l ls => exact ⟨l, ls, lines_cons hn hr h⟩

theorem lines_eq_nil_iff : lines cs = [] ↔ cs = [] := by
  refine ⟨fun h ↦ ?_, fun h ↦ h ▸ rfl⟩
  fun_cases lines cs with
  | case1 => rfl
  | case2 => cases h
  | case3 => cases h
  | case4 c cs hn hr =>
    obtain ⟨l, ls, hl⟩ := exists_lines_cons hn hr
    cases hl.symm.trans h
  | case5 c cs hn hr =>
    obtain ⟨l, ls, hl⟩ := exists_lines_cons hn hr
    cases hl.symm.trans h

theorem lines_append_of_endsLine (h : EndsLine cs) (rest : List Char) :
    lines (cs ++ rest) = lines cs ++ lines rest := by
  fun_induction lines cs with
  | case1 => rfl
  | case2 cs ih => exact congrArg ([] :: ·) (ih h.tail)
  | case3 cs ih => exact congrArg ([] :: ·) (ih h.tail.tail)
  | case4 c cs hn hr hnil ih =>
    obtain rfl := lines_eq_nil_iff.mp hnil
    exact absurd (h c rfl) hn
  | case5 c cs hn hr l ls hcs ih =>
    rw [hcs] at ih
    refine lines_cons hn (fun ds hc hds ↦ ?_) (ih h.tail)
    cases cs with
    | nil => cases hcs
    | cons d cs => exact hr cs hc (congrArg (· :: cs) (List.cons.inj hds).1)

theorem exists_of_lines_eq_cons {l : List Char} {ls : List (List Char)}
    (h : lines cs = l :: ls) : ∃ first rest, cs = first ++ rest ∧ lines first = [l] ∧
      lines rest = ls ∧ (rest ≠ [] → EndsLine first) := by
  fun_induction lines cs generalizing l ls with
  | case1 => cases h
  | case2 cs ih =>
    obtain ⟨rfl, rfl⟩ := List.cons.inj h
    exact ⟨['\n'], cs, rfl, rfl, rfl, fun _ ↦ endsLine_ending [] .lf⟩
  | case3 cs ih =>
    obtain ⟨rfl, rfl⟩ := List.cons.inj h
    exact ⟨['\r', '\n'], cs, rfl, rfl, rfl, fun _ ↦ endsLine_ending [] .crlf⟩
  | case4 c cs hn hr hnil ih =>
    obtain ⟨rfl, rfl⟩ := List.cons.inj h
    obtain rfl := lines_eq_nil_iff.mp hnil
    refine ⟨[c], [], rfl, ?_, rfl, fun hne ↦ absurd rfl hne⟩
    rw [lines]
    · rfl
    · exact hn
    · exact hr
  | case5 c cs hn hr k ks hcs ih =>
    obtain ⟨rfl, rfl⟩ := List.cons.inj h
    obtain ⟨first, rest, rfl, hfirst, hrest, hends⟩ := ih hcs
    cases first with
    | nil => cases hfirst
    | cons d first =>
      refine ⟨c :: d :: first, rest, rfl, ?_, hrest, fun hne ↦ ?_⟩
      · refine lines_cons hn (fun ds hc hds ↦ ?_) hfirst
        exact hr (first ++ rest) hc (congrArg (· :: (first ++ rest)) (List.cons.inj hds).1)
      · exact hends hne

theorem exists_ending_of_lines (h : lines cs = [[]]) : ∃ e : Ending, cs = e.text := by
  fun_cases lines cs with
  | case1 => cases h
  | case2 cs =>
    obtain rfl := lines_eq_nil_iff.mp (List.cons.inj h).2
    exact ⟨.lf, rfl⟩
  | case3 cs =>
    obtain rfl := lines_eq_nil_iff.mp (List.cons.inj h).2
    exact ⟨.crlf, rfl⟩
  | case4 c cs hn hr =>
    obtain ⟨l, ls, hl⟩ := exists_lines_cons hn hr
    cases hl.symm.trans h
  | case5 c cs hn hr =>
    obtain ⟨l, ls, hl⟩ := exists_lines_cons hn hr
    cases hl.symm.trans h

end Lines

end Text

namespace Header

open Text

/-- A text taken apart at its first empty line: whole lines, none of them empty, then an ending by
itself, then the rest. -/
structure Divided (text head : List Char) (blank : Ending) (rest : List Char) : Prop where
  text_eq : text = head ++ blank.text ++ rest
  ended : EndsLine head
  unblank : [] ∉ lines head

theorem lines_blank (blank : Ending) (rest : List Char) :
    lines (blank.text ++ rest) = [] :: lines rest := by
  cases blank <;> rfl

theorem exists_divided {text : List Char} (h : [] ∈ lines text) :
    ∃ head blank rest, Divided text head blank rest := by
  generalize hls : lines text = ls at h
  induction ls generalizing text with
  | nil => cases h
  | cons l ls ih =>
    obtain ⟨first, more, rfl, hfirst, hmore, hends⟩ := exists_of_lines_eq_cons hls
    by_cases hl : l = []
    · obtain ⟨blank, rfl⟩ := exists_ending_of_lines (hl ▸ hfirst)
      exact ⟨[], blank, more, rfl, (fun _ hc ↦ nomatch hc), List.not_mem_nil⟩
    · have hmem : [] ∈ ls := by
        rcases List.mem_cons.mp h with h | h
        · exact absurd h.symm hl
        · exact h
      obtain ⟨head, blank, rest, hdivided⟩ := ih hmore hmem
      have hended : EndsLine first := by
        refine hends fun hnil ↦ ?_
        rw [← hmore, hnil] at hmem
        cases hmem
      refine ⟨first ++ head, blank, rest, ?_, hended.append hdivided.ended, ?_⟩
      · rw [hdivided.text_eq, List.append_assoc, List.append_assoc, List.append_assoc]
      · rw [lines_append_of_endsLine hended, hfirst]
        intro hnil
        rcases List.mem_append.mp hnil with hnil | hnil
        · exact hl (List.mem_singleton.mp hnil).symm
        · exact hdivided.unblank hnil

theorem takeWhile_append_blank (ls more : List (List Char)) :
    (ls ++ [] :: more).takeWhile isContinuation = ls.takeWhile isContinuation := by
  rw [List.takeWhile_append]
  split
  · next hall =>
    rw [(List.takeWhile_prefix isContinuation).eq_of_length hall]
    exact List.append_nil ls
  · rfl

theorem find?_append_blank {name : List Char} {ls : List (List Char)} (h : [] ∉ ls)
    (more : List (List Char)) : find? name (ls ++ [] :: more) = find? name ls := by
  induction ls with
  | nil => rfl
  | cons l ls ih =>
    have ih := ih fun hmem ↦ h (List.mem_cons_of_mem l hmem)
    simp only [List.cons_append, find?, ih, unfolded, takeWhile_append_blank]

def twice (e : Ending) : List Char := e.text ++ e.text

theorem body_eq (text : List Char) :
    body text = ((after? (twice .crlf) text).or (after? (twice .lf) text)).getD [] := rfl

theorem blank_mem_lines_of_twice {e : Ending} {cs : List Char} (h : twice e <:+: cs) :
    [] ∈ lines cs := by
  obtain ⟨before, after, rfl⟩ := h
  rw [twice, ← List.append_assoc, List.append_assoc _ _ after,
    lines_append_of_endsLine (endsLine_ending before e), lines_blank]
  exact List.mem_append_right _ List.mem_cons_self

theorem after?_twice_eq_none {e : Ending} {cs : List Char} (h : [] ∉ lines cs) :
    after? (twice e) cs = none :=
  after?_eq_none_iff.mpr fun hin ↦ h (blank_mem_lines_of_twice hin)

namespace Divided

variable {text head rest : List Char} {blank : Ending} (h : Divided text head blank rest)

include h

theorem lines_eq : lines text = lines head ++ [] :: lines rest := by
  rw [h.text_eq, List.append_assoc, lines_append_of_endsLine h.ended, lines_blank]

theorem find?_lines (name : List Char) : find? name (lines text) = find? name (lines head) := by
  rw [h.lines_eq, find?_append_blank h.unblank]

theorem suffix_of_twice {e : Ending} {before other : List Char}
    (ho : before ++ twice e ++ other = text) : other <:+ rest := by
  rw [h.text_eq, List.append_assoc head] at ho
  -- the pair ends within the head, within the empty line, or after it
  rcases List.append_eq_append_iff.mp ho with ⟨tail, hhead, -⟩ | ⟨tail, hbefore, hrest⟩
  · exact absurd (blank_mem_lines_of_twice ⟨before, tail, hhead.symm⟩) h.unblank
  · rcases List.append_eq_append_iff.mp hrest with ⟨more, -, hrest⟩ | ⟨more, hblank, hother⟩
    · exact ⟨more, hrest.symm⟩
    · have hne : tail ≠ [] := by
        rintro rfl
        refine absurd (blank_mem_lines_of_twice (e := e) ⟨before, [], ?_⟩) h.unblank
        rw [hbefore, List.append_nil, List.append_nil]
      have hends : EndsLine tail := by
        apply EndsLine.right (a := head)
        rw [← hbefore, twice, ← List.append_assoc]
        exact endsLine_ending _ e
      rw [hother, eq_nil_of_ending_eq_append hblank hne hends]
      exact List.suffix_rfl

theorem body_suffix : body text <:+ rest := by
  rw [body_eq]
  cases hcrlf : after? (twice .crlf) text with
  | some found =>
    obtain ⟨before, hbefore⟩ := exists_of_after? hcrlf
    exact h.suffix_of_twice hbefore
  | none =>
    cases hlf : after? (twice .lf) text with
    | some found =>
      obtain ⟨before, hbefore⟩ := exists_of_after? hlf
      exact h.suffix_of_twice hbefore
    | none => exact List.nil_suffix

theorem after?_twice (hs : blank.text <:+ head) : after? (twice blank) text = some rest := by
  obtain ⟨before, rfl⟩ := hs
  have ho : before ++ twice blank ++ rest = text := by
    rw [h.text_eq, twice, List.append_assoc before blank.text blank.text]
  cases hfound : after? (twice blank) text with
  | none => exact absurd ⟨before, rest, ho⟩ (after?_eq_none_iff.mp hfound)
  | some found =>
    obtain ⟨first, hfirst⟩ := exists_of_after? hfound
    have hle := (h.suffix_of_twice hfirst).length_le
    rw [(suffix_of_after? hfound ho).eq_of_length_le hle]

theorem eq_of_after?_twice {e : Ending} (hfound : after? (twice e) text = some rest) :
    e = blank ∧ blank.text <:+ head := by
  obtain ⟨before, hbefore⟩ := exists_of_after? hfound
  rw [h.text_eq] at hbefore
  have hends := List.append_cancel_right hbefore
  rw [twice, ← List.append_assoc] at hends
  -- with different endings, what ends a line would end in a carriage return
  have hreturn (cs : List Char) : ¬EndsLine (cs ++ ['\r']) := fun hr ↦
    absurd (hr '\r' List.getLast?_concat) (by decide)
  cases e with
  | lf =>
    cases blank with
    | lf => exact ⟨rfl, before, List.append_cancel_right hends⟩
    | crlf =>
      have hlast : before ++ ['\n'] = head ++ ['\r'] := by
        apply (List.append_left_inj ['\n']).mp
        rw [List.append_assoc head]
        exact hends
      exact absurd (hlast ▸ endsLine_ending before .lf) (hreturn head)
  | crlf =>
    cases blank with
    | lf =>
      have hlast : before ++ ['\r', '\n'] ++ ['\r'] = head := by
        apply (List.append_left_inj ['\n']).mp
        rw [List.append_assoc _ ['\r']]
        exact hends
      exact absurd (hlast ▸ h.ended) (hreturn _)
    | crlf => exact ⟨rfl, before, List.append_cancel_right hends⟩

theorem body_eq_iff : body text = rest ↔
    rest = [] ∨ blank.text <:+ head ∧ (blank = .crlf ∨ ¬twice .crlf <:+: text) := by
  constructor
  · intro hbody
    rw [body_eq] at hbody
    cases hcrlf : after? (twice .crlf) text with
    | some found =>
      rw [hcrlf] at hbody
      obtain ⟨hblank, hs⟩ := h.eq_of_after?_twice (hcrlf.trans (congrArg some hbody))
      exact .inr ⟨hs, .inl hblank.symm⟩
    | none =>
      rw [hcrlf] at hbody
      cases hlf : after? (twice .lf) text with
      | some found =>
        rw [hlf] at hbody
        obtain ⟨-, hs⟩ := h.eq_of_after?_twice (hlf.trans (congrArg some hbody))
        exact .inr ⟨hs, .inr (after?_eq_none_iff.mp hcrlf)⟩
      | none =>
        rw [hlf] at hbody
        exact .inl hbody.symm
  · rintro (rfl | ⟨hs, hmixed⟩)
    · exact List.suffix_nil.mp h.body_suffix
    · have hfound := h.after?_twice hs
      cases blank with
      | crlf => rw [body_eq, hfound]; rfl
      | lf =>
        have hnone := hmixed.resolve_left (fun heq ↦ nomatch heq)
        rw [body_eq, after?_eq_none_iff.mpr hnone, hfound]
        rfl

end Divided

theorem body_of_unblank {text : List Char} (h : [] ∉ lines text) : body text = [] := by
  rw [body_eq, after?_twice_eq_none h, after?_twice_eq_none h]
  rfl

end Header

namespace Stored

open Header Text

/-- Header fields are looked up in the lines before the first empty line of a message, and what is
searched as its body is an end of what follows that line; without an empty line nothing is. All of it
is searched just if nothing follows, or if the empty line ends as the text before it does; where that
is by a line feed alone, there must be no two two-byte endings in a row anywhere in the message. -/
theorem body_eq_rest_iff (m : Stored) :
    ((∃ head blank rest, Divided (Utf8.decode m.raw) head blank rest) ∨
      [] ∉ lines (Utf8.decode m.raw) ∧ m.body = []) ∧
    ∀ head blank rest, Divided (Utf8.decode m.raw) head blank rest →
      (∀ name, m.header? name = (find? name.toList (lines head)).map .ofList) ∧
      m.body <:+ rest ∧
      (m.body = rest ↔ rest = [] ∨
        blank.text <:+ head ∧ (blank = .crlf ∨ ¬twice .crlf <:+: Utf8.decode m.raw)) := by
  refine ⟨?_, fun head blank rest h ↦ ⟨fun name ↦ ?_, h.body_suffix, h.body_eq_iff⟩⟩
  · by_cases hmem : [] ∈ lines (Utf8.decode m.raw)
    · exact .inl (exists_divided hmem)
    · exact .inr ⟨hmem, body_of_unblank hmem⟩
  · rw [header?, value?, h.find?_lines]

theorem body_eq_rest_iff_mixed :
    let text := "Subject: a\r\nTo: b\r\n\nx\n".toList
    let m : Stored := { id := ⟨1⟩, raw := Utf8.encode text, received := { seconds := 0 } }
    m.header? "to" = some "b" ∧ m.body = "x\n".toList := by
  intro text m
  have hdecode : Utf8.decode m.raw = text := Utf8.decode_encode text
  have hdivided : Divided (Utf8.decode m.raw) "Subject: a\r\nTo: b\r\n".toList .lf "x\n".toList := by
    rw [hdecode]
    exact ⟨by decide, by decide, by decide⟩
  obtain ⟨hheader, -, hbody⟩ := (body_eq_rest_iff m).2 _ _ _ hdivided
  refine ⟨(hheader "to").trans (by decide +kernel), hbody.mpr (.inr ⟨by decide, .inr ?_⟩)⟩
  rw [hdecode, ← after?_eq_none_iff]
  decide

/-- A message with single line feeds, but for two endings in a row inside the body: the body is
searched only after these. -/
theorem body_misses_part :
    let text := "Subject: a\n\nx\r\n\r\ny".toList
    let m : Stored := { id := ⟨1⟩, raw := Utf8.encode text, received := { seconds := 0 } }
    Divided (Utf8.decode m.raw) "Subject: a\n".toList .lf "x\r\n\r\ny".toList ∧
      m.body = "y".toList ∧ m.satisfies (.body "x") = false := by
  intro text m
  have hdecode : Utf8.decode m.raw = text := Utf8.decode_encode text
  have hbody : m.body = "y".toList := by
    rw [body, hdecode]
    decide
  refine ⟨?_, hbody, ?_⟩
  · rw [hdecode]
    exact ⟨by decide, by decide, by decide⟩
  · rw [satisfies, hbody]
    decide +kernel

end Stored

end MailWindow
