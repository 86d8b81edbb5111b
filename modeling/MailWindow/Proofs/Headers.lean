import MailWindow.Header
import MailWindow.Proofs.Decoding

namespace MailWindow

namespace Text

inductive Ending where
  | lf
  | crlf

def Ending.text : Ending → List Char
  | lf => ['\n']
  | crlf => ['\r', '\n']

def IsUnbroken (cs : List Char) : Prop := ∀ c ∈ cs, c ≠ '\r' ∧ c ≠ '\n'

instance (cs : List Char) : Decidable (IsUnbroken cs) :=
  List.decidableBAll _ cs

theorem lines_cons {c : Char} {cs l : List Char} {ls : List (List Char)} (hn : c ≠ '\n')
    (hr : ∀ ds, c = '\r' → cs = '\n' :: ds → False) (h : lines cs = l :: ls) :
    lines (c :: cs) = (c :: l) :: ls := by
  rw [lines, h]
  · exact hn
  · exact hr

/-- A line is read up to its ending, of either kind. -/
theorem lines_append {l : List Char} (h : IsUnbroken l) (e : Ending) (rest : List Char) :
    lines (l ++ e.text ++ rest) = l :: lines rest := by
  induction l with
  | nil => cases e <;> rfl
  | cons c l ih =>
    obtain ⟨⟨hr, hn⟩, hl⟩ := List.forall_mem_cons.mp h
    exact lines_cons hn (fun _ hc ↦ absurd hc hr) (ih hl)

end Text

namespace Header

open Text

structure Line where
  text : List Char
  ending : Ending
  unbroken : IsUnbroken text

def Line.written (l : Line) : List Char := l.text ++ l.ending.text

theorem lines_flatMap_written (ls : List Line) (rest : List Char) :
    lines (ls.flatMap Line.written ++ rest) = ls.map Line.text ++ lines rest := by
  induction ls with
  | nil => rfl
  | cons l ls ih =>
    rw [List.flatMap_cons, List.append_assoc, Line.written, lines_append l.unbroken, ih]
    rfl

def StartsBlank (cs : List Char) : Prop := cs.head? = some ' ' ∨ cs.head? = some '\t'

instance (cs : List Char) : Decidable (StartsBlank cs) := instDecidableOr

theorem isContinuation_iff {cs : List Char} : isContinuation cs = true ↔ StartsBlank cs := by
  cases cs with
  | nil => simp [isContinuation, StartsBlank]
  | cons c cs => simp [isContinuation, StartsBlank]

/-- A field of a header. The value begins on the line of the name; the lines on which it goes on
begin with a blank, which the name does not. -/
structure Field where
  name : List Char
  value : Line
  more : List Line
  name_unbroken : IsUnbroken name
  name_uncut : ':' ∉ name
  name_start : ¬StartsBlank name
  more_start : ∀ l ∈ more, StartsBlank l.text

namespace Field

variable (f : Field)

def first : Line where
  text := f.name ++ ':' :: f.value.text
  ending := f.value.ending
  unbroken := by
    intro c hc
    rcases List.mem_append.mp hc with hc | hc
    · exact f.name_unbroken c hc
    · rcases List.mem_cons.mp hc with rfl | hc
      · decide
      · exact f.value.unbroken c hc

def written : List Char := (f.first :: f.more).flatMap Line.written

def text : List Char := trim f.value.text ++ f.more.flatMap fun l ↦ ' ' :: trim l.text

def isNamed (name : String) : Bool := eqIgnoringAsciiCase (trim f.name) name.toList

theorem isContinuation_first : isContinuation f.first.text = false := by
  apply Bool.eq_false_iff.mpr
  intro h
  have hstart : StartsBlank (f.name ++ ':' :: f.value.text) := isContinuation_iff.mp h
  have hname := f.name_start
  cases heq : f.name with
  | nil =>
    rw [heq] at hstart
    simp [StartsBlank] at hstart
  | cons c cs =>
    rw [heq] at hstart hname
    exact hname hstart

theorem isContinuation_more {l : List Char} (h : l ∈ f.more.map Line.text) :
    isContinuation l = true := by
  obtain ⟨l, hl, rfl⟩ := List.mem_map.mp h
  exact isContinuation_iff.mpr (f.more_start l hl)

theorem splitField?_first : splitField? f.first.text = some (f.name, f.value.text) := by
  have hname : ∀ c ∈ f.name, decide (c ≠ ':') = true := by
    intro c hc
    apply decide_eq_true
    rintro rfl
    exact f.name_uncut hc
  change splitField? (f.name ++ ':' :: f.value.text) = _
  rw [splitField?, List.dropWhile_append_of_pos hname, List.takeWhile_append_of_pos hname]
  simp

theorem takeWhile_more {rest : List (List Char)}
    (h : ∀ l ∈ rest.head?, isContinuation l = false) :
    (f.more.map Line.text ++ rest).takeWhile isContinuation = f.more.map Line.text := by
  have hnone : rest.takeWhile isContinuation = [] := by
    cases rest with
    | nil => rfl
    | cons l ls => exact List.takeWhile_cons_of_neg (Bool.eq_false_iff.mp (h l rfl))
  rw [List.takeWhile_append_of_pos fun l hl ↦ f.isContinuation_more hl, hnone, List.append_nil]

theorem unfolded_more {rest : List (List Char)}
    (h : ∀ l ∈ rest.head?, isContinuation l = false) :
    unfolded f.value.text (f.more.map Line.text ++ rest) = f.text := by
  rw [unfolded, f.takeWhile_more h, List.foldl_append_eq_append, List.map_map, Field.text,
    List.flatMap_def]
  rfl

end Field

section Lookup

variable {name : List Char}

theorem find?_append_continuations {ls : List (List Char)}
    (h : ∀ l ∈ ls, isContinuation l = true) (rest : List (List Char)) :
    find? name (ls ++ rest) = find? name rest := by
  induction ls with
  | nil => rfl
  | cons l ls ih =>
    obtain ⟨hl, hls⟩ := List.forall_mem_cons.mp h
    have hne : l.isEmpty = false := by
      cases l with
      | nil => cases hl
      | cons c cs => rfl
    rw [List.cons_append, find?, hne, hl, ih hls]
    rfl

theorem find?_field (f : Field) {rest : List (List Char)}
    (h : ∀ l ∈ rest.head?, isContinuation l = false) :
    find? name (f.first.text :: (f.more.map Line.text ++ rest)) =
      if eqIgnoringAsciiCase (trim f.name) name then some f.text else find? name rest := by
  have hne : f.first.text.isEmpty = false := by
    change (f.name ++ ':' :: f.value.text).isEmpty = false
    cases f.name <;> rfl
  simp only [find?, hne, f.isContinuation_first, f.splitField?_first, Bool.false_eq_true, if_false]
  rw [f.unfolded_more h, find?_append_continuations fun l hl ↦ f.isContinuation_more hl]

end Lookup

/-- A message: the fields of the header, an empty line, and the body. -/
def written (fields : List Field) (blank : Ending) (body : List Char) : List Char :=
  fields.flatMap Field.written ++ blank.text ++ body

section Messages

variable (blank : Ending) (body : List Char)

theorem lines_written_nil : lines (written [] blank body) = [] :: lines body := by
  cases blank <;> rfl

theorem lines_written_cons (f : Field) (fields : List Field) :
    lines (written (f :: fields) blank body) =
      f.first.text :: (f.more.map Line.text ++ lines (written fields blank body)) := by
  rw [written, List.flatMap_cons, List.append_assoc, List.append_assoc, Field.written,
    lines_flatMap_written, List.map_cons, List.cons_append, written, List.append_assoc]

theorem head_lines_written (fields : List Field) :
    ∀ l ∈ (lines (written fields blank body)).head?, isContinuation l = false := by
  intro l hl
  cases fields with
  | nil =>
    rw [lines_written_nil] at hl
    obtain rfl := Option.some.inj hl
    rfl
  | cons f fields =>
    rw [lines_written_cons] at hl
    obtain rfl := Option.some.inj hl
    exact f.isContinuation_first

theorem find?_lines_written (name : String) (fields : List Field) :
    find? name.toList (lines (written fields blank body)) =
      (fields.find? (·.isNamed name)).map Field.text := by
  induction fields with
  | nil =>
    rw [lines_written_nil]
    rfl
  | cons f fields ih =>
    rw [lines_written_cons, find?_field f (head_lines_written blank body fields), ih,
      List.find?_cons, Field.isNamed]
    split
    · next h => rw [h]; rfl
    · next h => rw [Bool.eq_false_iff.mpr h]

/-- Looking up a name in a written message gives the value of the first field that has this name, in
any case and but for blanks around it: its lines without the blanks around them, joined by single
spaces. Neither the other fields nor the body play a part. -/
theorem value?_written (fields : List Field) (name : String) :
    value? (Utf8.encode (written fields blank body)) name =
      (fields.find? (·.isNamed name)).map fun f ↦ .ofList f.text := by
  rw [value?, Utf8.decode_encode, find?_lines_written, Option.map_map]
  rfl

example :
    let subject : Field := {
      name := "Subject".toList
      value := ⟨" part one".toList, .crlf, by decide⟩
      more := [⟨"\tpart two ".toList, .lf, by decide⟩]
      name_unbroken := by decide
      name_uncut := by decide
      name_start := by decide
      more_start := by decide }
    written [subject] .crlf "To: me".toList =
      "Subject: part one\r\n\tpart two \n\r\nTo: me".toList ∧
    subject.text = "part one part two".toList := by
  decide

end Messages

end Header

end MailWindow
