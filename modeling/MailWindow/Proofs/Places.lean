import Mathlib.Data.List.DropRight
import MailWindow.Reader.Saving
import MailWindow.Sink.Files

namespace MailWindow

theorem MessageId.text_injective {a b : MessageId} (h : a.text = b.text) : a = b := by
  apply MessageId.eq_iff_toNat.mpr
  have hvalue := congrArg (Nat.ofDigitChars 10 · 0) h
  simpa only [MessageId.text, Decimal.digits, Nat.ofDigitChars_ten_toDigits] using hvalue

theorem rtakeWhile_append_of_all {p : Char → Bool} {cs ds : List Char}
    (hc : ∀ c ∈ cs.getLast?, p c = false) (hd : ∀ d ∈ ds, p d = true) :
    (cs ++ ds).rtakeWhile p = ds := by
  have hstop : cs.rtakeWhile p = [] := by
    rw [List.rtakeWhile_eq_nil_iff]
    intro hne hp
    have hlast := hc (cs.getLast hne) (List.getLast?_eq_getLast_of_ne_nil hne ▸ rfl)
    rw [hlast] at hp
    cases hp
  rw [List.rtakeWhile, List.reverse_eq_nil_iff] at hstop
  rw [List.rtakeWhile, List.reverse_append, List.takeWhile_append_of_pos, hstop, List.append_nil,
    List.reverse_reverse]
  intro d hmem
  exact hd d (List.mem_reverse.mp hmem)

theorem toList_joinPath (dir name : String) : ∃ start : List Char,
    (joinPath dir name).toList = start ++ name.toList ∧ ∀ c ∈ start.getLast?, c = '/' := by
  rw [joinPath]
  split
  · next h =>
    refine ⟨dir.toList, String.toList_append, ?_⟩
    rintro c hc
    rcases Bool.or_eq_true_iff.mp h with hempty | hslash
    · rw [String.isEmpty_iff.mp hempty] at hc
      cases hc
    · exact (Option.some.inj ((of_decide_eq_true hslash).symm.trans hc)).symm
  · refine ⟨dir.toList ++ ['/'], ?_, ?_⟩
    · rw [String.toList_append, String.toList_append]
      rfl
    · intro c hc
      rw [List.getLast?_concat] at hc
      exact (Option.some.inj hc).symm

/-- A message that is saved can be told from its path, whatever the directory. -/
theorem Reader.id_eq_of_savePath {σ : Type} {r : Reader σ} {dir dir' : String} {a b : Message}
    (h : r.savePath dir a = r.savePath dir' b) : a.id = b.id := by
  have hdigits (dir : String) (m : Message) : ∃ cs, (r.savePath dir m).toList =
      (cs ++ m.id.text) ++ ("." ++ r.config.messageExtension).toList ∧
        (cs ++ m.id.text).rtakeWhile Char.isDigit = m.id.text := by
    obtain ⟨cs, hcs, hlast⟩ :=
      toList_joinPath dir (.ofList m.id.text ++ "." ++ r.config.messageExtension)
    refine ⟨cs, ?_, rtakeWhile_append_of_all (fun c hc ↦ ?_) fun _ hd ↦ ?_⟩
    · rw [savePath, hcs, String.append_assoc, String.toList_append, String.toList_ofList,
        List.append_assoc]
    · rw [hlast c hc]
      rfl
    · exact Nat.isDigit_of_mem_toDigits (by decide) (by decide) hd
  obtain ⟨cs, hcs, ha⟩ := hdigits dir a
  obtain ⟨ds, hds, hb⟩ := hdigits dir' b
  rw [h, hds] at hcs
  have hsame := List.append_cancel_right hcs
  rw [hsame, ha] at hb
  exact MessageId.text_injective hb

namespace Text

variable {sep : Char}

theorem splitOn_of_not_mem {cs : List Char} (h : sep ∉ cs) : splitOn sep cs = [cs] := by
  induction cs with
  | nil => rfl
  | cons c cs ih =>
    rw [List.mem_cons, not_or] at h
    rw [splitOn, if_neg (Ne.symm h.1), ih h.2]

theorem splitOn_ne_nil (sep : Char) (cs : List Char) : splitOn sep cs ≠ [] := by
  cases cs with
  | nil => exact List.cons_ne_nil _ _
  | cons c cs =>
    rw [splitOn]
    split
    · exact List.cons_ne_nil _ _
    · split <;> exact List.cons_ne_nil _ _

theorem splitOn_append_cons (cs ds : List Char) :
    splitOn sep (cs ++ sep :: ds) = splitOn sep cs ++ splitOn sep ds := by
  induction cs with
  | nil => exact if_pos rfl
  | cons c cs ih =>
    rw [List.cons_append, splitOn, splitOn, ih]
    by_cases hc : c = sep
    · rw [if_pos hc, if_pos hc, List.cons_append]
    · rw [if_neg hc, if_neg hc]
      obtain ⟨p, ps, hp⟩ := List.exists_cons_of_ne_nil (splitOn_ne_nil sep cs)
      rw [hp]
      rfl

end Text

namespace FileTree

variable {t u : FileTree} {p q : List String} {e : FileEntry}

theorem lookup_filter_ne {α β : Type} [BEq α] [LawfulBEq α] [DecidableEq α] {a b : α} (h : b ≠ a)
    (l : List (α × β)) : (l.filter (·.1 ≠ a)).lookup b = l.lookup b := by
  induction l with
  | nil => rfl
  | cons x l ih =>
    obtain ⟨c, y⟩ := x
    by_cases hc : c = a
    · have hb : (b == c) = false := beq_eq_false_iff_ne.mpr fun hb ↦ h (hb.trans hc)
      rw [List.filter_cons_of_neg (by simpa using hc), ih, List.lookup_cons, hb]
    · rw [List.filter_cons_of_pos (by simpa using hc), List.lookup_cons, List.lookup_cons, ih]

theorem find?_put_self (h : p ≠ []) : (t.put p e).find? p = some e := by
  rw [find?, if_neg (by simpa using h), put, List.lookup_cons_self]

theorem find?_put_of_ne (h : q ≠ p) : (t.put p e).find? q = t.find? q := by
  have hq : (q == p) = false := beq_eq_false_iff_ne.mpr h
  rw [find?, find?, put, List.lookup_cons, hq, lookup_filter_ne h]

theorem isDirectory_put_file (h : t.isDirectory p = false) (content : List UInt8) :
    (t.put p (.file content)).isDirectory = t.isDirectory := by
  have hp : p ≠ [] := by
    rintro rfl
    cases h
  funext q
  by_cases hq : q = p
  · rw [hq, h, isDirectory, find?_put_self hp]
    rfl
  · rw [isDirectory, isDirectory, find?_put_of_ne hq]

theorem follow_congr (h : u.isDirectory = t.isDirectory) : u.follow = t.follow := by
  funext place ps
  induction ps generalizing place with
  | nil => rfl
  | cons p ps ih => simp only [follow, h, ih]

theorem follow_append (place ps qs : List String) :
    t.follow place (ps ++ qs) = (t.follow place ps).bind (t.follow · qs) := by
  induction ps generalizing place with
  | nil => rfl
  | cons p ps ih =>
    simp only [List.cons_append, follow, ih]
    repeat' split
    all_goals rfl

section Names

variable {name : String} (hn : IsName name)

include hn

theorem follow_name {place : List String} (h : t.follow p [name] = some place) :
    t.isDirectory p = true ∧ place = p ++ [name] := by
  have hmoves : isIdle name = false := by
    rw [isIdle, decide_eq_false hn.ne_empty, decide_eq_false hn.ne_dot]
    rfl
  simp only [follow, hmoves, hn.ne_dots, Bool.false_eq_true, if_false] at h
  split at h
  · cases h
  · next hp =>
    split at h
    · cases h
    · exact ⟨by simpa using hp, (Option.some.inj h).symm⟩

theorem parts_joinPath (dir : String) :
    parts (joinPath dir name) = parts dir ++ [name] ∨
      ∃ ps, parts dir = ps ++ [""] ∧ parts (joinPath dir name) = ps ++ [name] := by
  have hname : (Text.splitOn '/' name.toList).map String.ofList = [name] := by
    rw [Text.splitOn_of_not_mem hn.slash, List.map_singleton, String.ofList_toList]
  by_cases hempty : dir.isEmpty = true
  · obtain rfl := String.isEmpty_iff.mp hempty
    refine .inr ⟨[], rfl, ?_⟩
    rw [joinPath, if_pos (by rfl), parts, String.toList_append]
    exact hname
  · by_cases hslash : dir.toList.getLast? = some '/'
    · obtain ⟨cs, hcs⟩ := List.getLast?_eq_some_iff.mp hslash
      refine .inr ⟨(Text.splitOn '/' cs).map .ofList, ?_, ?_⟩
      · rw [parts, hcs, Text.splitOn_append_cons, List.map_append]
        rfl
      · rw [joinPath, if_pos (by simp [hslash]), parts, String.toList_append, hcs,
          List.append_assoc, List.singleton_append, Text.splitOn_append_cons, List.map_append, hname]
    · refine .inl ?_
      rw [joinPath, if_neg (by simpa [hempty] using hslash), parts, String.toList_append,
        String.toList_append, List.append_assoc]
      change (Text.splitOn '/' (dir.toList ++ '/' :: name.toList)).map String.ofList = _
      rw [Text.splitOn_append_cons, List.map_append, hname]
      rfl

/-- What a name below a directory leads to lies right below what the directory leads to. -/
theorem follow_joinPath {dir : String} {place : List String}
    (h : t.follow [] (parts (joinPath dir name)) = some place) :
    ∃ parent, t.follow [] (parts dir) = some parent ∧ t.isDirectory parent = true ∧
      place = parent ++ [name] := by
  rcases parts_joinPath hn dir with hparts | ⟨ps, hdir, hparts⟩
  · rw [hparts, follow_append] at h
    obtain ⟨parent, hparent, hplace⟩ := Option.bind_eq_some_iff.mp h
    exact ⟨parent, hparent, follow_name hn hplace⟩
  · -- the last part of the directory is empty, and passed over
    rw [hparts, follow_append] at h
    obtain ⟨parent, hparent, hplace⟩ := Option.bind_eq_some_iff.mp h
    obtain ⟨hdirectory, rfl⟩ := follow_name hn hplace
    refine ⟨parent, ?_, hdirectory, rfl⟩
    rw [hdir, follow_append, hparent]
    simp [follow, isIdle, hdirectory]

end Names

theorem follow_of_resolve {path : String} {place : List String} (h : t.resolve path = some place) :
    t.follow [] (parts path) = some place := by
  rw [resolve] at h
  split at h
  · cases h
  · exact h

theorem writeFile_cases (t : FileTree) (path : String) (content : List UInt8) :
    t.writeFile path content = (false, t) ∨
      ∃ place, t.resolve path = some place ∧ t.isDirectory place = false ∧
        t.writeFile path content = (true, t.put place (.file content)) := by
  rw [writeFile]
  cases hplace : t.resolve path with
  | none => exact .inl rfl
  | some place =>
    cases hdirectory : t.isDirectory place with
    | true => exact .inl (if_pos hdirectory)
    | false =>
      refine .inr ⟨place, rfl, hdirectory, if_neg ?_⟩
      rw [hdirectory]
      exact Bool.false_ne_true

section Growing

/-- The tree with further directories where nothing was. -/
def Grown (t u : FileTree) : Prop :=
  ∀ q, u.find? q = t.find? q ∨ (t.find? q = none ∧ u.find? q = some .directory)

theorem grown_self (t : FileTree) : t.Grown t := fun _ ↦ .inl rfl

theorem Grown.trans {v : FileTree} (h : t.Grown u) (h' : u.Grown v) : t.Grown v := by
  intro q
  rcases h' q with hv | ⟨hnone, hv⟩
  · rw [hv]
    exact h q
  · rcases h q with hu | ⟨-, hu⟩
    · exact .inr ⟨hu.symm.trans hnone, hv⟩
    · cases hu.symm.trans hnone

theorem grown_put_directory (h : t.find? p = none) : t.Grown (t.put p .directory) := by
  intro q
  by_cases hq : q = p
  · have hp : p ≠ [] := by
      rintro rfl
      cases h
    rw [hq]
    exact .inr ⟨h, find?_put_self hp⟩
  · exact .inl (find?_put_of_ne hq)

theorem grown_createAlong (t : FileTree) (place ps : List String) :
    t.Grown (t.createAlong place ps).2 := by
  induction ps generalizing t place with
  | nil => exact grown_self t
  | cons p ps ih =>
    simp only [createAlong]
    split
    · exact ih t _
    · split
      · exact grown_self t
      · cases hfound : t.find? (place ++ [p]) with
        | none => exact (grown_put_directory hfound).trans (ih _ _)
        | some e =>
          cases e with
          | directory => exact ih t _
          | file content => exact grown_self t

theorem grown_createDirectory (t : FileTree) (path : String) :
    t.Grown (t.createDirectory path).2 := by
  simp only [createDirectory]
  repeat' split
  · exact grown_self t
  · exact grown_self t
  · exact grown_createAlong t _ _
  · exact grown_createAlong t _ _

end Growing

section View

def directory? (t : FileTree) (path : String) : Option (List String) :=
  (t.follow [] (parts path)).filter t.isDirectory

def content? (t : FileTree) (place : List String) (name : String) : Option (List UInt8) :=
  match t.find? (place ++ [name]) with
  | some (.file content) => some content
  | _ => none

def view : FileSystem.View FileTree where
  Directory := List String
  directory? := directory?
  content? := content?

theorem content?_congr {name : String} (h : u.find? (p ++ [name]) = t.find? (p ++ [name])) :
    u.content? p name = t.content? p name := by
  rw [content?, content?, h]

theorem Grown.content?_eq (h : t.Grown u) : u.content? = t.content? := by
  funext place name
  rcases h (place ++ [name]) with hsame | ⟨hnone, hdirectory⟩
  · exact content?_congr hsame
  · rw [content?, content?, hnone, hdirectory]

theorem writeFile_joinPath {name : String} (hn : IsName name) (t : FileTree) (dir : String)
    (content : List UInt8) :
    t.writeFile (joinPath dir name) content = (false, t) ∨
      ∃ place, t.directory? dir = some place ∧ t.isDirectory (place ++ [name]) = false ∧
        t.writeFile (joinPath dir name) content =
          (true, t.put (place ++ [name]) (.file content)) := by
  rcases t.writeFile_cases (joinPath dir name) content with hw | ⟨place, hplace, hnew, hw⟩
  · exact .inl hw
  · obtain ⟨parent, hparent, hdirectory, rfl⟩ := follow_joinPath hn (follow_of_resolve hplace)
    refine .inr ⟨parent, ?_, hnew, hw⟩
    exact Option.filter_eq_some_iff.mpr ⟨hparent, hdirectory⟩

theorem lawful_view : view.Lawful where
  createDirectory_content path t := (grown_createDirectory t path).content?_eq
  hasDirectory_content _ _ := rfl
  writeFile_directory dir name content t hn := by
    change directory? (t.writeFile (joinPath dir name) content).2 = t.directory?
    rcases writeFile_joinPath hn t dir content with hw | ⟨place, -, hnew, hw⟩
    · rw [hw]
    · rw [hw]
      have hsame := isDirectory_put_file hnew content
      funext path
      rw [directory?, directory?, hsame, follow_congr hsame]
  writeFile_other dir name content t hn place other hother := by
    change content? (t.writeFile (joinPath dir name) content).2 place other = _
    rcases writeFile_joinPath hn t dir content with hw | ⟨parent, hparent, -, hw⟩
    · rw [hw]
      rfl
    · rw [hw]
      refine content?_congr (find?_put_of_ne fun heq ↦ hother ?_)
      obtain ⟨hplace, hname⟩ := List.append_inj' heq rfl
      exact ⟨hplace ▸ hparent, List.singleton_inj.mp hname⟩
  writeFile_ok dir name content t t' hn h := by
    change changed (t.writeFile (joinPath dir name) content) = _ at h
    rcases writeFile_joinPath hn t dir content with hw | ⟨place, hplace, -, hw⟩
    · rw [hw] at h
      cases h
    · rw [hw] at h
      obtain ⟨-, rfl⟩ := Prod.mk.inj h
      refine ⟨place, hplace, ?_⟩
      have hfound : (t.put (place ++ [name]) (.file content)).find? (place ++ [name]) =
          some (.file content) := find?_put_self (List.concat_ne_nil _ _)
      change content? _ place name = _
      rw [content?, hfound]

end View

end FileTree

end MailWindow
