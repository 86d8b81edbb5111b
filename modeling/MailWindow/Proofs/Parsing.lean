import MailWindow.Folder.Stored
import MailWindow.Proofs.Scanning

namespace MailWindow

namespace Query

def joined : List Query → Query
  | [] => all
  | [q] => q
  | qs => conj qs

mutual

/-- The query without conjunctions of fewer than two queries. -/
def canon : Query → Query
  | conj qs => joined (canonEach qs)
  | disj p q => disj (canon p) (canon q)
  | neg q => neg (canon q)
  | q => q

def canonEach : List Query → List Query
  | [] => []
  | q :: qs => canon q :: canonEach qs

end

end Query

namespace Scanner

def criterion (key : Scanner Query) : String → Scanner Query
  | "ALL" => pure .all
  | "SEEN" => pure .seen
  | "UNSEEN" => pure .unseen
  | "FLAGGED" => pure .flagged
  | "ANSWERED" => pure .answered
  | "DELETED" => pure .deleted
  | "SUBJECT" => Query.subject <$> spaced argument
  | "FROM" => Query.sender <$> spaced argument
  | "TO" => Query.recipient <$> spaced argument
  | "BODY" => Query.body <$> spaced argument
  | "TEXT" => Query.text <$> spaced argument
  | "HEADER" => spaced (both Query.header argument)
  | "SINCE" => Query.since <$> spaced date
  | "BEFORE" => Query.before <$> spaced date
  | "ON" => Query.on <$> spaced date
  | "LARGER" => Query.larger <$> spaced number
  | "SMALLER" => Query.smaller <$> spaced number
  | "UID" => Query.ids <$> spaced set
  | "OR" => spaced (both Query.disj key)
  | "NOT" => Query.neg <$> spaced key
  | _ => failure

mutual

/-- One criterion, or some of them in parentheses. The number bounds the recursion; the length of
the text is enough. -/
def key : Nat → Scanner Query
  | 0, _ => none
  | n + 1, '(' :: cs => (keys n cs).bind fun x ↦ (mark ')' x.2).map fun y ↦ (.joined x.1, y.2)
  | n + 1, cs => (piece Char.isUpper cs).bind fun x ↦ criterion (key n) (.ofList x.1) x.2

def keys : Nat → Scanner (List Query)
  | 0, _ => none
  | n + 1, cs => (key n cs).bind fun x ↦
    match x.2 with
    | ' ' :: rest => (keys n rest).map fun y ↦ (x.1 :: y.1, y.2)
    | rest => some ([x.1], rest)

end

section Reading

open Query

variable {n : Nat}

theorem key_of_isUpper {c : Char} (hc : c.isUpper = true) (cs : List Char) :
    key (n + 1) (c :: cs) =
      (piece Char.isUpper (c :: cs)).bind fun x ↦ criterion (key n) (.ofList x.1) x.2 := by
  rw [key]
  intro _ h
  obtain rfl := (List.cons.inj h).1
  cases hc

theorem reads_group {text : List Char} {qs : List Query}
    (h : ∀ rest, keys n (text ++ ')' :: rest) = some (qs, ')' :: rest)) :
    Reads (key (n + 1)) ('(' :: text ++ [')']) (joined qs) := by
  intro rest _
  have htext : '(' :: text ++ [')'] ++ rest = '(' :: (text ++ ')' :: rest) := by
    rw [List.append_assoc]
    rfl
  rw [htext, key, h, Option.bind_some]
  rfl

theorem keys_last {text : List Char} {q : Query} (h : Reads (key n) text q) {rest : List Char}
    (hrest : ∀ c ∈ rest.head?, c = ')') : keys (n + 1) (text ++ rest) = some ([q], rest) := by
  have hkey := h rest fun c hc ↦ .inr (hrest c hc)
  rw [keys, hkey, Option.bind_some]
  cases rest with
  | nil => rfl
  | cons c rest =>
    obtain rfl := hrest c rfl
    rfl

theorem keys_more {text text' rest : List Char} {q : Query} {qs : List Query}
    (h : Reads (key n) text q) (hmore : keys n (text' ++ rest) = some (qs, rest)) :
    keys (n + 1) (text ++ ' ' :: text' ++ rest) = some (q :: qs, rest) := by
  have hkey := h (' ' :: text' ++ rest) (stops_space _)
  rw [List.append_assoc, keys, hkey, Option.bind_some]
  change (keys n (text' ++ rest)).map _ = _
  rw [hmore, Option.map_some]

def isWord (word : String) : Bool := !word.toList.isEmpty && word.toList.all Char.isUpper

theorem reads_criterion (word : String) {text : List Char} {q : Query}
    (hword : isWord word = true)
    (htext : ∀ c ∈ text.head?, c = ' ') (h : Reads (criterion (key n) word) text q) :
    Reads (key (n + 1)) (word.toList ++ text) q := by
  simp only [isWord, Bool.and_eq_true, Bool.not_eq_true', List.isEmpty_eq_false_iff,
    List.all_eq_true] at hword
  obtain ⟨hne, hupper⟩ := hword
  intro rest hrest
  have hpiece : piece Char.isUpper (word.toList ++ (text ++ rest)) =
      some (word.toList, text ++ rest) := by
    apply piece_append hupper
    intro c hc
    cases text with
    | nil => rcases hrest c hc with rfl | rfl <;> rfl
    | cons d text =>
      obtain rfl := htext c hc
      rfl
  rw [List.append_assoc]
  cases hcs : word.toList with
  | nil => exact absurd hcs hne
  | cons c cs =>
    rw [hcs] at hpiece hupper
    rw [List.cons_append] at hpiece ⊢
    rw [key_of_isUpper (hupper c List.mem_cons_self), hpiece, Option.bind_some, ← hcs,
      String.ofList_toList]
    exact h rest hrest

theorem reads_word (word : String) {q : Query}
    (hword : isWord word = true)
    (h : criterion (key n) word = pure q) : Reads (key (n + 1)) word.toList q := by
  have hread : Reads (criterion (key n) word) [] q := h ▸ reads_pure q
  have hnone : ∀ c ∈ ([] : List Char).head?, c = ' ' := fun _ h ↦ nomatch h
  have hcriterion := reads_criterion word hword hnone hread
  rwa [List.append_nil] at hcriterion

theorem reads_applied (word : String) {text : List Char} {q : Query}
    (hword : isWord word = true)
    (h : Reads (criterion (key n) word) (' ' :: text) q) :
    Reads (key (n + 1)) (word.toList ++ ' ' :: text) q :=
  reads_criterion word hword (fun _ h ↦ (Option.some.inj h).symm) h

mutual

theorem reads_key : ∀ (q : Query) (n : Nat), (render true q).length ≤ n →
    Reads (key (n + 1)) (render true q) q.canon
  | .all, n, _ => reads_word "ALL" rfl rfl
  | .seen, n, _ => reads_word "SEEN" rfl rfl
  | .unseen, n, _ => reads_word "UNSEEN" rfl rfl
  | .flagged, n, _ => reads_word "FLAGGED" rfl rfl
  | .answered, n, _ => reads_word "ANSWERED" rfl rfl
  | .deleted, n, _ => reads_word "DELETED" rfl rfl
  | .subject s, n, _ =>
    reads_applied "SUBJECT" rfl ((reads_argument s).spaced.map Query.subject)
  | .sender s, n, _ =>
    reads_applied "FROM" rfl ((reads_argument s).spaced.map Query.sender)
  | .recipient s, n, _ =>
    reads_applied "TO" rfl ((reads_argument s).spaced.map Query.recipient)
  | .body s, n, _ =>
    reads_applied "BODY" rfl ((reads_argument s).spaced.map Query.body)
  | .text s, n, _ =>
    reads_applied "TEXT" rfl ((reads_argument s).spaced.map Query.text)
  | .header name value, n, _ =>
    reads_applied "HEADER" rfl
      ((reads_argument name).both (reads_argument value) Query.header).spaced
  | .since d, n, _ =>
    reads_applied "SINCE" rfl ((reads_date d).spaced.map Query.since)
  | .before d, n, _ =>
    reads_applied "BEFORE" rfl ((reads_date d).spaced.map Query.before)
  | .on d, n, _ => reads_applied "ON" rfl ((reads_date d).spaced.map Query.on)
  | .larger m, n, _ =>
    reads_applied "LARGER" rfl ((reads_number m).spaced.map Query.larger)
  | .smaller m, n, _ =>
    reads_applied "SMALLER" rfl ((reads_number m).spaced.map Query.smaller)
  | .ids set, n, _ =>
    reads_applied "UID" rfl ((reads_set set).spaced.map Query.ids)
  | .conj [], n, _ => reads_word "ALL" rfl rfl
  | .conj [q], n, h => reads_key q n h
  | .conj (p :: q :: qs), n, h => by
    let inner := render true p ++ renderTail (q :: qs)
    have hrender : render true (.conj (p :: q :: qs)) = '(' :: inner ++ [')'] := rfl
    rw [hrender] at h ⊢
    rw [List.length_append, List.length_cons, List.length_singleton] at h
    obtain ⟨m, rfl⟩ : ∃ m, n = m + 2 := ⟨n - 2, by omega⟩
    have htail : renderTail (p :: q :: qs) = ' ' :: inner := rfl
    refine reads_group fun rest ↦ keys_renderTail (p :: q :: qs) m inner _ htail (by omega) ?_
    rintro c ⟨⟩
    rfl
  | .disj p q, n, h => by
    have hrender : render true (.disj p q) =
        "OR".toList ++ ' ' :: (render true p ++ ' ' :: render true q) := rfl
    rw [hrender] at h ⊢
    simp only [List.length_append, List.length_cons] at h
    obtain ⟨m, rfl⟩ : ∃ m, n = m + 1 := ⟨n - 1, by omega⟩
    have hp := reads_key p m (by omega)
    have hq := reads_key q m (by omega)
    exact reads_applied "OR" rfl (hp.both hq Query.disj).spaced
  | .neg q, n, h => by
    have hrender : render true (.neg q) = "NOT".toList ++ ' ' :: render true q := rfl
    rw [hrender] at h ⊢
    rw [List.length_append, List.length_cons] at h
    obtain ⟨m, rfl⟩ : ∃ m, n = m + 1 := ⟨n - 1, by omega⟩
    have hq := reads_key q m (by omega)
    exact reads_applied "NOT" rfl (hq.spaced.map Query.neg)

theorem keys_renderTail : ∀ (qs : List Query) (n : Nat) (inner rest : List Char),
    renderTail qs = ' ' :: inner → inner.length ≤ n → (∀ c ∈ rest.head?, c = ')') →
    keys (n + 2) (inner ++ rest) = some (canonEach qs, rest)
  | [], _, _, _, h, _, _ => nomatch h
  | [q], n, inner, rest, h, hn, hrest => by
    obtain rfl : inner = render true q := by
      simpa [renderTail, eq_comm] using h
    exact keys_last (reads_key q n hn) hrest
  | p :: q :: qs, n, inner, rest, h, hn, hrest => by
    let inner' := render true q ++ renderTail qs
    obtain rfl : inner = render true p ++ ' ' :: inner' := by
      simpa [renderTail, inner', eq_comm] using h
    rw [List.length_append, List.length_cons] at hn
    obtain ⟨m, rfl⟩ := Nat.exists_eq_succ_of_ne_zero (n := n) (by omega)
    have hp := reads_key p (m + 1) (by omega)
    have hmore := keys_renderTail (q :: qs) m inner' rest rfl (by omega) hrest
    exact keys_more hp hmore

end

theorem keys_single {q : Query} (h : render false q = render true q) :
    keys ((render false q).length + 2) (render false q) = some ([q.canon], []) := by
  have hnone : ∀ c ∈ ([] : List Char).head?, c = ')' := fun _ h ↦ nomatch h
  have hlast := keys_last (reads_key q _ (Nat.le_refl _)) hnone
  rwa [List.append_nil, ← h] at hlast

theorem keys_render : ∀ q : Query, ∃ qs,
    keys ((render false q).length + 2) (render false q) = some (qs, []) ∧ joined qs = q.canon
  | .conj (p :: q :: qs) => by
    have hinner := keys_renderTail (p :: q :: qs) _ (render true p ++ renderTail (q :: qs)) [] rfl
      (Nat.le_refl _) fun _ h ↦ nomatch h
    rw [List.append_nil] at hinner
    exact ⟨_, hinner, rfl⟩
  | .conj [q] => keys_render q
  | .conj [] | .all | .seen | .unseen | .flagged | .answered | .deleted | .subject _ | .sender _
  | .recipient _ | .body _ | .text _ | .header _ _ | .since _ | .before _ | .on _ | .larger _
  | .smaller _ | .ids _ | .disj _ _ | .neg _ => ⟨_, keys_single rfl, rfl⟩

end Reading

end Scanner

namespace Query

/-- The query that a text stands for. -/
def parse? (text : String) : Option Query :=
  match Scanner.keys (text.toList.length + 2) text.toList with
  | some (qs, []) => some (joined qs)
  | _ => none

theorem parse?_ofList_render (q : Query) : parse? (.ofList (render false q)) = some q.canon := by
  obtain ⟨qs, hkeys, hjoined⟩ := Scanner.keys_render q
  rw [parse?, String.toList_ofList, hkeys, ← hjoined]

end Query

namespace Stored

open Query

theorem satisfies_joined (m : Stored) (qs : List Query) :
    m.satisfies (joined qs) = m.satisfiesEach qs := by
  rcases qs with _ | ⟨q, _ | ⟨q', qs⟩⟩
  · rfl
  · exact (Bool.and_true _).symm
  · rfl

mutual

theorem satisfies_canon (m : Stored) : ∀ q : Query, m.satisfies q.canon = m.satisfies q
  | .conj qs => (m.satisfies_joined _).trans (satisfiesEach_canonEach m qs)
  | .disj p q => by
    change (m.satisfies p.canon || m.satisfies q.canon) = (m.satisfies p || m.satisfies q)
    rw [satisfies_canon m p, satisfies_canon m q]
  | .neg q => congrArg (! ·) (satisfies_canon m q)
  | .all | .seen | .unseen | .flagged | .answered | .deleted | .subject _ | .sender _
  | .recipient _ | .body _ | .text _ | .header _ _ | .since _ | .before _ | .on _ | .larger _
  | .smaller _ | .ids _ => rfl

theorem satisfiesEach_canonEach (m : Stored) :
    ∀ qs : List Query, m.satisfiesEach (canonEach qs) = m.satisfiesEach qs
  | [] => rfl
  | q :: qs => by
    change (m.satisfies q.canon && m.satisfiesEach (canonEach qs)) =
      (m.satisfies q && m.satisfiesEach qs)
    rw [satisfies_canon m q, satisfiesEach_canonEach m qs]

end

end Stored

namespace Query

/-- A parser finds each query again in its text, up to conjunctions of fewer than two queries. So
queries with the same text are the same up to these, and they match the same messages. -/
theorem toText_unambiguous : (∀ q : Query, parse? q.toText = some q.canon) ∧
    ∀ p q : Query, p.toText = q.toText →
      p.canon = q.canon ∧ ∀ m : Stored, m.satisfies p = m.satisfies q := by
  refine ⟨parse?_ofList_render, ?_⟩
  intro p q h
  have hcanon : p.canon = q.canon := by
    apply Option.some.inj
    rw [← parse?_ofList_render p, ← parse?_ofList_render q]
    exact congrArg parse? h
  refine ⟨hcanon, fun m ↦ ?_⟩
  rw [← m.satisfies_canon p, ← m.satisfies_canon q, hcanon]

/-- What looks like a criterion in an argument stays in it. -/
theorem toText_unambiguous_nested :
    let p : Query := .neg (.conj [.conj [.subject "a) OR (b"], .conj [], .seen])
    let q : Query := .neg (.conj [.subject "a) OR (b", .all, .seen])
    p.toText = "NOT (SUBJECT \"a) OR (b\" ALL SEEN)" ∧ parse? p.toText = some q ∧
      p.toText = q.toText ∧ p.canon = q.canon ∧ ∀ m : Stored, m.satisfies p = m.satisfies q := by
  intro p q
  obtain ⟨hparse, hsame⟩ := toText_unambiguous
  exact ⟨rfl, hparse p, rfl, hsame p q rfl⟩

end Query

end MailWindow
