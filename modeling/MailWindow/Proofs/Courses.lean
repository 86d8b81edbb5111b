import MailWindow.Proofs.Readings
import MailWindow.Proofs.Watching

namespace MailWindow

variable {σ : Type}

section Courses

/-- Nothing ends the retrieval at a target that is reached after `n` others. -/
def Clear (c : Nat → Bool) (outcome : Target → Except SessionError (Option Message)) (n : Nat)
    (t : Target) : Prop :=
  c n = false ∧ ∃ m?, outcome t = .ok m?

/-- How targets are tried one after the other, by what reading each comes to and by whether the work
is cancelled after so many of them: the targets up to the first that ends it, those of them that
were tried, and the error. -/
inductive Course (c : Nat → Bool) (outcome : Target → Except SessionError (Option Message))
    (ts : List Target) : List Target → List Target → Option Error → Prop
  | all : (∀ i (h : i < ts.length), Clear c outcome i ts[i]) → Course c outcome ts ts ts none
  | cancelled {i : Nat} (hi : i < ts.length) : (∀ j (h : j < i), Clear c outcome j ts[j]) →
      c i = true → Course c outcome ts (ts.take i) (ts.take i) (some .cancelled)
  | failed {i : Nat} {e : SessionError} (hi : i < ts.length) :
      (∀ j (h : j < i), Clear c outcome j ts[j]) → c i = false → outcome ts[i] = .error e →
      Course c outcome ts (ts.take i) (ts.take (i + 1)) (some (.session e))

def existing (outcome : Target → Except SessionError (Option Message)) (ts : List Target) :
    List Message :=
  ts.filterMap fun t ↦ (outcome t).toOption.join

def Completes (outcome : Target → Except SessionError (Option Message))
    (full : Target → Option Message) : Prop :=
  ∀ t m?, outcome t = .ok m? → full t = m?

namespace Course

variable {c : Nat → Bool} {outcome : Target → Except SessionError (Option Message)} {t : Target}
  {ts reached tried : List Target} {e? : Option Error}

theorem nil : Course c outcome [] [] [] none := .all fun _ h ↦ absurd h (Nat.not_lt_zero _)

theorem cancelled_first (hc : c 0 = true) :
    Course c outcome (t :: ts) [] [] (some .cancelled) :=
  .cancelled (i := 0) (Nat.succ_pos _) (fun _ h ↦ absurd h (Nat.not_lt_zero _)) hc

theorem failed_first {e : SessionError} (hc : c 0 = false) (he : outcome t = .error e) :
    Course c outcome (t :: ts) [] [t] (some (.session e)) :=
  .failed (i := 0) (Nat.succ_pos _) (fun _ h ↦ absurd h (Nat.not_lt_zero _)) hc he

theorem cons (ht : Clear c outcome 0 t)
    (h : Course (fun n ↦ c (n + 1)) outcome ts reached tried e?) :
    Course c outcome (t :: ts) (t :: reached) (t :: tried) e? := by
  have hclear {i : Nat} (hts : ∀ j (h : j < i) (hj : j < ts.length),
      Clear (fun n ↦ c (n + 1)) outcome j ts[j]) :
      ∀ j (h : j < i + 1) (hj : j < (t :: ts).length), Clear c outcome j (t :: ts)[j] := by
    intro j hji hj
    cases j with
    | zero => exact ht
    | succ j => exact hts j (Nat.lt_of_succ_lt_succ hji) (Nat.lt_of_succ_lt_succ hj)
  cases h with
  | all hts =>
    exact .all fun i hi ↦ hclear (fun j _ hj ↦ hts j hj) i hi hi
  | @cancelled i hi hts hc =>
    exact .cancelled (i := i + 1) (Nat.succ_lt_succ hi)
      (fun j hj ↦ hclear (fun j hji _ ↦ hts j hji) j hj _) hc
  | @failed i e hi hts hc he =>
    exact .failed (i := i + 1) (Nat.succ_lt_succ hi)
      (fun j hj ↦ hclear (fun j hji _ ↦ hts j hji) j hj _) hc he

theorem reached_prefix (h : Course c outcome ts reached tried e?) : reached <+: ts := by
  cases h with
  | all _ => exact List.prefix_refl ts
  | cancelled _ _ _ => exact List.take_prefix _ ts
  | failed _ _ _ _ => exact List.take_prefix _ ts

theorem ok_of_mem (h : Course c outcome ts reached tried e?) (ht : t ∈ reached) :
    ∃ m?, outcome t = .ok m? := by
  cases h with
  | all hts =>
    obtain ⟨i, hi, rfl⟩ := List.getElem_of_mem ht
    exact (hts i hi).2
  | cancelled _ hts _ | failed _ hts _ _ =>
    obtain ⟨j, hj, rfl⟩ := List.getElem_of_mem ht
    rw [List.length_take] at hj
    rw [List.getElem_take]
    exact (hts j (by omega)).2

theorem eq_none_of_clear (h : Course c outcome ts reached tried e?)
    (hclear : ∀ i (h : i < ts.length), Clear c outcome i ts[i]) : e? = none := by
  cases h with
  | all _ => rfl
  | cancelled hi _ hc =>
    have hfalse := (hclear _ hi).1
    rw [hc] at hfalse
    cases hfalse
  | failed hi _ _ he =>
    obtain ⟨m?, hok⟩ := (hclear _ hi).2
    rw [he] at hok
    cases hok

/-- Whatever the reads would have come to that failed or were not tried, what is retrieved is the
first part of all. -/
theorem existing_prefix (h : Course c outcome ts reached tried e?) {full : Target → Option Message}
    (hfull : Completes outcome full) : existing outcome reached <+: ts.filterMap full := by
  have hsame : existing outcome reached = reached.filterMap full := by
    refine List.filterMap_congr fun t ht ↦ ?_
    obtain ⟨m?, hok⟩ := h.ok_of_mem ht
    rw [hok, hfull t m? hok]
    rfl
  rw [hsame]
  exact h.reached_prefix.filterMap full

end Course

theorem existing_cons {outcome : Target → Except SessionError (Option Message)} {t : Target}
    {m? : Option Message} (h : outcome t = .ok m?) (ts : List Target) :
    existing outcome (t :: ts) = m?.toList ++ existing outcome ts := by
  rw [existing, List.filterMap_cons, h]
  cases m? <;> rfl

end Courses

section Repeatable

variable [Folder σ]

def readAll : List Target → σ → σ
  | [], f => f
  | t :: ts, f => readAll ts (t.fetch f).2

/-- Reading a message comes to the same, whatever was read before. -/
def Repeatable (outcome : Target → Except SessionError (Option Message)) (f : σ) : Prop :=
  ∀ ts t, (t.fetch (readAll ts f)).1 = outcome t

variable {outcome : Target → Except SessionError (Option Message)} {f : σ} {w w' : Watched σ}

theorem Repeatable.next (h : Repeatable outcome f) (t : Target) :
    Repeatable outcome (t.fetch f).2 := fun ts ↦ h (t :: ts)

theorem Repeatable.fetch (h : Repeatable outcome w.inner) (t : Target) :
    ∃ w', t.fetch w = (outcome t, w') ∧ Repeatable outcome w'.inner ∧ w.Reads w' [t] := by
  have hinner : t.fetch w.inner = (t.fetch w).map id Watched.inner := Watched.hom_inner.fetch t w
  have hresult : (t.fetch w).1 = outcome t := by
    rw [← h [] t]
    exact (congrArg Prod.fst hinner).symm
  have hstate : (t.fetch w).2.inner = (t.fetch w.inner).2 := (congrArg Prod.snd hinner).symm
  refine ⟨(t.fetch w).2, ?_, ?_, .cons (.nil _)⟩
  · rw [← hresult]
  · rw [hstate]
    exact h.next t

/-- In a folder in memory reads come to the same in any order, be there faults or not. -/
theorem Repeatable.of_isOpen {f : MemoryFolder} (ho : f.isOpen = true) :
    Repeatable (fun t ↦ (t.fetch f).1) f := by
  have htwins (cs : List Call) : f.Twins (f.logs cs) := ⟨rfl, ho, ho⟩
  have hlogs (ts : List Target) (cs : List Call) : ∃ ds, readAll ts (f.logs cs) = f.logs ds := by
    induction ts generalizing cs with
    | nil => exact ⟨cs, rfl⟩
    | cons t ts ih =>
      obtain ⟨a, ds, -, -, hfetch⟩ := MemoryFolder.fetch_agree (htwins cs) t
      rw [readAll, hfetch, MemoryFolder.logs_logs]
      exact ih (cs ++ ds)
  intro ts t
  obtain ⟨ds, hds⟩ := hlogs ts []
  obtain ⟨a, es, -, hfetch, hfetch'⟩ := MemoryFolder.fetch_agree (htwins ds) t
  rw [logs_nil] at hds
  rw [hds, hfetch']
  exact (congrArg Prod.fst hfetch).symm

end Repeatable

theorem Halt.pulled_cons (n : Nat) (m : Message) (ms : List Message) (halt : Halt) :
    halt.pulled (n + 1) (m :: ms) = (.ok m :: (halt.pulled n ms).1, (halt.pulled n ms).2) := by
  cases halt with
  | ended => rfl
  | failed e =>
    simp only [pulled, List.length_cons, Nat.add_lt_add_iff_right]
    rfl
  | dropped => rfl

def itemsOf (ms : List Message) (e? : Option Error) : List (Except Error Message) :=
  ms.map .ok ++ e?.toList.map .error

theorem exists_course (c : Nat → Bool) (outcome : Target → Except SessionError (Option Message))
    (ts : List Target) : ∃ reached tried e?, Course c outcome ts reached tried e? := by
  induction ts generalizing c with
  | nil => exact ⟨[], [], none, .nil⟩
  | cons t ts ih =>
    cases hc : c 0 with
    | true => exact ⟨_, _, _, .cancelled_first hc⟩
    | false =>
      cases ho : outcome t with
      | error e => exact ⟨_, _, _, .failed_first hc ho⟩
      | ok m? =>
        obtain ⟨reached, tried, e?, hcourse⟩ := ih fun n ↦ c (n + 1)
        exact ⟨_, _, _, hcourse.cons ⟨hc, m?, ho⟩⟩

namespace Watched

def cancelled (c : Nat → Bool) (w : Watched σ) : Bool := c w.tried.length

variable {w w' w'' : Watched σ} {n : Nat} {t : Target} {tried : List Target}
  {items : List (Except Error Message)} {seen : List (Except Error Message) × Bool}

theorem Reads.shift (h : w.Reads w' [t]) (c : Nat → Bool) :
    (fun n ↦ c (w'.tried.length + n)) = fun n ↦ c (w.tried.length + (n + 1)) := by
  funext n
  rw [h.tried_eq, List.length_append, List.length_singleton, Nat.add_assoc, Nat.add_comm 1]

/-- Of the items that there are, `n` pulls see the first ones, and that these are all if one more was
asked for. The targets are tried only as far as this takes. -/
structure Pulls (w w' : Watched σ) (n : Nat) (items : List (Except Error Message))
    (tried : List Target) (seen : List (Except Error Message) × Bool) : Prop where
  seen_eq : seen = (items.take n, decide (items.length < n))
  tries : ∃ ts, w'.tried = w.tried ++ ts ∧ ts <+: tried ∧ (items.length < n → ts = tried)

theorem Pulls.none (w : Watched σ) (items : List (Except Error Message)) (tried : List Target) :
    w.Pulls w 0 items tried ([], false) where
  seen_eq := by rw [List.take_zero, decide_eq_false (Nat.not_lt_zero _)]
  tries := ⟨[], (List.append_nil _).symm, List.nil_prefix, fun h ↦ absurd h (Nat.not_lt_zero _)⟩

theorem Pulls.ended (w : Watched σ) (n : Nat) : w.Pulls w (n + 1) [] [] ([], true) where
  seen_eq := rfl
  tries := ⟨[], (List.append_nil _).symm, List.nil_prefix, fun _ ↦ rfl⟩

theorem Pulls.error (h : w'.tried = w.tried ++ tried) (n : Nat) (e : Error) :
    w.Pulls w' (n + 1) [.error e] tried (Halt.pulled (n + 1) [] (.failed e)) where
  seen_eq := by rw [List.take_of_length_le (Nat.le_add_left 1 n)]; rfl
  tries := ⟨tried, h, List.prefix_refl _, fun _ ↦ rfl⟩

theorem Pulls.absent (hr : w.Reads w' [t]) (h : w'.Pulls w'' n items tried seen) :
    w.Pulls w'' n items (t :: tried) seen where
  seen_eq := h.seen_eq
  tries := by
    obtain ⟨ts, htried, hprefix, hall⟩ := h.tries
    refine ⟨t :: ts, ?_, List.cons_prefix_cons.mpr ⟨rfl, hprefix⟩, fun hn ↦ ?_⟩
    · rw [htried, hr.tried_eq, List.append_assoc, List.singleton_append]
    · rw [hall hn]

theorem Pulls.item (hr : w.Reads w' [t]) (h : w'.Pulls w'' n items tried seen)
    (item : Except Error Message) :
    w.Pulls w'' (n + 1) (item :: items) (t :: tried) (item :: seen.1, seen.2) where
  seen_eq := by
    rw [h.seen_eq, List.take_succ_cons, List.length_cons]
    simp only [Nat.add_lt_add_iff_right]
  tries := by
    obtain ⟨ts, htried, hprefix, hall⟩ := (h.absent hr).tries
    exact ⟨ts, htried, hprefix, fun hn ↦ hall (Nat.lt_of_succ_lt_succ hn)⟩

end Watched

section Loops

variable [Folder σ] {outcome : Target → Except SessionError (Option Message)} {w : Watched σ}

theorem retrieveEach_course (c : Nat → Bool) (h : Repeatable outcome w.inner) (ts : List Target) :
    ∃ reached tried e? w', Course (fun n ↦ c (w.tried.length + n)) outcome ts reached tried e? ∧
      retrieveEach (Watched.cancelled c) ts w =
        ({ messages := existing outcome reached, error? := e? }, w') ∧
      w'.tried = w.tried ++ tried := by
  induction ts generalizing w with
  | nil => exact ⟨[], [], none, w, .nil, rfl, (List.append_nil _).symm⟩
  | cons t ts ih =>
    rw [retrieveEach]
    cases hc : Watched.cancelled c w with
    | true =>
      exact ⟨[], [], some .cancelled, w, .cancelled_first hc, rfl,
        (List.append_nil _).symm⟩
    | false =>
      obtain ⟨w', hfetch, hnext, hreads⟩ := h.fetch t
      rw [hfetch]
      cases ho : outcome t with
      | error e =>
        exact ⟨[], [t], some (.session e), w', .failed_first hc ho, rfl,
          hreads.tried_eq⟩
      | ok m? =>
        obtain ⟨reached, tried, e?, w'', hcourse, hrest, htried⟩ := ih hnext
        rw [hreads.shift] at hcourse
        refine ⟨t :: reached, t :: tried, e?, w'', hcourse.cons ⟨hc, m?, ho⟩, ?_, ?_⟩
        · simp only [hrest, existing_cons ho]
          rfl
        · rw [htried, hreads.tried_eq, List.append_assoc, List.singleton_append]

theorem draw_course (c : Nat → Bool) (h : Repeatable outcome w.inner) (n : Nat)
    (ts : List Target) :
    ∃ reached tried e? ms halt w',
      Course (fun n ↦ c (w.tried.length + n)) outcome ts reached tried e? ∧
      draw (Watched.cancelled c) n ts w = ((ms, halt), w') ∧
      w.Pulls w' n (itemsOf (existing outcome reached) e?) tried (halt.pulled n ms) := by
  induction ts generalizing n w with
  | nil =>
    cases n with
    | zero => exact ⟨[], [], none, [], .dropped, w, .nil, rfl, .none w _ _⟩
    | succ n => exact ⟨[], [], none, [], .ended, w, .nil, rfl, .ended w n⟩
  | cons t ts ih =>
    cases n with
    | zero =>
      obtain ⟨reached, tried, e?, hcourse⟩ :=
        exists_course (fun n ↦ c (w.tried.length + n)) outcome (t :: ts)
      exact ⟨reached, tried, e?, [], .dropped, w, hcourse, rfl, .none w _ _⟩
    | succ n =>
      rw [draw]
      cases hc : Watched.cancelled c w with
      | true =>
        exact ⟨[], [], some .cancelled, [], .failed .cancelled, w,
          .cancelled_first hc, rfl, .error (List.append_nil _).symm n _⟩
      | false =>
        obtain ⟨w', hfetch, hnext, hreads⟩ := h.fetch t
        rw [hfetch]
        cases ho : outcome t with
        | error e =>
          exact ⟨[], [t], some (.session e), [], .failed (.session e), w',
            .failed_first hc ho, rfl, .error hreads.tried_eq n _⟩
        | ok m? =>
          cases m? with
          | none =>
            obtain ⟨reached, tried, e?, ms, halt, w'', hcourse, hrest, hpulls⟩ := ih hnext (n + 1)
            rw [hreads.shift] at hcourse
            refine ⟨t :: reached, t :: tried, e?, ms, halt, w'', hcourse.cons ⟨hc, none, ho⟩, hrest,
              ?_⟩
            rw [existing_cons ho]
            exact hpulls.absent hreads
          | some m =>
            obtain ⟨reached, tried, e?, ms, halt, w'', hcourse, hrest, hpulls⟩ := ih hnext n
            rw [hreads.shift] at hcourse
            refine ⟨t :: reached, t :: tried, e?, m :: ms, halt, w'',
              hcourse.cons ⟨hc, some m, ho⟩, ?_, ?_⟩
            · simp only [hrest]
              rfl
            · rw [existing_cons ho, halt.pulled_cons]
              exact hpulls.item hreads (.ok m)

end Loops

end MailWindow
