import MailWindow.Proofs.Ascending
import MailWindow.Proofs.Courses

namespace MailWindow

variable {σ : Type}

section Order

def Target.Before : Target → Target → Prop
  | .id a, .id b => a < b
  | .index i, .index j => i < j
  | _, _ => False

variable [Folder σ] {f g : σ} {ts : Targets}

theorem Window.targets_shape {w : Window} (h : w.targets f = (.ok ts, g)) :
    ts.ascending.Pairwise Target.Before ∧ (ts.newestFirst = true ↔ ∃ range, w = .newest range) ∧
      (w = .empty → ts.list = []) := by
  cases w with
  | empty =>
    cases h
    exact ⟨.nil, iff_of_false (by simp) (by simp), fun _ ↦ rfl⟩
  | ids set =>
    rw [targets] at h
    rcases hfetch : Folder.fetchIds set .idOnly f with ⟨e | found, g'⟩
    · rw [hfetch] at h
      cases h
    · rw [hfetch] at h
      cases h
      refine ⟨List.pairwise_map.mpr ?_, iff_of_false (by simp) (by simp), fun hw ↦ by cases hw⟩
      exact ascending_squeeze (pairwise_mergeSort_key id _)
  | indices range =>
    cases h
    exact ⟨List.pairwise_map.mpr range.pairwise_toList, iff_of_false (by simp) (by simp),
      fun hw ↦ by cases hw⟩
  | newest range =>
    cases h
    refine ⟨?_, iff_of_true rfl ⟨range, rfl⟩, fun hw ↦ by cases hw⟩
    simp only [Targets.ascending, if_true, ← List.map_reverse, List.reverse_reverse]
    exact List.pairwise_map.mpr range.pairwise_toList

theorem Plan.resolve_shape {p : Plan} {cap : UInt32} {w : Window}
    (h : p.resolve cap f = (.ok w, g)) :
    ((∃ range, w = .newest range) ↔ ∃ range, p = .newest range) ∧ (p = .empty → w = .empty) := by
  cases p with
  | search query skip take =>
    rw [resolve] at h
    rcases hsearch : Folder.search query f with ⟨e | candidates, g'⟩
    · rw [hsearch] at h
      cases h
    · rw [hsearch] at h
      obtain ⟨hw, rfl⟩ := Prod.mk.inj h
      obtain rfl := Except.ok.inj hw
      refine ⟨iff_of_false ?_ (by simp), fun hp ↦ by cases hp⟩
      rintro ⟨range, hrange⟩
      split at hrange <;> cases hrange
  | newest range =>
    cases h
    exact ⟨iff_of_true ⟨range, rfl⟩ ⟨range, rfl⟩, fun hp ↦ by cases hp⟩
  | empty =>
    cases h
    exact ⟨iff_of_false (by simp) (by simp), fun _ ↦ rfl⟩
  | _ =>
    cases h
    exact ⟨iff_of_false (by simp) (by simp), fun hp ↦ by cases hp⟩

theorem Spec.plan_newest_iff (s : Spec) (count cap : UInt32) :
    ((∃ range, (s.plan count cap).plan = .newest range) → s.mode = .newest) ∧
      (s.mode = .newest → (s.plan count cap).plan = .empty ∨
        ∃ range, (s.plan count cap).plan = .newest range) := by
  rw [plan, mode]
  cases s.take.isZero with
  | true => exact ⟨by simp, fun _ ↦ .inl rfl⟩
  | false =>
    cases s.selection with
    | idRange range =>
      refine ⟨?_, fun hm ↦ by cases hm⟩
      rintro ⟨r, hr⟩
      cases hi : range.isInverted <;> simp [hi] at hr
    | search query skip take =>
      refine ⟨?_, fun hm ↦ by cases hm⟩
      rintro ⟨r, hr⟩
      by_cases hs : cap ≤ skip <;> simp [hs] at hr
    | index skip take =>
      refine ⟨?_, fun hm ↦ by cases hm⟩
      rintro ⟨r, hr⟩
      by_cases hs : skip < count
      · cases hi : indexRange count skip take <;> simp [hs, hi] at hr
      · cases hc : s.continuous <;> simp [hs, hc] at hr
    | newest n =>
      refine ⟨fun _ ↦ rfl, fun _ ↦ ?_⟩
      cases hn : newestRange count n with
      | none => exact .inl (by simp [hn])
      | some range => exact .inr ⟨range, by simp [hn]⟩

end Order

namespace Reader

section Found

variable {ρ : Type} [Folder σ] [Folder ρ]

def found (r : Reader σ) : Except Error (Targets × σ) :=
  if r.spec.take.isZero then .ok ({ list := [] }, r.folder)
  else match r.enter with
    | (.error e, _) => .error e
    | (.ok v, r) =>
      match r.targets v with
      | (.error e, _) => .error (.session e)
      | (.ok ts, f) => .ok (ts, f)

theorem found_mapFolder {φ : σ → ρ} (hφ : Folder.Hom φ) (r : Reader σ) :
    (r.mapFolder φ).found = r.found.map (Prod.map id φ) := by
  rw [found, found, enter_mapFolder hφ]
  change (if r.spec.take.isZero = true then _ else _) = _
  cases r.spec.take.isZero with
  | true => rfl
  | false =>
    rcases r.enter with ⟨e | v, r'⟩
    · rfl
    · simp only [Prod.map_apply, id_eq, targets_mapFolder hφ, Bool.false_eq_true, if_false]
      rcases r'.targets v with ⟨e | ts, f⟩ <;> rfl

theorem watched_found_of_error {r : Reader σ} {e : Error} (h : r.found = .error e) :
    r.watched.found = .error e := by
  have hwatched : r.found = r.watched.found.map (Prod.map id Watched.inner) :=
    found_mapFolder Watched.hom_inner r.watched
  rw [h] at hwatched
  cases hfound : r.watched.found with
  | error e' =>
    rw [hfound] at hwatched
    exact congrArg Except.error (Except.error.inj hwatched).symm
  | ok x =>
    rw [hfound] at hwatched
    cases hwatched

theorem watched_found_of_ok {r : Reader σ} {ts : Targets} {f : σ} (h : r.found = .ok (ts, f)) :
    ∃ w, r.watched.found = .ok (ts, w) ∧ w.inner = f := by
  have hwatched : r.found = r.watched.found.map (Prod.map id Watched.inner) :=
    found_mapFolder Watched.hom_inner r.watched
  rw [h] at hwatched
  cases hfound : r.watched.found with
  | error e =>
    rw [hfound] at hwatched
    cases hwatched
  | ok x =>
    rw [hfound] at hwatched
    obtain ⟨rfl, rfl⟩ := Prod.mk.inj (Except.ok.inj hwatched)
    exact ⟨x.2, rfl, rfl⟩

theorem found_shape {r : Reader σ} {ts : Targets} {f : σ} (h : r.found = .ok (ts, f)) :
    ts.ascending.Pairwise Target.Before ∧ (ts.newestFirst = true → r.spec.mode = .newest) ∧
      (r.spec.mode = .newest → ts.newestFirst = true ∨ ts.list = []) := by
  rw [found] at h
  cases ht : r.spec.take.isZero with
  | true =>
    rw [ht] at h
    cases h
    exact ⟨.nil, by simp, fun _ ↦ .inr rfl⟩
  | false =>
    rw [ht] at h
    rcases he : r.enter with ⟨e | v, r'⟩
    · rw [he] at h
      cases h
    · obtain ⟨⟨count, hplan⟩, -⟩ := enter_ok he
      rw [he] at h
      simp only [Bool.false_eq_true, if_false, targets] at h
      rcases hw : r'.window v with ⟨e | w, g⟩
      · rw [hw] at h
        cases h
      · rw [hw] at h
        rcases hts : w.targets g with ⟨e | ts', g'⟩
        · simp only [hts] at h
          cases h
        · simp only [hts] at h
          cases h
          obtain ⟨hasc, hnewest, hempty⟩ := Window.targets_shape hts
          obtain ⟨hplanned, hnothing⟩ := Plan.resolve_shape hw
          obtain ⟨hmode, hmode'⟩ :=
            r.spec.plan_newest_iff count r.config.searchCap
          rw [← hplan] at hmode hmode'
          refine ⟨hasc, fun hn ↦ hmode (hplanned.mp (hnewest.mp hn)), fun hm ↦ ?_⟩
          rcases hmode' hm with hp | hp
          · exact .inr (hempty (hnothing hp))
          · exact .inl (hnewest.mpr (hplanned.mpr hp))

end Found

section Calls

variable [Folder σ] {r : Reader (Watched σ)} {α : Type}

theorem tried_targets (r : Reader (Watched σ)) (v : Visit) :
    (r.targets v).2.tried = r.folder.tried := by
  have hwindow : (r.window v).2.tried = r.folder.tried := by
    rw [window]
    cases v.plan with
    | search query skip take =>
      rw [Plan.resolve]
      rcases hsearch : Folder.search query r.folder with ⟨e | candidates, w⟩
      all_goals
        simp only [Watched.tried, Watched.heard_search hsearch, List.filterMap_append]
        exact List.append_nil _
    | _ => rfl
  rw [targets]
  rcases hw : r.window v with ⟨e | w, f⟩
  · rw [hw] at hwindow
    exact hwindow
  · rw [hw] at hwindow
    cases w with
    | ids set =>
      simp only [Window.targets]
      rcases hfetch : Folder.fetchIds set .idOnly f with ⟨e | found, g⟩
      all_goals
        simp only [Watched.tried, Watched.heard_fetchIds hfetch, List.filterMap_append]
        exact (List.append_nil _).trans hwindow
    | _ => exact hwindow

theorem attend_found (work : Targets → Watched σ → α × Watched σ) {idle : α} {refused : Error → α}
    {errand : Reader (Watched σ) → Visit → (α × Ending) × Watched σ}
    (herror : ∀ r v e w, r.targets v = (.error e, w) →
      (errand r v).1.1 = refused (.session e) ∧ (errand r v).2 = w)
    (hok : ∀ r v ts w, r.targets v = (.ok ts, w) →
      (errand r v).1.1 = (work ts w).1 ∧ (errand r v).2 = (work ts w).2)
    (hidle : ∀ w, work { list := [] } w = (idle, w)) (r : Reader (Watched σ)) :
    (∀ e, r.found = .error e → (r.attend idle refused errand).1 = refused e ∧
      (r.attend idle refused errand).2.folder.tried = r.folder.tried) ∧
    ∀ ts w, r.found = .ok (ts, w) → w.tried = r.folder.tried ∧
      (r.attend idle refused errand).1 = (work ts w).1 ∧
      (r.attend idle refused errand).2.folder.tried = (work ts w).2.tried := by
  refine attend_watched r (fun a heard ↦
    (∀ e, r.found = .error e → a = refused e ∧ heard.filterMap Exchange.target? = r.folder.tried) ∧
    ∀ ts w, r.found = .ok (ts, w) → w.tried = r.folder.tried ∧ a = (work ts w).1 ∧
      heard.filterMap Exchange.target? = (work ts w).2.tried) ?_ ?_ ?_
  · intro ht
    rw [found, if_pos ht]
    refine ⟨by simp, fun ts w h ↦ ?_⟩
    cases h
    rw [hidle]
    exact ⟨rfl, rfl, rfl⟩
  · intro e r' ht he
    rw [found, ht, he]
    refine ⟨fun e' h ↦ ?_, by simp⟩
    cases h
    exact ⟨rfl, rfl⟩
  · intro v r' ht he hheard
    have htried := (tried_targets r' v).trans (congrArg (List.filterMap Exchange.target?) hheard)
    rcases hts : r'.targets v with ⟨e | ts, w⟩
    · have hfound : r.found = .error (.session e) := by
        simp only [found, ht, he, hts, Bool.false_eq_true, if_false]
      obtain ⟨hresult, hstate⟩ := herror r' v e w hts
      rw [hts] at htried
      rw [hfound, hresult, hstate]
      refine ⟨fun e' h ↦ ?_, by simp⟩
      cases h
      exact ⟨rfl, htried⟩
    · have hfound : r.found = .ok (ts, w) := by
        simp only [found, ht, he, hts, Bool.false_eq_true, if_false]
      obtain ⟨hresult, hstate⟩ := hok r' v ts w hts
      rw [hts] at htried
      rw [hfound, hresult, hstate]
      refine ⟨by simp, fun ts' w' h ↦ ?_⟩
      cases h
      exact ⟨htried, rfl, rfl⟩

theorem fetchMessages_found (cancelled : Watched σ → Bool) (r : Reader (Watched σ)) :
    (∀ e, r.found = .error e → (r.fetchMessages cancelled).1 = .error (.ofError e) ∧
      (r.fetchMessages cancelled).2.folder.tried = r.folder.tried) ∧
    ∀ ts w, r.found = .ok (ts, w) → w.tried = r.folder.tried ∧
      (r.fetchMessages cancelled).1 = (ts.messages cancelled w).1 ∧
      (r.fetchMessages cancelled).2.folder.tried = (ts.messages cancelled w).2.tried := by
  rw [fetchMessages_eq_attend]
  refine attend_found (·.messages cancelled) ?_ ?_ (fun w ↦ rfl) r
  · intro r v e w hts
    rw [retrieving, hts]
    exact ⟨rfl, rfl⟩
  · intro r v ts w hts
    simp only [retrieving, hts]
    rcases ts.messages cancelled w with ⟨i | ms, w'⟩
    · exact ⟨rfl, rfl⟩
    · exact ⟨rfl, rfl⟩

theorem streamMessages_found (cancelled : Watched σ → Bool) (n : Nat) (r : Reader (Watched σ)) :
    (∀ e, r.found = .error e →
      (r.streamMessages cancelled (n + 1)).1 = Halt.pulled (n + 1) [] (.failed e) ∧
      (r.streamMessages cancelled (n + 1)).2.folder.tried = r.folder.tried) ∧
    ∀ ts w, r.found = .ok (ts, w) → w.tried = r.folder.tried ∧
      (r.streamMessages cancelled (n + 1)).1 =
        (draw cancelled (n + 1) ts.ascending w).1.2.pulled (n + 1)
          (draw cancelled (n + 1) ts.ascending w).1.1 ∧
      (r.streamMessages cancelled (n + 1)).2.folder.tried =
        (draw cancelled (n + 1) ts.ascending w).2.tried := by
  rw [streamMessages_eq_attend]
  refine attend_found (fun ts w ↦ ((draw cancelled (n + 1) ts.ascending w).1.2.pulled (n + 1)
    (draw cancelled (n + 1) ts.ascending w).1.1, (draw cancelled (n + 1) ts.ascending w).2))
    ?_ ?_ (fun w ↦ rfl) r
  · intro r v e w hts
    rw [streaming, hts]
    exact ⟨rfl, rfl⟩
  · intro r v ts w hts
    rw [streaming, hts]
    exact ⟨rfl, rfl⟩

theorem messages_course {outcome : Target → Except SessionError (Option Message)} {w : Watched σ}
    (c : Nat → Bool) (h : Repeatable outcome w.inner) (hw : w.tried = []) (ts : Targets) :
    ∃ reached tried e?, Course c outcome ts.list reached tried e? ∧
      (ts.messages (Watched.cancelled c) w).2.tried = tried ∧
      (ts.messages (Watched.cancelled c) w).1 =
        match e? with
        | none => .ok (existing outcome { ts with list := reached }.ascending)
        | some e => .error ⟨existing outcome { ts with list := reached }.ascending, e⟩ := by
  obtain ⟨reached, tried, e?, w', hcourse, hgot, htried⟩ := retrieveEach_course c h ts.list
  simp only [hw, List.length_nil, Nat.zero_add, List.nil_append] at hcourse htried
  have hascending : existing outcome { ts with list := reached }.ascending =
      if ts.newestFirst then (existing outcome reached).reverse else existing outcome reached := by
    rw [Targets.ascending]
    cases ts.newestFirst with
    | true => exact List.filterMap_reverse
    | false => rfl
  refine ⟨reached, tried, e?, hcourse, ?_, ?_⟩
  · simp only [Targets.messages, hgot]
    cases e? <;> exact htried
  · simp only [Targets.messages, hgot, hascending]
    cases e? <;> rfl

theorem streamMessages_course {outcome : Target → Except SessionError (Option Message)}
    {w : Watched σ} {ts : Targets} (c : Nat → Bool) (h : Repeatable outcome w.inner)
    (hr : r.folder.tried = []) (hfound : r.found = .ok (ts, w)) (n : Nat) :
    ∃ reached tried e?, Course c outcome ts.ascending reached tried e? ∧
      r.folder.Pulls (r.streamMessages (Watched.cancelled c) n).2.folder n
        (itemsOf (existing outcome reached) e?) tried
        (r.streamMessages (Watched.cancelled c) n).1 := by
  cases n with
  | zero =>
    obtain ⟨reached, tried, e?, hcourse⟩ := exists_course c outcome ts.ascending
    exact ⟨reached, tried, e?, hcourse, .none r.folder _ _⟩
  | succ n =>
    obtain ⟨hw, hseen, htried⟩ :=
      (streamMessages_found (Watched.cancelled c) n r).2 ts w hfound
    obtain ⟨reached, tried, e?, ms, halt, w', hcourse, hdraw, hpulls⟩ :=
      draw_course c h (n + 1) ts.ascending
    simp only [hw, hr, List.length_nil, Nat.zero_add] at hcourse
    rw [hdraw] at hseen htried
    refine ⟨reached, tried, e?, hcourse, ?_, ?_⟩
    · exact hseen.trans hpulls.seen_eq
    · rw [htried, ← hw]
      exact hpulls.tries

end Calls

variable [Folder σ]

/-- Part of a window in ascending order lies at its start, or at its end if it was retrieved from
there. -/
theorem ascending_part {c : Nat → Bool} {outcome : Target → Except SessionError (Option Message)}
    {ts : Targets} {reached tried : List Target} {e? : Option Error} {mode : Mode}
    (hnewest : ts.newestFirst = true → mode = .newest)
    (hmode : mode = .newest → ts.newestFirst = true ∨ ts.list = [])
    (h : Course c outcome ts.list reached tried e?) {full : Target → Option Message}
    (hfull : Completes outcome full) :
    if mode = .newest then
      existing outcome { ts with list := reached }.ascending <:+ ts.ascending.filterMap full
    else existing outcome { ts with list := reached }.ascending <+: ts.ascending.filterMap full := by
  have hprefix := h.existing_prefix hfull
  simp only [Targets.ascending]
  cases hn : ts.newestFirst with
  | true =>
    have hsuffix := List.reverse_suffix.mpr hprefix
    rw [existing, ← List.filterMap_reverse, ← List.filterMap_reverse] at hsuffix
    rw [if_pos (hnewest hn)]
    exact hsuffix
  | false =>
    by_cases hm : mode = .newest
    · -- then there are no targets
      rcases hmode hm with hn' | hnil
      · rw [hn] at hn'
        cases hn'
      · have hreached := h.reached_prefix
        rw [hnil] at hreached
        rw [if_pos hm, List.prefix_nil.mp hreached]
        exact List.nil_suffix
    · rw [if_neg hm]
      exact hprefix

/-- Whenever the work is cancelled and whatever reading each message comes to: if a call that
retrieves messages at once is interrupted, it returns those that exist among the targets before the
one that interrupted it, in ascending order, which is the first part of the window, or the last if
the newest are asked for; nothing is read after that one. A stream yields a first part of the window
in any case, then the error, and then it ends. Neither is interrupted if all targets are clear, by
a cancellation after the last one in particular. -/
theorem interrupted_calls_return_retrieved (r : Reader σ) (c : Nat → Bool) :
    let messages := r.watched.fetchMessages (Watched.cancelled c)
    let stream n := r.watched.streamMessages (Watched.cancelled c) n
    (∀ e, r.found = .error e →
      messages.1 = .error ⟨[], e⟩ ∧ messages.2.folder.tried = [] ∧
      ∀ n, (stream n).1 = ([Except.error e].take n, decide (1 < n)) ∧
        (stream n).2.folder.tried = []) ∧
    ∀ ts f outcome, r.found = .ok (ts, f) → Repeatable outcome f →
      ts.ascending.Pairwise Target.Before ∧
      (∃ reached tried e?, Course c outcome ts.list reached tried e? ∧
        messages.2.folder.tried = tried ∧
        ((∀ i (h : i < ts.list.length), Clear c outcome i ts.list[i]) → e? = none) ∧
        ∃ fetched, fetched = existing outcome { ts with list := reached }.ascending ∧
          messages.1 = (match e? with
            | none => .ok fetched
            | some e => .error ⟨fetched, e⟩) ∧
          ∀ full, Completes outcome full →
            if r.spec.mode = .newest then fetched <:+ ts.ascending.filterMap full
            else fetched <+: ts.ascending.filterMap full) ∧
      ∀ n, ∃ reached tried e?, Course c outcome ts.ascending reached tried e? ∧
        ((∀ i (h : i < ts.ascending.length), Clear c outcome i ts.ascending[i]) → e? = none) ∧
        ∃ items, items = (existing outcome reached).map .ok ++ e?.toList.map .error ∧
          (stream n).1 = (items.take n, decide (items.length < n)) ∧
          (stream n).2.folder.tried <+: tried ∧
          (items.length < n → (stream n).2.folder.tried = tried) ∧
          ∀ full, Completes outcome full →
            existing outcome reached <+: ts.ascending.filterMap full := by
  intro messages stream
  constructor
  · intro e hfound
    have hfound := watched_found_of_error hfound
    obtain ⟨hresult, htried⟩ := (fetchMessages_found (Watched.cancelled c) r.watched).1 e hfound
    refine ⟨hresult, htried, fun n ↦ ?_⟩
    cases n with
    | zero => exact ⟨rfl, rfl⟩
    | succ n =>
      obtain ⟨hseen, htried⟩ :=
        (streamMessages_found (Watched.cancelled c) n r.watched).1 e hfound
      have hpulls := Watched.Pulls.error (htried.trans (List.append_nil _).symm) n e
      exact ⟨hseen.trans hpulls.seen_eq, htried⟩
  · intro ts f outcome hfound h
    obtain ⟨hascending, hnewest, hnewest'⟩ := found_shape hfound
    obtain ⟨w, hw, rfl⟩ := watched_found_of_ok hfound
    refine ⟨hascending, ?_, fun n ↦ ?_⟩
    · obtain ⟨htried, hresult, hafter⟩ :=
        (fetchMessages_found (Watched.cancelled c) r.watched).2 ts w hw
      obtain ⟨reached, tried, e?, hcourse, htries, hmessages⟩ := messages_course c h htried ts
      refine ⟨reached, tried, e?, hcourse, hafter.trans htries, hcourse.eq_none_of_clear, _, rfl,
        hresult.trans hmessages, fun full ↦ ascending_part hnewest hnewest' hcourse⟩
    · obtain ⟨reached, tried, e?, hcourse, hpulls⟩ := streamMessages_course c h rfl hw n
      obtain ⟨ts', htried, hprefix, hall⟩ := hpulls.tries
      have htried : (stream n).2.folder.tried = ts' := htried
      rw [htried]
      exact ⟨reached, tried, e?, hcourse, hcourse.eq_none_of_clear, _, rfl, hpulls.seen_eq, hprefix,
        hall, fun full ↦ hcourse.existing_prefix⟩

theorem interrupted_calls_return_retrieved_newest :
    let folder : MemoryFolder := { MemoryFolder.gapped with faults := [.message ⟨9⟩] }
    let r : Reader MemoryFolder := { folder, spec := { newest := some ⟨4, by decide⟩ } }
    let call := r.watched.fetchMessages (Watched.cancelled fun _ ↦ false)
    call.2.folder.tried = [.index 5, .index 4, .index 3] ∧
    ∃ ts f fetched e, r.found = .ok (ts, f) ∧ call.1 = .error ⟨fetched, e⟩ ∧
      fetched.map (·.id) = [⟨10⟩, ⟨12⟩] ∧
      ∀ full, Completes (fun t ↦ (t.fetch f).1) full → fetched <:+ ts.ascending.filterMap full := by
  intro folder r call
  obtain ⟨ts, f, hfound, ho⟩ : ∃ ts f, r.found = .ok (ts, f) ∧ f.isOpen = true := by
    have hopen : (match r.found with
      | .error _ => false
      | .ok (_, f) => f.isOpen) = true := by decide +kernel
    cases hfound : r.found with
    | error e =>
      rw [hfound] at hopen
      cases hopen
    | ok x =>
      rw [hfound] at hopen
      exact ⟨x.1, x.2, rfl, hopen⟩
  obtain ⟨-, ⟨reached, tried, e?, -, -, -, fetched, -, hresult, hpart⟩, -⟩ :=
    (interrupted_calls_return_retrieved r fun _ ↦ false).2 ts f _ hfound (.of_isOpen ho)
  have hcall : (match call.1 with
    | .ok _ => none
    | .error i => some (i.fetched.map (·.id))) = some [⟨10⟩, ⟨12⟩] := by decide +kernel
  refine ⟨by decide +kernel, ts, f, fetched, ?_⟩
  cases e? with
  | none =>
    rw [hresult] at hcall
    cases hcall
  | some e =>
    rw [hresult] at hcall
    exact ⟨e, hfound, hresult, Option.some.inj hcall, fun full hfull ↦ hpart full hfull⟩

end Reader

end MailWindow
