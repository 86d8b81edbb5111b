import MailWindow.Proofs.Failures
import MailWindow.Proofs.Places
import MailWindow.Proofs.Retrievals
import MailWindow.Proofs.Returns

namespace MailWindow

theorem exists_of_prefix_map {α β : Type} {f : α → β} {l : List α} {written : List β}
    {refused? : Option β} (h : written ++ refused?.toList <+: l.map f) :
    ∃ as a?, as ++ Option.toList a? <+: l ∧ written = as.map f ∧ refused? = a?.map f := by
  obtain ⟨l', hstart, hmap⟩ := List.prefix_map_iff.mp h
  obtain ⟨as, rest, rfl, rfl, hrest⟩ := List.append_eq_map_iff.mp hmap
  cases refused? with
  | none =>
    obtain rfl := List.map_eq_nil_iff.mp hrest
    exact ⟨as, none, hstart, rfl, rfl⟩
  | some b =>
    obtain ⟨a, rfl, ha⟩ := List.map_eq_singleton_iff.mp hrest
    exact ⟨as, some a, hstart, rfl, congrArg some ha.symm⟩

namespace MemoryFolder

variable {f g : MemoryFolder}

def faultless (f : MemoryFolder) : MemoryFolder := { f with faults := [] }

theorem fetch_cases (ho : f.isOpen = true) (t : Target) :
    ∃ c, t.fetch f = (.ok (f.find? t), f.logs [c]) ∨
      ∃ e, t.fetch f = (.error e, f.logs [c]) := by
  obtain ⟨c, found, hfetch, hfound⟩ := fetch_delivers ho t
  refine ⟨c, ?_⟩
  rw [hfetch, ← hfound]
  cases found with
  | none => exact .inl rfl
  | some p =>
    rw [deliver]
    cases f.check (.message p.1.id) with
    | error e => exact .inr ⟨e, rfl⟩
    | ok _ => exact .inl rfl

section Faultless

theorem read_faultless {β : Type} (f : MemoryFolder) (call : Call) (fault : Fault)
    (result : MemoryFolder → β) (hresult : ∀ f, result f.faultless = result f) {b : β}
    (h : (f.read call fun f ↦ (f.check fault).map fun _ ↦ result f) = (.ok b, g)) :
    (f.faultless.read call fun f ↦ (f.check fault).map fun _ ↦ result f) = (.ok b, g.faultless) := by
  obtain ⟨hb, rfl⟩ := Prod.mk.inj h
  refine Prod.ext ?_ rfl
  change ((f.log call).checkOpen >>= fun _ ↦ (Except.ok (result (f.log call).faultless))) = _
  rw [hresult]
  cases hopen : (f.log call).checkOpen with
  | error e =>
    rw [hopen] at hb
    cases hb
  | ok _ =>
    rw [hopen] at hb
    change ((f.log call).check fault).map _ = _ at hb
    cases hfault : (f.log call).check fault with
    | error e =>
      rw [hfault] at hb
      cases hb
    | ok _ =>
      rw [hfault] at hb
      exact hb

theorem search_faultless {query : Query} {ids : List MessageId}
    (h : Folder.search query f = (.ok ids, g)) :
    Folder.search query f.faultless = (.ok ids, g.faultless) := by
  have hread := read_faultless (b := ids) (g := g) f (.search query.toText) .search
    (·.results query) fun _ ↦ rfl
  exact hread h

theorem fetchIds_faultless {set : IdSet} {items : SummaryItems} {found : List Summary}
    (h : Folder.fetchIds set items f = (.ok found, g)) :
    Folder.fetchIds set items f.faultless = (.ok found, g.faultless) := by
  have hread := read_faultless (b := found) (g := g) f (.fetchIds set) .fetch (fun f ↦
    (f.indexed.filter fun p ↦ set.contains p.1.id).map fun p ↦ p.1.summary p.2 items) fun _ ↦ rfl
  exact hread h

theorem resolve_faultless {cap : UInt32} {p : Plan} {w : Window}
    (h : p.resolve cap f = (.ok w, g)) : p.resolve cap f.faultless = (.ok w, g.faultless) := by
  cases p with
  | search query skip take =>
    simp only [Plan.resolve] at h ⊢
    rcases hs : Folder.search query f with ⟨e | ids, g'⟩
    · rw [hs] at h
      cases h
    · rw [hs] at h
      rw [search_faultless hs]
      cases h
      rfl
  | _ =>
    cases h
    rfl

theorem targets_faultless {w : Window} {ts : Targets} (h : w.targets f = (.ok ts, g)) :
    w.targets f.faultless = (.ok ts, g.faultless) := by
  cases w with
  | ids set =>
    simp only [Window.targets] at h ⊢
    rcases hs : Folder.fetchIds set .idOnly f with ⟨e | found, g'⟩
    · rw [hs] at h
      cases h
    · rw [hs] at h
      rw [fetchIds_faultless hs]
      cases h
      rfl
  | _ =>
    cases h
    rfl

end Faultless

/-- Whatever ends the saving, the messages written are the first of those that are there, and their
paths are returned. At most the next one has been refused. -/
theorem saveEach_written {τ : Type} [Sink τ] (ho : f.isOpen = true)
    (cancelled : MemoryFolder → τ → Bool) (path : Message → String) (ts : List Target) (s : τ) :
    ∃ ms refused? failure g s', saveEach cancelled path ts f s = ((ms.map path, failure), g, s') ∧
      Sink.Writes path ms refused? s s' ∧ ms ++ refused?.toList <+: ts.filterMap f.find? ∧
      (failure.isNone = true → ms = ts.filterMap f.find? ∧ refused? = none) := by
  induction ts generalizing f s with
  | nil => exact ⟨[], none, none, f, s, rfl, .nothing s, List.prefix_rfl, fun _ ↦ ⟨rfl, rfl⟩⟩
  | cons t ts ih =>
    have hstop (failure : SaveFailure) (g : MemoryFolder) :
        ∃ ms refused? failure' g' s', (([], some failure), g, s) = ((ms.map path, failure'), g', s') ∧
          Sink.Writes path ms refused? s s' ∧
          ms ++ refused?.toList <+: (t :: ts).filterMap f.find? ∧
          (failure'.isNone = true → ms = (t :: ts).filterMap f.find? ∧ refused? = none) :=
      ⟨[], none, some failure, g, s, rfl, .nothing s, List.nil_prefix, fun h ↦ by cases h⟩
    rw [saveEach]
    by_cases hc : cancelled f s = true
    · rw [if_pos hc]
      exact hstop _ _
    · rw [if_neg hc]
      obtain ⟨c, hfetch | ⟨e, hfetch⟩⟩ := fetch_cases ho t
      · rw [hfetch]
        cases hfound : f.find? t with
        | none =>
          rw [List.filterMap_cons_none hfound]
          exact ih (f := f.logs [c]) ho s
        | some m =>
          rw [List.filterMap_cons_some hfound]
          rcases hw : Sink.write m (path m) s with ⟨e | _, s₁⟩
          · simp only [hw]
            refine ⟨[], some m, some (.writing e), _, s₁, rfl, .refused e hw, ?_, fun h ↦ by cases h⟩
            exact List.prefix_append [m] _
          · obtain ⟨ms, refused?, failure, g, s', hrest, hwrites, hstart, hall⟩ :=
              ih (f := f.logs [c]) ho s₁
            simp only [hw, hrest]
            refine ⟨m :: ms, refused?, failure, g, s', rfl, .written hw hwrites,
              List.cons_prefix_cons.mpr ⟨rfl, hstart⟩, fun hnone ↦ ?_⟩
            obtain ⟨rfl, hnothing⟩ := hall hnone
            exact ⟨rfl, hnothing⟩
      · rw [hfetch]
        exact hstop _ _

end MemoryFolder

namespace Reader

open MemoryFolder

variable {r r' : Reader MemoryFolder}

theorem inside_faultless (r : Reader MemoryFolder) : (r.under []).inside = r.inside.under [] := by
  have hopened : r.folder.faultless.opened r.config.folderAccess =
      (r.folder.opened r.config.folderAccess).faultless := by
    rw [opened, opened]
    change (if r.folder.isOpen = true then _ else _) = _
    split <;> rfl
  change Reader.mk (r.folder.faultless.opened r.config.folderAccess) _ _ _ _ = _
  rw [hopened]
  rfl

theorem under_targets {v : Visit} {ts : Targets} {g : MemoryFolder}
    (h : r.targets v = (.ok ts, g)) : (r.under []).targets v = (.ok ts, g.faultless) := by
  rw [targets] at h
  rcases hw : r.window v with ⟨e | w, f⟩
  · rw [hw] at h
    cases h
  · rw [hw] at h
    have hfaultless : (r.under []).window v = (.ok w, f.faultless) := resolve_faultless hw
    rw [targets, hfaultless]
    exact targets_faultless h

theorem contents_under (r : Reader MemoryFolder) (faults : List Fault) :
    (r.under faults).contents = r.contents := by
  change r.visit.plan.contents r.config.searchCap { r.folder with faults } = r.contents
  rw [contents]
  cases r.visit.plan <;> rfl

theorem targets_of_visit (h : r.folder.ids.Pairwise (· < ·)) {ts : Targets} {g : MemoryFolder}
    (hts : r.inside.targets r.visit = (.ok ts, g)) :
    g.isOpen = true ∧ ts.ascending.filterMap g.find? = deliveries r.contents := by
  obtain ⟨a, cs, -, hr, -⟩ := Errand.targets_agree (Akin.refl r) r.visit
  obtain ⟨rfl, rfl⟩ := Prod.mk.inj (hr.symm.trans hts)
  refine ⟨isOpen_opened _ _, ?_⟩
  obtain ⟨ts', ds, hts', hfound⟩ := targets_of_inside (r := r.under []) rfl h
  have hsame := under_targets hts
  rw [← inside_faultless] at hsame
  obtain ⟨hts', hg⟩ := Prod.mk.inj (hsame.symm.trans hts')
  obtain rfl := Except.ok.inj hts'
  rw [contents_under, ← hg] at hfound
  exact hfound

/-- What a call has saved, by what it returns and where it leaves the reader and the sink. -/
structure Saved {τ : Type} [Sink τ] (r : Reader MemoryFolder) (dir : String) (s : τ)
    (result : Except (Interruption String) (List String)) (r' : Reader MemoryFolder) (s' : τ)
    (ms : List Message) (refused? : Option Message) : Prop where
  first : ms ++ refused?.toList <+: deliveries r.contents
  writes : Sink.Writes (r.savePath dir) ms refused? s s'
  all : ∀ paths, result = .ok paths →
    ms = deliveries r.contents ∧ refused? = none ∧ paths = ms.map (r.savePath dir)
  some : ∀ i, result = .error i → i.fetched = ms.map (r.savePath dir) ∧ r'.spec = r.spec

theorem Saved.nothing {τ : Type} [Sink τ] {dir : String} {s : τ} {e : Error}
    (hspec : r'.spec = r.spec) : r.Saved dir s (.error (.ofError e)) r' s [] none where
  first := List.nil_prefix
  writes := .nothing s
  all _ h := by cases h
  some i h := by
    obtain rfl := Except.error.inj h
    exact ⟨rfl, hspec⟩

theorem saveWindow_saved {τ : Type} [Sink τ] (h : r.folder.ids.Pairwise (· < ·)) (dir : String)
    (cancelled : MemoryFolder → τ → Bool) (s : τ) :
    ∃ ms refused?, r.Saved dir s (r.saveWindow dir cancelled s).1
      (r.saveWindow dir cancelled s).2.1 (r.saveWindow dir cancelled s).2.2 ms refused? := by
  rw [saveWindow_eq_attend, attend]
  cases ht : r.spec.take.isZero with
  | true =>
    refine ⟨[], none, List.nil_prefix, .nothing s, fun paths hpaths ↦ ?_, fun i hi ↦ by cases hi⟩
    obtain rfl := Except.ok.inj hpaths
    rw [contents_of_isZero ht]
    exact ⟨rfl, rfl, rfl⟩
  | false =>
    rw [if_neg Bool.false_ne_true]
    by_cases hf : r.folder.Accessible
    · rw [enter_of_accessible hf]
      simp only [saving]
      rcases hts : r.inside.targets r.visit with ⟨e | ts, g⟩
      · exact ⟨[], none, .nothing rfl⟩
      · obtain ⟨hopen, hfound⟩ := targets_of_visit h hts
        obtain ⟨ms, refused?, failure, g', s', hsaved, hwrites, hfirst, hall⟩ :=
          saveEach_written hopen cancelled (r.inside.savePath dir) ts.ascending s
        rw [hfound] at hfirst hall
        simp only [hsaved]
        refine ⟨ms, refused?, ?_⟩
        rcases failure with _ | e | e
        · obtain ⟨hms, hnothing⟩ := hall rfl
          exact ⟨hfirst, hwrites, fun paths hpaths ↦ ⟨hms, hnothing, (Except.ok.inj hpaths).symm⟩,
            fun i hi ↦ by cases hi⟩
        all_goals
          refine ⟨hfirst, hwrites, fun _ hpaths ↦ (by cases hpaths), fun i hi ↦ ?_⟩
          obtain rfl := Except.error.inj hi
          exact ⟨rfl, rfl⟩
    · obtain ⟨e, he⟩ := enter_of_not_accessible hf
      rw [he]
      exact ⟨[], none, .nothing rfl⟩

end Reader

namespace FileSinkOn

open FileSystem

variable {φ : Type} [FileSystem φ] {view : View φ} {s s' : FileSinkOn φ}

theorem tree_of_write {m : Message} {path : String} {result : Except Error Unit}
    (h : Sink.write m path s = (result, s')) :
    (FileSystem.writeFile path (s.content m) s.tree).2 = s'.tree ∧ s'.content = s.content ∧
      (result = .ok () → (FileSystem.writeFile path (s.content m) s.tree).1 = .ok ()) := by
  obtain ⟨hresult, rfl⟩ := Prod.mk.inj h
  refine ⟨rfl, rfl, fun hok ↦ ?_⟩
  rw [hok] at hresult
  rcases hw : (FileSystem.writeFile path (s.content m) s.tree).1 with e | _
  · rw [hw] at hresult
    cases hresult
  · rfl

section Write

variable {m : Message} {dir name : String} {result : Except Error Unit} (hview : view.Lawful)
  (hn : IsName name)

include hview hn

theorem directory_of_write (h : Sink.write m (joinPath dir name) s = (result, s')) :
    view.directory? s'.tree = view.directory? s.tree := by
  obtain ⟨htree, -, -⟩ := tree_of_write h
  rw [← htree]
  exact hview.writeFile_directory dir name (s.content m) s.tree hn

theorem content_of_write (h : Sink.write m (joinPath dir name) s = (result, s'))
    {d : view.Directory} {other : String} (hother : ¬(view.directory? s.tree dir = some d ∧
      other = name)) : view.content? s'.tree d other = view.content? s.tree d other := by
  obtain ⟨htree, -, -⟩ := tree_of_write h
  rw [← htree]
  exact hview.writeFile_other dir name (s.content m) s.tree hn d other hother

theorem content_of_write_ok (h : Sink.write m (joinPath dir name) s = (.ok (), s')) :
    ∃ d, view.directory? s.tree dir = some d ∧ view.content? s'.tree d name = some (s.content m) := by
  obtain ⟨htree, -, hok⟩ := tree_of_write h
  exact hview.writeFile_ok dir name (s.content m) s.tree s'.tree hn (Prod.ext (hok rfl) htree)

end Write

structure Wrote (view : View φ) (dir : String) (name : Message → String) (ms : List Message)
    (refused? : Option Message) (s s' : FileSinkOn φ) : Prop where
  directory : view.directory? s'.tree = view.directory? s.tree
  placed : ∀ m ∈ ms, ∃ d, view.directory? s.tree dir = some d ∧
    view.content? s'.tree d (name m) = some (s.content m)
  others : ∀ d other,
    ¬(view.directory? s.tree dir = some d ∧ ∃ m ∈ ms ++ refused?.toList, other = name m) →
      view.content? s'.tree d other = view.content? s.tree d other

theorem wrote_of_writes (hview : view.Lawful) {dir : String} {name : Message → String}
    {ms : List Message} {refused? : Option Message}
    (hwrites : Sink.Writes (fun m ↦ joinPath dir (name m)) ms refused? s s')
    (hname : ∀ m ∈ ms ++ refused?.toList, IsName (name m))
    (hne : (ms ++ refused?.toList).Pairwise fun a b ↦ name a ≠ name b) :
    Wrote view dir name ms refused? s s' := by
  induction hwrites with
  | nothing s => exact ⟨rfl, fun m hm ↦ (by cases hm), fun _ _ _ ↦ rfl⟩
  | @refused m s s' e hwrite =>
    -- the file of the message that was refused may have been written in part
    have hm := hname m (List.mem_singleton_self m)
    refine ⟨directory_of_write hview hm hwrite, fun m hm ↦ (by cases hm), ?_⟩
    intro d other hother
    refine content_of_write hview hm hwrite fun hown ↦ hother ?_
    exact ⟨hown.1, m, List.mem_singleton_self m, hown.2⟩
  | @written m ms refused? s s₁ s' hwrite _ ih =>
    have hm := hname m List.mem_cons_self
    obtain ⟨hapart, hne⟩ := List.pairwise_cons.mp hne
    obtain ⟨hdirectory, hplaced, hothers⟩ :=
      ih (fun m' hm' ↦ hname m' (List.mem_cons_of_mem m hm')) hne
    obtain ⟨-, hcontent, -⟩ := tree_of_write hwrite
    rw [directory_of_write hview hm hwrite] at hdirectory hplaced hothers
    rw [hcontent] at hplaced
    refine ⟨hdirectory, ?_, ?_⟩
    · intro m' hm'
      rcases List.mem_cons.mp hm' with rfl | hm'
      · obtain ⟨place, hplace, hfile⟩ := content_of_write_ok hview hm hwrite
        refine ⟨place, hplace, ?_⟩
        -- later messages go elsewhere, since their names differ
        rw [hothers place (name m') fun hlater ↦ ?_, hfile]
        obtain ⟨-, m'', hm'', hname⟩ := hlater
        exact hapart m'' hm'' hname
      · exact hplaced m' hm'
    · intro d other hother
      rw [hothers d other fun hlater ↦ hother ?_]
      · refine content_of_write hview hm hwrite fun hown ↦ hother ?_
        exact ⟨hown.1, m, List.mem_cons_self, hown.2⟩
      · obtain ⟨hd, m', hm', hname⟩ := hlater
        exact ⟨hd, m', List.mem_cons_of_mem m hm', hname⟩

theorem content_of_prepare (hview : view.Lawful) (dir : String) (create : Bool)
    (s : FileSinkOn φ) :
    view.content? (Sink.prepare dir create s).2.tree = view.content? s.tree ∧
      (Sink.prepare dir create s).2.dosLineEndings = s.dosLineEndings := by
  cases create with
  | true => exact ⟨hview.createDirectory_content dir s.tree, rfl⟩
  | false =>
    have hprepared : (Sink.prepare dir false s).2 = (Sink.directoryExists dir s).2 := by
      rw [Sink.prepare, if_neg Bool.false_ne_true]
      rcases Sink.directoryExists dir s with ⟨_ | _, s₁⟩ <;> rfl
    rw [hprepared]
    exact ⟨hview.hasDirectory_content dir s.tree, rfl⟩

end FileSinkOn

theorem Config.fit_of_validate {c : Config} (h : c.validate = .ok ()) {x : Char}
    (hx : x ∈ c.messageExtension.toList) : isUnfit x = false := by
  rw [validate] at h
  split at h
  · cases h
  · split at h
    · cases h
    · split at h
      · cases h
      · next hany =>
        rw [Bool.not_eq_true, List.any_eq_false] at hany
        exact Bool.eq_false_iff.mpr (hany x hx)

namespace Reader

open MemoryFolder FileSystem

variable {r : Reader MemoryFolder}

/-- The name under which a message is filed: its identifier in decimal digits, and the extension. -/
def fileName (r : Reader MemoryFolder) (id : MessageId) : String :=
  toString id.val.toNat ++ "." ++ r.config.messageExtension

theorem savePath_eq_joinPath (r : Reader MemoryFolder) (dir : String) :
    r.savePath dir = fun m ↦ joinPath dir (r.fileName m.id) := by
  funext m
  rw [savePath, fileName, Nat.toString_eq_ofList_toDigits]
  rfl

theorem toList_fileName (r : Reader MemoryFolder) (id : MessageId) :
    (r.fileName id).toList = id.text ++ '.' :: r.config.messageExtension.toList := by
  rw [fileName, Nat.toString_eq_ofList_toDigits, String.toList_append, String.toList_append,
    String.toList_ofList, List.append_assoc]
  rfl

theorem fileName_injective {a b : MessageId} (h : r.fileName a = r.fileName b) : a = b := by
  have hlist := congrArg String.toList h
  rw [toList_fileName, toList_fileName] at hlist
  exact MessageId.text_injective (List.append_cancel_right hlist)

/-- With a valid extension a file name is one part of a path, and never one that leads elsewhere. -/
theorem isName_fileName (hv : r.config.validate = .ok ()) (id : MessageId) :
    IsName (r.fileName id) := by
  have hdigit : ∀ c ∈ id.text, c.isDigit = true := fun _ hc ↦
    Nat.isDigit_of_mem_toDigits (by decide) (by decide) hc
  have hfirst {name : String} (hname : name.toList.head?.all (!·.isDigit) = true) :
      r.fileName id ≠ name := by
    rintro rfl
    obtain ⟨d, ds, hd⟩ := List.exists_cons_of_ne_nil (l := id.text) Nat.toDigits_ne_nil
    have hd' := hdigit d (hd ▸ List.mem_cons_self)
    rw [toList_fileName, hd, List.cons_append, List.head?_cons, Option.all_some, hd'] at hname
    cases hname
  refine ⟨?_, hfirst (by decide), hfirst (by decide), hfirst (by decide)⟩
  rw [toList_fileName]
  intro hslash
  rcases List.mem_append.mp hslash with hslash | hslash
  · cases hdigit _ hslash
  · rcases List.mem_cons.mp hslash with hdot | hslash
    · cases hdot
    · cases Config.fit_of_validate hv hslash

theorem contents_eq_selection (h : r.folder.ids.Pairwise (· < ·))
    (hl : r.folder.messages.length < UInt32.size) (ht : r.spec.take ≠ .count 0) :
    r.contents = r.folder.selection r.spec r.config.searchCap := by
  let found := summarize r.spec.items (r.folder.selection r.spec r.config.searchCap)
  have hselected : ∃ r', (r.under []).fetchSummaries = (.ok found, r') := by
    cases hr : r.spec.idRange with
    | some range =>
      obtain ⟨r', he, -⟩ := fetchSummaries_of_idRange (r := r.under []) rfl ht h hr
      exact ⟨r', he⟩
    | none =>
      cases hq : r.spec.query.isAll with
      | false =>
        obtain ⟨_, r', he, -⟩ := fetchSummaries_of_query (r := r.under []) rfl ht h hr hq
        exact ⟨r', he⟩
      | true =>
        obtain ⟨_, r', he, -⟩ := fetchSummaries_of_position (r := r.under []) rfl ht hl hr hq
        exact ⟨r', he⟩
  obtain ⟨r₁, hr₁⟩ := hselected
  obtain ⟨r₂, hr₂, -⟩ := fetchSummaries_covered (r := r.under []) rfl h
  have hfound := Except.ok.inj (Prod.mk.inj (hr₂.symm.trans hr₁)).1
  have hids := congrArg (List.map (·.id)) hfound
  rw [map_id_summarize, map_id_summarize, contents_under] at hids
  -- both are parts of the folder, where an identifier tells which message it is
  have hnodup := nodup_map_id_entries h
  rw [← filter_key_mem_of_sublist (·.1.id) r.contents_sublist hnodup, hids,
    filter_key_mem_of_sublist (·.1.id) (selection_sublist _ _ _) hnodup]

/-- A call has filed messages: each has its text in a file of its own right in the directory, with
the line endings that the sink is set to, and no other file has changed but that of a message that
was refused. -/
structure Filed {φ : Type} (r : Reader MemoryFolder) (view : View φ) (dir : String)
    (saved : List (Stored × Nat)) (refused? : Option (Stored × Nat)) (s s' : FileSinkOn φ) :
    Prop where
  placed : ∀ e ∈ saved, ∃ d, view.directory? s'.tree dir = some d ∧
    view.content? s'.tree d (r.fileName e.1.id) =
      some (if s.dosLineEndings then LineEndings.withReturns e.1.raw else e.1.raw)
  others : ∀ d name, ¬(view.directory? s'.tree dir = some d ∧
      ∃ e ∈ saved ++ refused?.toList, name = r.fileName e.1.id) →
    view.content? s'.tree d name = view.content? s.tree d name

section Filing

variable {φ : Type} [FileSystem φ] {view : View φ} {dir : String} {s s₁ s' : FileSinkOn φ}

theorem filed_of_writes (hview : view.Lawful) (hv : r.config.validate = .ok ())
    {saved : List (Stored × Nat)} {refused? : Option (Stored × Nat)}
    (hids : (saved ++ refused?.toList).Pairwise fun a b ↦ a.1.id < b.1.id)
    (hwrites : Sink.Writes (fun m ↦ joinPath dir (r.fileName m.id)) (deliveries saved)
      (refused?.map fun e ↦ e.1.message (.ofNat e.2)) s₁ s')
    (hcontent : view.content? s₁.tree = view.content? s.tree)
    (hendings : s₁.dosLineEndings = s.dosLineEndings) :
    r.Filed view dir saved refused? s s' := by
  have hdelivered : deliveries saved ++ (refused?.map fun e ↦ e.1.message (.ofNat e.2)).toList =
      deliveries (saved ++ refused?.toList) := by
    rw [deliveries, deliveries, List.map_append, Option.toList_map]
  have hne : (deliveries (saved ++ refused?.toList)).Pairwise fun a b ↦
      r.fileName a.id ≠ r.fileName b.id := by
    refine List.pairwise_map.mpr (hids.imp fun hab hname ↦ ?_)
    exact MessageId.ne_of_lt hab (fileName_injective hname)
  obtain ⟨hdirectory, hplaced, hothers⟩ := FileSinkOn.wrote_of_writes hview hwrites
    (fun m _ ↦ isName_fileName hv m.id) (hdelivered ▸ hne)
  rw [hdelivered, hcontent] at hothers
  constructor
  · intro e he
    obtain ⟨d, hd, hfile⟩ := hplaced _ (List.mem_map_of_mem he)
    refine ⟨d, hdirectory ▸ hd, hfile.trans ?_⟩
    rw [FileSinkOn.content, hendings, LineEndings.toCrlf_eq_withReturns]
    rfl
  · intro d name hname
    refine hothers d name fun hown ↦ hname ?_
    obtain ⟨hd, m, hm, hfile⟩ := hown
    obtain ⟨e, he, rfl⟩ := List.mem_map.mp hm
    exact ⟨hdirectory ▸ hd, e, he, hfile⟩

end Filing

/-- Whatever the folder's faults, the directories and the moment of a cancellation, a call that
saves messages as files saves a first part of the window, in ascending order: all of it if the call
succeeds. Each message that is saved lies right in the directory, under its identifier and the
extension, with its text as the sink is to write it; no other file is changed. The paths returned are
those of the messages saved, and a call that is interrupted leaves the spec as it was. -/
theorem saveAll_files_window {φ : Type} [FileSystem φ] {view : View φ} (hview : view.Lawful)
    (h : r.folder.ids.Pairwise (· < ·)) (hv : r.config.validate = .ok ()) (dir : String)
    (create : Bool) (cancelled : MemoryFolder → FileSinkOn φ → Bool) (s : FileSinkOn φ) :
    let path (e : Stored × Nat) := joinPath dir (r.fileName e.1.id)
    let call := r.saveAll dir create cancelled s
    (r.contents.map (·.1.id)).Pairwise (· < ·) ∧ (r.contents.map path).Nodup ∧
    (∀ e ∈ r.contents, IsName (r.fileName e.1.id)) ∧
    (r.spec.take = .count 0 → r.contents = []) ∧
    (r.folder.messages.length < UInt32.size → r.spec.take ≠ .count 0 →
      r.contents = r.folder.selection r.spec r.config.searchCap) ∧
    ∃ (saved : List (Stored × Nat)) (refused? : Option (Stored × Nat)),
      saved ++ refused?.toList <+: r.contents ∧
      Sink.Writes (fun m ↦ joinPath dir (r.fileName m.id)) (deliveries saved)
        (refused?.map fun e ↦ e.1.message (.ofNat e.2)) (Sink.prepare dir create s).2 call.2.2 ∧
      r.Filed view dir saved refused? s call.2.2 ∧
      (∀ paths, call.1 = .ok paths →
        saved = r.contents ∧ refused? = none ∧ paths = r.contents.map path) ∧
      (∀ i, call.1 = .error i → i.fetched = saved.map path ∧ call.2.1.spec = r.spec) := by
  intro path call
  have hids : r.contents.Pairwise fun a b ↦ a.1.id < b.1.id :=
    List.pairwise_map.mp (h.sublist r.ids_contents_sublist)
  have hpath (es : List (Stored × Nat)) : (deliveries es).map (r.savePath dir) = es.map path := by
    rw [deliveries, List.map_map, savePath_eq_joinPath]
    rfl
  have hdistinct (a b : Stored × Nat) (hab : a.1.id < b.1.id) : path a ≠ path b := by
    intro hsame
    have hsaved : r.savePath dir (a.1.message (.ofNat a.2)) =
        r.savePath dir (b.1.message (.ofNat b.2)) := by
      rw [savePath_eq_joinPath]
      exact hsame
    exact MessageId.ne_of_lt hab (id_eq_of_savePath hsaved)
  refine ⟨List.pairwise_map.mpr hids, List.pairwise_map.mpr (hids.imp (hdistinct _ _)),
    fun e _ ↦ isName_fileName hv e.1.id, fun ht ↦ contents_of_isZero (decide_eq_true ht),
    contents_eq_selection h, ?_⟩
  · obtain ⟨hcontent, hendings⟩ := FileSinkOn.content_of_prepare hview dir create s
    have hfiled {saved : List (Stored × Nat)} {refused? : Option (Stored × Nat)}
        (hstart : saved ++ refused?.toList <+: r.contents) {s' : FileSinkOn φ}
        (hwrites : Sink.Writes (fun m ↦ joinPath dir (r.fileName m.id)) (deliveries saved)
          (refused?.map fun e ↦ e.1.message (.ofNat e.2)) (Sink.prepare dir create s).2 s') :
        r.Filed view dir saved refused? s s' :=
      filed_of_writes hview hv (hids.sublist hstart.sublist) hwrites hcontent hendings
    subst call
    rw [saveAll_eq_prepare]
    rcases hp : Sink.prepare dir create s with ⟨e | _, s₁⟩
    · rw [hp] at hfiled
      refine ⟨[], none, List.nil_prefix, .nothing s₁, hfiled List.nil_prefix (.nothing s₁),
        fun _ hpaths ↦ (by cases hpaths), fun i hi ↦ ?_⟩
      obtain rfl := Except.error.inj hi
      exact ⟨rfl, rfl⟩
    · rw [hp] at hfiled
      obtain ⟨ms, refused?, hs⟩ := saveWindow_saved h dir cancelled s₁
      obtain ⟨saved, refused?, hstart, rfl, rfl⟩ := exists_of_prefix_map hs.first
      have hwrites := hs.writes
      rw [savePath_eq_joinPath] at hwrites
      refine ⟨saved, refused?, hstart, hwrites, hfiled hstart hwrites, fun paths hpaths ↦ ?_,
        fun i hi ↦ ?_⟩
      · obtain ⟨hall, hnothing, rfl⟩ := hs.all paths hpaths
        obtain rfl := Option.map_eq_none_iff.mp hnothing
        have hlength := congrArg List.length hall
        rw [deliveries, List.length_map, List.length_map] at hlength
        rw [Option.toList_none, List.append_nil] at hstart
        obtain rfl := hstart.eq_of_length hlength
        exact ⟨rfl, rfl, hpath _⟩
      · obtain ⟨hfetched, hspec⟩ := hs.some i hi
        exact ⟨hfetched.trans (hpath saved), hspec⟩

def twoLines : MemoryFolder where
  name := "INBOX"
  messages := [
    { id := ⟨3⟩, raw := [97, 10, 98, 13, 10], received := { seconds := 0 } },
    { id := ⟨5⟩, raw := [99, 13, 10], received := { seconds := 0 } }]

/-- Where a directory has the name that the second message is to have, only the first is saved. -/
theorem saveAll_files_window_blocked :
    let r : Reader MemoryFolder := { folder := twoLines }
    let s : FileSink :=
      { tree := ⟨[(["box"], .directory), (["box", "5.eml"], .directory)]⟩ }
    let call := r.saveAll "box" false (fun _ _ ↦ false) s
    ∃ saved refused? i, call.1 = .error i ∧ i.fetched = ["box/3.eml"] ∧
      saved.map (·.1.id) = [⟨3⟩] ∧ r.Filed FileTree.view "box" saved refused? s call.2.2 ∧
      call.2.1.spec = r.spec ∧
      call.2.2.tree.content? ["box"] "3.eml" = some [97, 13, 10, 98, 13, 10] := by
  intro r s call
  obtain ⟨-, -, -, -, -, saved, refused?, hstart, -, hfiled, -, hsome⟩ :=
    saveAll_files_window (r := r) FileTree.lawful_view (by decide) (by decide +kernel) "box" false
      (fun _ _ ↦ false) s
  have hcall : (match call.1 with
    | .ok _ => none
    | .error i => some i.fetched) = some ["box/3.eml"] := by decide +kernel
  cases hresult : call.1 with
  | ok _ =>
    rw [hresult] at hcall
    cases hcall
  | error i =>
    rw [hresult] at hcall
    have hi : i.fetched = ["box/3.eml"] := Option.some.inj hcall
    obtain ⟨hfetched, hspec⟩ := hsome i hresult
    have hlength := congrArg List.length (hfetched.symm.trans hi)
    rw [List.length_map] at hlength
    have hsaved := List.prefix_iff_eq_take.mp ((List.prefix_append _ _).trans hstart)
    rw [hlength] at hsaved
    refine ⟨saved, refused?, i, rfl, hi, ?_, hfiled, hspec, by decide +kernel⟩
    rw [hsaved]
    decide +kernel

end Reader

end MailWindow
