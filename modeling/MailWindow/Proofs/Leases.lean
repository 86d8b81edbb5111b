import MailWindow.Proofs.Selection
import MailWindow.Reader.Basic

namespace MailWindow

namespace MemoryFolder

variable {f : MemoryFolder}

/-- The folder as it is stored: closed, and its calls forgotten. -/
def stored (f : MemoryFolder) : MemoryFolder := { f with access := none, calls := [] }

def opened (access : Access) (f : MemoryFolder) : MemoryFolder :=
  if f.isOpen then f else { f.logs [.select access] with access := some access }

def closed (f : MemoryFolder) : MemoryFolder := { f.logs [.close] with access := none }

def Accessible (f : MemoryFolder) : Prop := f.isOpen = true ∨ Fault.select ∉ f.faults

theorem select_of_granted (hf : Fault.select ∉ f.faults) (access : Access) :
    Folder.select access f = (.ok (), { f.logs [.select access] with access := some access }) := by
  have hcheck : (f.log (.select access)).check .select = .ok () := by simp [check, log, hf]
  change MemoryFolder.select access f = _
  simp only [select, hcheck]
  rfl

theorem select_of_denied (hf : Fault.select ∈ f.faults) (access : Access) :
    ∃ e, Folder.select access f = (.error e, f.logs [.select access]) := by
  obtain ⟨e, hcheck⟩ : ∃ e, (f.log (.select access)).check .select = .error e := by
    simp [check, log, hf]
  refine ⟨e, ?_⟩
  change MemoryFolder.select access f = _
  simp only [select, hcheck]
  rfl

theorem closeQuietly_of_granted (hf : Fault.close ∉ f.faults) :
    closeQuietly f = ([], f.closed) := by
  have hcheck : (f.log .close).check .close = .ok () := by simp [check, log, hf]
  have hclose : Folder.close false f = (.ok (), f.closed) := by
    change MemoryFolder.close false f = _
    simp only [close, hcheck]
    rfl
  simp only [closeQuietly, hclose]

theorem acquire_of_accessible (hf : f.Accessible) (access : Access) (retained : Bool) :
    Lease.acquire access retained f = (.ok ⟨!f.isOpen || retained⟩, f.opened access) := by
  have hopen : Folder.isOpen f = f.isOpen := rfl
  cases ho : f.isOpen with
  | true => simp [Lease.acquire, opened, hopen, ho]
  | false =>
    have hf := hf.resolve_left (ho ▸ Bool.false_ne_true)
    simp [Lease.acquire, opened, hopen, ho, select_of_granted hf]

theorem acquire_of_not_accessible (hf : ¬f.Accessible) (access : Access) (retained : Bool) :
    ∃ e, Lease.acquire access retained f = (.error e, f.logs [.select access]) := by
  obtain ⟨ho, hf⟩ := not_or.mp hf
  have hopen : Folder.isOpen f = false := Bool.not_eq_true _ ▸ ho
  obtain ⟨e, he⟩ := select_of_denied (Decidable.not_not.mp hf) access
  exact ⟨e, by simp [Lease.acquire, hopen, he]⟩

theorem release_of_granted (hf : Fault.close ∉ f.faults) (owned pending : Bool) :
    Lease.release ⟨owned⟩ pending f =
      (owned && pending, [], if owned && !pending then f.closed else f) := by
  cases owned <;> cases pending <;> simp [Lease.release, closeQuietly_of_granted hf]

theorem abandon_of_granted (hf : Fault.close ∉ f.faults) (ho : f.isOpen = true) (owned : Bool) :
    Lease.abandon ⟨owned⟩ f = ([], if owned then f.closed else f) := by
  have hopen : Folder.isOpen f = true := ho
  cases owned <;> simp [Lease.abandon, hopen, closeQuietly_of_granted hf]

theorem isOpen_opened (access : Access) (f : MemoryFolder) : (f.opened access).isOpen = true := by
  unfold opened
  split
  · assumption
  · rfl

theorem stored_opened (access : Access) (f : MemoryFolder) : (f.opened access).stored = f.stored := by
  unfold opened
  split <;> rfl

theorem calls_opened (access : Access) (f : MemoryFolder) :
    (f.opened access).calls = f.calls ++ if f.isOpen then [] else [.select access] := by
  unfold opened
  split
  · rw [List.append_nil]
  · rfl

section Stored

variable {β : Type} {g : MemoryFolder}

theorem eq_of_stored (φ : MemoryFolder → β) (hφ : ∀ f, φ f.stored = φ f)
    (h : g.stored = f.stored) : φ g = φ f := by
  rw [← hφ g, h, hφ]

theorem faults_of_stored (h : g.stored = f.stored) : g.faults = f.faults :=
  eq_of_stored faults (fun _ ↦ rfl) h

theorem messages_of_stored (h : g.stored = f.stored) : g.messages = f.messages :=
  eq_of_stored messages (fun _ ↦ rfl) h

theorem ids_of_stored (h : g.stored = f.stored) : g.ids = f.ids :=
  eq_of_stored ids (fun _ ↦ rfl) h

theorem selection_of_stored (h : g.stored = f.stored) : g.selection = f.selection :=
  eq_of_stored selection (fun _ ↦ rfl) h

theorem count_of_stored (h : g.stored = f.stored) : Folder.count g = Folder.count f :=
  eq_of_stored Folder.count (fun _ ↦ rfl) h

end Stored

/-- A folder with gaps between its identifiers; four of its messages are unseen. -/
def gapped : MemoryFolder where
  name := "INBOX"
  messages := [(2, true), (3, false), (5, false), (9, true), (10, false), (12, false)].map
    fun (id, seen) ↦ {
      id := ⟨id⟩
      raw := []
      flags := if seen then ["\\Seen"] else []
      received := { seconds := 0 } }

end MemoryFolder

namespace Reader

open MemoryFolder

variable {r r' : Reader MemoryFolder}

/-- The folder was open before the reader came to it. -/
def borrowed (r : Reader MemoryFolder) : Bool := r.folder.isOpen && !r.retained

def following (r : Reader MemoryFolder) (returned : Nat) : Continuation :=
  (r.spec.plan (Folder.count r.folder) r.config.searchCap).spec.advance r.spec.mode returned
    (Folder.count r.folder)

def visit (r : Reader MemoryFolder) : Visit :=
  let planned := r.spec.plan (Folder.count r.folder) r.config.searchCap
  { lease := ⟨!r.borrowed⟩
    mode := r.spec.mode
    count := Folder.count r.folder
    spec := planned.spec
    plan := planned.plan }

def inside (r : Reader MemoryFolder) : Reader MemoryFolder :=
  { r with folder := r.folder.opened r.config.folderAccess, retained := false }.warn
    (r.spec.plan (Folder.count r.folder) r.config.searchCap).warnings

def refused (r : Reader MemoryFolder) : Reader MemoryFolder :=
  { r with folder := r.folder.logs [.select r.config.folderAccess], retained := false }

theorem enter_of_accessible (hf : r.folder.Accessible) : r.enter = (.ok r.visit, r.inside) := by
  have hcount := count_of_stored (stored_opened r.config.folderAccess r.folder)
  have howned : (!r.folder.isOpen || r.retained) = !r.borrowed := by
    simp [borrowed]
  simp only [enter, acquire_of_accessible hf, hcount, howned]
  rfl

theorem enter_of_not_accessible (hf : ¬r.folder.Accessible) :
    ∃ e, r.enter = (.error e, r.refused) := by
  obtain ⟨e, he⟩ := acquire_of_not_accessible hf r.config.folderAccess r.retained
  exact ⟨.session e, by simp only [enter, he]; rfl⟩

/-- How a visit leaves a reader behind: nothing that is stored changes, and the folder is open if it
was open before the visit or is kept open. -/
structure Visited (r : Reader MemoryFolder) (kept : Bool) (spec : Spec) (reads : List Call)
    (r' : Reader MemoryFolder) : Prop where
  stored : r'.folder.stored = r.folder.stored
  config : r'.config = r.config
  spec : r'.spec = spec
  retained : r'.retained = (!r.borrowed && kept)
  isOpen : r'.folder.isOpen = (r.borrowed || kept)
  calls : r'.folder.calls = r.folder.calls ++
    (if r.folder.isOpen then [] else [.select r.config.folderAccess]) ++ reads ++
    (if r.borrowed || kept then [] else [.close])

theorem Visited.borrowed_eq {kept : Bool} {spec : Spec} {reads : List Call}
    (h : r.Visited kept spec reads r') : r'.borrowed = r.borrowed := by
  rw [borrowed, h.isOpen, h.retained]
  cases r.borrowed <;> cases kept <;> rfl

def during (r : Reader MemoryFolder) (reads : List Call) : MemoryFolder :=
  (r.folder.opened r.config.folderAccess).logs reads

theorem stored_during (r : Reader MemoryFolder) (reads : List Call) :
    (r.during reads).stored = r.folder.stored := stored_opened r.config.folderAccess r.folder

theorem isOpen_during (r : Reader MemoryFolder) (reads : List Call) :
    (r.during reads).isOpen = true := isOpen_opened r.config.folderAccess r.folder

theorem Visited.of_folder {kept : Bool} {spec : Spec} {reads : List Call}
    (hf : r'.folder = if r.borrowed || kept then r.during reads else (r.during reads).closed)
    (hr : r'.retained = (!r.borrowed && kept)) (hc : r'.config = r.config)
    (hs : r'.spec = spec) : r.Visited kept spec reads r' := by
  refine ⟨?_, hc, hs, hr, ?_, ?_⟩
  · rw [hf]
    refine Eq.trans ?_ (r.stored_during reads)
    split <;> rfl
  · rw [hf]
    cases r.borrowed || kept with
    | true => exact r.isOpen_during reads
    | false => rfl
  · rw [hf, ← calls_opened r.config.folderAccess r.folder]
    split
    · exact (List.append_nil _).symm
    · rfl

def outside (r : Reader MemoryFolder) (kept : Bool) (spec : Spec) (reads : List Call) :
    Reader MemoryFolder :=
  { r.inside with
    folder := if r.borrowed || kept then r.during reads else (r.during reads).closed
    retained := !r.borrowed && kept
    spec }

theorem visited_outside (r : Reader MemoryFolder) (kept : Bool) (spec : Spec) (reads : List Call) :
    r.Visited kept spec reads (r.outside kept spec reads) := .of_folder rfl rfl rfl rfl

section Endings

variable (hc : Fault.close ∉ r.folder.faults) (reads : List Call)

include hc

theorem close_not_mem_during : Fault.close ∉ (r.during reads).faults :=
  faults_of_stored (r.stored_during reads) ▸ hc

theorem leave_eq_outside (returned : Nat) :
    { r.inside with folder := r.during reads }.leave r.visit returned =
      r.outside (r.following returned).isPending (r.following returned).spec reads := by
  simp only [leave, visit, release_of_granted (close_not_mem_during hc reads), warn,
    List.append_nil]
  change Reader.mk _ _ _ _ _ = Reader.mk _ _ _ _ _
  congr 1
  change (if (!r.borrowed && !(r.following returned).isPending) = true then _ else _) =
    if (r.borrowed || (r.following returned).isPending) = true then _ else _
  cases r.borrowed <;> cases (r.following returned).isPending <;> rfl

theorem giveUp_eq_outside :
    { r.inside with folder := r.during reads }.giveUp r.visit = r.outside false r.spec reads := by
  simp only [giveUp, visit,
    abandon_of_granted (close_not_mem_during hc reads) (r.isOpen_during reads), warn,
    List.append_nil]
  cases hb : r.borrowed <;> simp [outside, inside, hb, warn]

end Endings

end Reader

end MailWindow
