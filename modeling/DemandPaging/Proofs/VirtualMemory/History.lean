import DemandPaging.Proofs.VirtualMemory.Retries
import Mathlib.Data.List.TakeWhile

/-!
What happens to the pages in a run: a page comes to live in a frame, it is swapped out or dropped,
and chunks of copies touch it. Between two chunks of a copy pages may come and go, so a copy is
taken apart into its chunks.
-/
namespace DemandPaging

inductive PageEvent where
  /-- The page has come to live in a frame. -/
  | settled (key : UserPage)
  /-- The page has left its frame and is still in the map. -/
  | evicted (key : UserPage)
  /-- The page has left its frame and the map. -/
  | dropped (key : UserPage)
  /-- A chunk of the page was read or written. -/
  | touched (key : UserPage) (write : Bool)
deriving DecidableEq

namespace PageEvent

variable {past events : List PageEvent} {event : PageEvent} {key : UserPage}

/-- What has happened since the page of `key` last came to live in a frame, newest first. -/
def since (events : List PageEvent) (key : UserPage) : List PageEvent :=
  events.reverse.takeWhile (· ≠ .settled key)

theorem since_append (past events : List PageEvent) (key : UserPage) :
    since (past ++ events) key =
      if .settled key ∈ events then since events key else events.reverse ++ since past key := by
  rw [since, List.reverse_append]
  split
  · rename_i hsettled
    rw [since, List.takeWhile_append, if_neg]
    intro hlength
    have hmem := List.mem_reverse.2 hsettled
    rw [← (List.takeWhile_prefix _).eq_of_length hlength] at hmem
    simpa using List.mem_takeWhile_imp hmem
  · rename_i hnot
    rw [List.takeWhile_append_of_pos, since]
    intro event hevent
    refine decide_eq_true ?_
    rintro rfl
    exact hnot (List.mem_reverse.1 hevent)

theorem mem_of_mem_since (h : event ∈ since events key) : event ∈ events :=
  List.mem_reverse.1 ((List.takeWhile_sublist _).mem h)

end PageEvent

namespace VirtualMemory

variable {δ φ π : Type} {vm mid after : VirtualMemory δ φ π} {key : UserPage}

/-- Whether the page of `key` lives in a frame. -/
def isResident (vm : VirtualMemory δ φ π) (key : UserPage) : Bool :=
  (vm.held? key).any (·.inMemory)

theorem isResident_iff : vm.isResident key = true ↔
    ∃ number, vm.home? key = some (.resident number) := by
  rw [isResident, home?]
  cases vm.held? key with
  | none => simp
  | some page =>
      cases hlocation : page.location with
      | resident number => simp [AnonPage.inMemory, AnonPage.frame?, hlocation]
      | swappedOut slot => simp [AnonPage.inMemory, AnonPage.frame?, hlocation]

theorem NotInMemory.isResident_eq (h : vm.NotInMemory key) : vm.isResident key = false := by
  rw [Bool.eq_false_iff, ne_eq, isResident_iff]
  rintro ⟨number, hhome⟩
  obtain ⟨page, hheld, hlocation⟩ := Option.map_eq_some_iff.1 hhome
  exact h page hheld number hlocation

theorem Mappable.notInMemory {pid : Pid} {addr : Nat} (h : Mappable vm pid addr) :
    vm.NotInMemory (.containing pid addr) := by
  simp [NotInMemory, h.held?_eq_none]

theorem notInMemory_of_swappedOut {page : AnonPage} {slot : SwapSlot}
    (hcell : vm.cell? key = some ⟨false, some page⟩)
    (hlocation : page.location = .swappedOut slot) : vm.NotInMemory key := by
  rw [NotInMemory, held?_of_cell? hcell]
  exact not_resident_of_swappedOut hlocation

theorem isResident_congr (h : after.held? key = vm.held? key) :
    after.isResident key = vm.isResident key := by
  rw [isResident, isResident, h]

def residentKeys (vm : VirtualMemory δ φ π) : List UserPage :=
  vm.pages.keys.filter vm.isResident

theorem mem_residentKeys : key ∈ vm.residentKeys ↔ vm.isResident key = true := by
  rw [residentKeys, List.mem_filter, mem_keys]
  refine and_iff_right_of_imp fun hresident hnone => ?_
  rw [isResident, held?, hnone] at hresident
  cases hresident

theorem nodup_residentKeys (vm : VirtualMemory δ φ π) : vm.residentKeys.Nodup :=
  vm.pages.nodup_keys.filter _

/-- What has happened to the pages between two states. -/
def changes (vm after : VirtualMemory δ φ π) : List PageEvent :=
  let gone := vm.residentKeys.filter (!after.isResident ·)
  let fresh := after.residentKeys.filter (!vm.isResident ·)
  (gone.filter after.pages.contains).map .evicted ++
    (gone.filter (!after.pages.contains ·)).map .dropped ++ fresh.map .settled

theorem settled_mem_changes : .settled key ∈ vm.changes after ↔
    after.isResident key = true ∧ vm.isResident key = false := by
  simp [changes, mem_residentKeys]

theorem touched_not_mem_changes {write : Bool} : .touched key write ∉ vm.changes after := by
  simp [changes]

variable [BlockDriver δ] [Placement φ] [Replacement π]

/-- A copy of `bytes` from or to user memory at `addr`, and what happens to the pages in it. -/
inductive Copies (pid : Pid) (write : Bool) : VirtualMemory δ φ π → Nat → List UInt8 →
    List PageEvent → VirtualMemory δ φ π → Prop where
  | done {vm : VirtualMemory δ φ π} {addr : Nat} : Copies pid write vm addr [] [] vm
  | stopped {vm after : VirtualMemory δ φ π} {addr : Nat} {bytes : List UInt8}
      {error : MemoryError} : bytes ≠ [] → vm.access pid addr write = .ok (.error error, after) →
      Copies pid write vm addr bytes (vm.changes after) after
  | chunk {vm mid after : VirtualMemory δ φ π} {addr count : Nat} {bytes : List UInt8}
      {number : FrameNumber} {frame : Frame} {events : List PageEvent} : bytes ≠ [] →
      vm.access pid addr write = .ok (.ok number, mid) → mid.pool.frame? number = some frame →
      count = chunkLength addr bytes.length →
      Copies pid write
        (if write then mid.patchFrame number frame (offsetInPage addr) (bytes.take count) else mid)
        (addr + count) (bytes.drop count) events after →
      Copies pid write vm addr bytes
        (vm.changes mid ++ .touched (.containing pid addr) write :: events) after

theorem CopyIn.exists_copies {pid : Pid} {addr moved : Nat} {data : List UInt8}
    {result : Except MemoryError Unit} (h : CopyIn pid vm addr data result moved after) :
    ∃ events, Copies pid true vm addr data events after := by
  induction h with
  | done => exact ⟨[], .done⟩
  | stopped hsome haccess => exact ⟨_, .stopped hsome haccess⟩
  | chunk hsome haccess hframe hcount _ ih =>
      obtain ⟨events, hcopies⟩ := ih
      exact ⟨_, .chunk hsome haccess hframe hcount hcopies⟩

theorem CopyOut.exists_copies {pid : Pid} {addr moved : Nat} {buffer got : List UInt8}
    {result : Except MemoryError Unit} (h : CopyOut pid vm addr buffer result got moved after) :
    ∃ events, Copies pid false vm addr buffer events after := by
  induction h with
  | done => exact ⟨[], .done⟩
  | stopped hsome haccess => exact ⟨_, .stopped hsome haccess⟩
  | chunk hsome haccess hframe hcount _ ih =>
      obtain ⟨events, hcopies⟩ := ih
      exact ⟨_, .chunk hsome haccess hframe hcount hcopies⟩

variable {drift : δ → δ → Prop} {trace : List (MemoryCall × MemoryReply)}
  {past events : List PageEvent}

/-- A call, and what happens to the pages in it. -/
inductive Logged (vm : VirtualMemory δ φ π) : MemoryCall → MemoryReply → List PageEvent →
    VirtualMemory δ φ π → Prop where
  | copyFromUser {pid : Pid} {addr : Nat} {buffer : List UInt8} {reply : MemoryReply}
      {events : List PageEvent} {after : VirtualMemory δ φ π} :
      vm.perform (.copyFromUser pid addr buffer) = .ok (reply, after) →
      Copies pid false vm addr buffer events after →
      Logged vm (.copyFromUser pid addr buffer) reply events after
  | copyToUser {pid : Pid} {addr : Nat} {data : List UInt8} {reply : MemoryReply}
      {events : List PageEvent} {after : VirtualMemory δ φ π} :
      vm.perform (.copyToUser pid addr data) = .ok (reply, after) →
      Copies pid true vm addr data events after →
      Logged vm (.copyToUser pid addr data) reply events after
  | other {call : MemoryCall} {reply : MemoryReply} {after : VirtualMemory δ φ π} :
      call.isCopy = false → vm.perform call = .ok (reply, after) →
      Logged vm call reply (vm.changes after) after

theorem Logged.perform_eq {call : MemoryCall} {reply : MemoryReply}
    (h : Logged vm call reply events after) : vm.perform call = .ok (reply, after) := by
  cases h with
  | copyFromUser hperform => exact hperform
  | copyToUser hperform => exact hperform
  | other _ hperform => exact hperform

theorem exists_logged {call : MemoryCall} {reply : MemoryReply}
    (h : vm.perform call = .ok (reply, after)) : ∃ events, Logged vm call reply events after := by
  cases perform_cases h with
  | copyFromUser hcall =>
      obtain ⟨_, hcopied⟩ := copyFromUser_cases hcall
      obtain ⟨events, hcopies⟩ := hcopied.exists_copies
      exact ⟨events, .copyFromUser h hcopies⟩
  | copyToUser hcall =>
      obtain ⟨_, hcopied⟩ := copyToUser_cases hcall
      obtain ⟨events, hcopies⟩ := hcopied.exists_copies
      exact ⟨events, .copyToUser h hcopies⟩
  | _ => exact ⟨_, .other rfl h⟩

/-- A run, and what happens to the pages in it. -/
inductive History (drift : δ → δ → Prop) : VirtualMemory δ φ π →
    List (MemoryCall × MemoryReply) → List PageEvent → VirtualMemory δ φ π → Prop where
  | nil {vm : VirtualMemory δ φ π} : History drift vm [] [] vm
  | cons {vm mid after : VirtualMemory δ φ π} {driver : δ} {call : MemoryCall}
      {reply : MemoryReply} {trace : List (MemoryCall × MemoryReply)}
      {events later : List PageEvent} : drift vm.swap.disk.driver driver →
      Logged (vm.withDriver driver) call reply events mid →
      History drift mid trace later after →
      History drift vm ((call, reply) :: trace) (events ++ later) after

theorem History.run (h : History drift vm trace events after) : Run drift vm trace after := by
  induction h with
  | nil => exact .nil
  | cons hdrift hlogged _ ih => exact .cons hdrift hlogged.perform_eq ih

theorem Run.exists_history (h : Run drift vm trace after) :
    ∃ events, History drift vm trace events after := by
  induction h with
  | nil => exact ⟨[], .nil⟩
  | cons hdrift hcall _ ih =>
      obtain ⟨events, hlogged⟩ := exists_logged hcall
      obtain ⟨later, hhistory⟩ := ih
      exact ⟨events ++ later, .cons hdrift hlogged hhistory⟩

/-- Books and tables are in order. -/
structure Orderly (vm : VirtualMemory δ φ π) : Prop where
  accounted : vm.Accounted none
  coherent : vm.Coherent

omit [BlockDriver δ] [Placement φ] [Replacement π] in
theorem Orderly.withDriver (h : vm.Orderly) (driver : δ) : (vm.withDriver driver).Orderly :=
  ⟨h.accounted.withDriver driver, h.coherent.of_alike (fun _ => rfl) (.refl _)⟩

omit [BlockDriver δ] [Placement φ] [Replacement π] in
theorem Orderly.patchFrame (h : vm.Orderly) {number : FrameNumber} {frame : Frame}
    (hframe : vm.pool.frame? number = some frame) (start : Nat) (data : List UInt8) :
    (vm.patchFrame number frame start data).Orderly :=
  ⟨h.accounted.patchFrame hframe start data, h.coherent.of_alike (fun _ => rfl) (.refl _)⟩

omit [BlockDriver δ] [Placement φ] [Replacement π] in
theorem orderly_new {count stackLimit : Nat} {pool : FramePool} {disk : BlockDevice δ}
    {placement : φ} {policy : π} (hpool : FramePool.new count = .ok pool) :
    (new (.new disk) pool placement policy stackLimit).Orderly :=
  ⟨accounted_new disk hpool placement policy stackLimit,
    coherent_new disk pool placement policy stackLimit⟩

/-- One fault has been resolved, or none. -/
inductive Readied (vm : VirtualMemory δ φ π) : VirtualMemory δ φ π → Prop where
  | idle : Readied vm vm
  | faulted {pid : Pid} {fault : FaultReport} {result : Except MemoryError Unit}
      {after : VirtualMemory δ φ π} : ResolveFault vm pid fault result after → Readied vm after

variable [GentleReplacement π]

theorem Orderly.of_perform (h : vm.Orderly) {call : MemoryCall} {reply : MemoryReply}
    (hcall : vm.perform call = .ok (reply, after)) : after.Orderly :=
  ⟨(perform_cases hcall).accounted h.accounted,
    (perform_cases hcall).coherent h.accounted h.coherent⟩

theorem Orderly.of_access (h : vm.Orderly) {pid : Pid} {addr : Nat} {write : Bool}
    {result : Except MemoryError FrameNumber}
    (haccess : vm.access pid addr write = .ok (result, after)) : after.Orderly :=
  ⟨accounted_of_access h.accounted haccess, coherent_of_access h.accounted h.coherent haccess⟩

theorem Orderly.of_readied (h : vm.Orderly) (hready : Readied vm after) : after.Orderly := by
  cases hready with
  | idle => exact h
  | faulted hresolve =>
      exact ⟨hresolve.accounted h.accounted, hresolve.coherent h.accounted h.coherent⟩

omit [BlockDriver δ] [Placement φ] [Replacement π] [GentleReplacement π] in
theorem Touched.error_or_marked {pid : Pid} {addr : Nat} {write : Bool}
    {result : Except MemoryError FrameNumber} (h : Touched vm pid addr write result after) :
    (∃ error, result = .error error ∧ after = vm) ∨
      ∃ number, result = .ok number ∧
        after = { vm with tables := vm.tables.marked pid addr write } := by
  cases h with
  | noAddressSpace => exact .inl ⟨_, rfl, rfl⟩
  | writeProtected => exact .inl ⟨_, rfl, rfl⟩
  | reached => exact .inr ⟨_, rfl, rfl⟩

/-- An access resolves one fault at most, and where it is not refused it marks its page after
that. -/
theorem Orderly.access_cases (h : vm.Orderly) {pid : Pid} {addr : Nat} {write : Bool}
    {result : Except MemoryError FrameNumber}
    (haccess : vm.access pid addr write = .ok (result, after)) :
    ∃ mid, Readied vm mid ∧ ((∃ error, result = .error error ∧ after = mid) ∨
      ∃ number, result = .ok number ∧
        after = { mid with tables := mid.tables.marked pid addr write }) := by
  obtain ⟨-, rfl, rfl⟩ | ⟨-, hcases⟩ := VirtualMemory.access_cases haccess
  · exact ⟨after, .idle, .inl ⟨_, rfl, rfl⟩⟩
  cases hcases with
  | touched htouched => exact ⟨vm, .idle, htouched.error_or_marked⟩
  | unresolved _ hresolve => exact ⟨after, .faulted hresolve, .inl ⟨_, rfl, rfl⟩⟩
  | resolved htouch hresolve hrest =>
      rename_i mid
      have hmid := h.of_readied (.faulted hresolve)
      -- The fault has made the page present, so no second one follows.
      obtain ⟨page, number, hheld, hlocation⟩ :=
        hresolve.exists_resident h.accounted h.coherent
      obtain ⟨reply, hagain⟩ := hmid.coherent.exists_touch hheld hlocation write
      refine ⟨mid, .faulted hresolve, ?_⟩
      cases hrest with
      | touched htouched => exact htouched.error_or_marked
      | unresolved hnone => cases hagain.symm.trans hnone
      | resolved hnone => cases hagain.symm.trans hnone

/-- What holds of a state and its past, and is kept by all that makes up a run. -/
structure Keeps (drift : δ → δ → Prop) (Inv : List PageEvent → VirtualMemory δ φ π → Prop) :
    Prop where
  drifted : ∀ {past vm driver}, Inv past vm → drift vm.swap.disk.driver driver →
    Inv past (vm.withDriver driver)
  called : ∀ {past vm call reply after}, vm.Orderly → Inv past vm → call.isCopy = false →
    vm.perform call = .ok (reply, after) → Inv (past ++ vm.changes after) after
  readied : ∀ {past vm after}, vm.Orderly → Inv past vm → Readied vm after →
    Inv (past ++ vm.changes after) after
  touched : ∀ {past vm pid addr write}, Inv past vm →
    Inv (past ++ [.touched (.containing pid addr) write])
      { vm with tables := vm.tables.marked pid addr write }
  patched : ∀ {past vm number frame start data}, Inv past vm →
    vm.pool.frame? number = some frame → Inv past (vm.patchFrame number frame start data)

variable {Inv : List PageEvent → VirtualMemory δ φ π → Prop}

theorem Copies.invariant {pid : Pid} {write : Bool} {addr : Nat} {bytes : List UInt8}
    (h : Copies pid write vm addr bytes events after) (hkeeps : Keeps drift Inv)
    (hvm : vm.Orderly) (hinv : Inv past vm) : Inv (past ++ events) after ∧ after.Orderly := by
  induction h generalizing past with
  | done =>
      rw [List.append_nil]
      exact ⟨hinv, hvm⟩
  | stopped _ haccess =>
      obtain ⟨mid, hready, ⟨error, -, rfl⟩ | ⟨number, hresult, -⟩⟩ := hvm.access_cases haccess
      · exact ⟨hkeeps.readied hvm hinv hready, hvm.of_readied hready⟩
      · cases hresult
  | chunk _ haccess hframe _ _ ih =>
      have hmarked := hvm.of_access haccess
      obtain ⟨mid, hready, ⟨error, hresult, -⟩ | ⟨number, -, rfl⟩⟩ := hvm.access_cases haccess
      · cases hresult
      have hreadied := hkeeps.readied hvm hinv hready
      rw [List.append_cons, ← List.append_assoc, ← List.append_assoc]
      split at ih
      · exact ih (hmarked.patchFrame hframe _ _) (hkeeps.patched (hkeeps.touched hreadied) hframe)
      · exact ih hmarked (hkeeps.touched hreadied)

theorem History.invariant (h : History drift vm trace events after) (hkeeps : Keeps drift Inv)
    (hvm : vm.Orderly) (hinv : Inv past vm) : Inv (past ++ events) after ∧ after.Orderly := by
  induction h generalizing past with
  | nil =>
      rw [List.append_nil]
      exact ⟨hinv, hvm⟩
  | cons hdrift hlogged hrest ih =>
      rename_i driver _ _ _ _ _
      have hdrifted := hkeeps.drifted hinv hdrift
      have hstart := hvm.withDriver driver
      rw [← List.append_assoc]
      refine ih (hstart.of_perform hlogged.perform_eq) ?_
      cases hlogged with
      | copyFromUser _ hcopies => exact (hcopies.invariant hkeeps hstart hdrifted).1
      | copyToUser _ hcopies => exact (hcopies.invariant hkeeps hstart hdrifted).1
      | other hcall hperform => exact hkeeps.called hstart hdrifted hcall hperform

end VirtualMemory

end DemandPaging
