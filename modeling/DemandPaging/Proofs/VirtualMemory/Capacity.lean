import DemandPaging.Proofs.VirtualMemory.Limits
import DemandPaging.Proofs.VirtualMemory.Transparency

/-!
How many pages a machine holds. Slots run out only where there are as many pages as frames and slots
together, or more pages than slots if pages are evicted unasked; and a machine can be filled that
far.
-/
namespace DemandPaging

/-- The pages of all address spaces, in the order in which a machine is filled with them. -/
def UserPage.nth (n : Nat) : UserPage := ⟨n / 0x80000, n % 0x80000⟩

theorem UserPage.nth_inj {m n : Nat} (h : nth m = nth n) : m = n := by
  have howner : m / 0x80000 = n / 0x80000 := congrArg owner h
  have hnumber : m % 0x80000 = n % 0x80000 := congrArg number h
  omega

theorem UserPage.inUserSpace_nth (n : Nat) : inUserSpace (nth n).base = true := by
  have hlt : n % 0x80000 * pageSize < userLimit := by
    simp only [pageSize, userLimit]
    omega
  exact decide_eq_true hlt

namespace VirtualMemory

variable {δ φ π : Type} [BlockDriver δ] {vm mid after : VirtualMemory δ φ π}
  {busy : Option UserPage} {key : UserPage} {page : AnonPage} {slot : SwapSlot}
  {number : FrameNumber} {frame : Frame} {placement : φ} {n : Nat}

section Full

variable [Replacement π] [ValidReplacement π] [DecisiveReplacement π]

/-- Where all frames and all slots are taken, no page can go out. -/
theorem Searching.evictPage_of_full (h : vm.Searching busy) (hframes : 0 < vm.pool.size)
    (hfull : vm.pool.allocatedCount = vm.pool.size)
    (hslots : vm.swap.taken.size = vm.swap.slotCount) :
    vm.evictPage = .error (.swapExhausted vm.swap.slotCount) := by
  obtain ⟨choice, victim, page, number, -, hlocation, hevict⟩ := h.eviction_of_full hframes hfull
  have hacquire : (vm.consulted choice).swap.acquire = .error (.swapExhausted vm.swap.slotCount) :=
    SwapArea.acquire_of_full h.accounted.bounded hslots
  rw [hevict, pageOutPage, AnonPage.pageOut, hlocation]
  simp only [hacquire]
  rfl

variable [Placement φ]

theorem Searching.obtainFrame_of_full (h : vm.Searching busy) (hframes : 0 < vm.pool.size)
    (hfull : vm.pool.allocatedCount = vm.pool.size)
    (hslots : vm.swap.taken.size = vm.swap.slotCount) (owner : UserPage) :
    vm.obtainFrame owner = .error (.swapExhausted vm.swap.slotCount) := by
  rw [obtainFrame, obtainFrameWithin, FramePool.alloc_of_full hfull]
  change vm.evictPage >>= _ = _
  rw [h.evictPage_of_full hframes hfull hslots]
  rfl

/-- And no page can come back. -/
theorem Accounted.resolveFault_of_full (h : vm.Accounted none) (hframes : 0 < vm.pool.size)
    (hpages : vm.pages.size = vm.pool.size + vm.swap.slotCount)
    (huser : inUserSpace key.base = true) (hheld : vm.held? key = some page)
    (hlocation : page.location = .swappedOut slot) :
    vm.resolveFault key.owner ⟨key.base, false, none⟩ =
      .error (.swapExhausted vm.swap.slotCount) := by
  obtain ⟨cell, hcell, hpage⟩ := Option.bind_eq_some_iff.1 hheld
  obtain ⟨found, rfl⟩ := h.exists_page hcell
  cases hpage
  have hcount := h.size_pages
  have hallocated := h.sound.allocatedCount_le_size
  have htaken := h.bounded.size_taken_le
  have hfull : vm.pool.allocatedCount = vm.pool.size := by omega
  have hslots : vm.swap.taken.size = vm.swap.slotCount := by omega
  have hsearching := h.searching_lock hheld (not_resident_of_swappedOut hlocation)
  have hback : vm.bringBack key page = .error (.swapExhausted vm.swap.slotCount) := by
    change (vm.lock key (some page)).obtainFrame key >>= _ = _
    rw [hsearching.obtainFrame_of_full hframes hfull hslots]
    rfl
  rw [resolveFault, UserPage.containing_base, huser, hcell]
  simp [waitFor, bind, Except.bind, AnonPage.inMemory, AnonPage.frame?, hlocation, hback]

end Full

/-- A page that goes out takes a slot, and its sectors are counted. -/
theorem Attempt.writes_eq {slot : SwapSlot} (h : Attempt vm (.ok slot) after) :
    after.swap.disk.writes = vm.swap.disk.writes + slotSectors ∧
      after.swap.taken.size = vm.swap.taken.size + 1 := by
  cases h with
  | moved _ _ _ _ hslot hrun =>
      exact ⟨BlockDevice.writes_of_writeRun hrun, SwapArea.size_insert_of_free hslot.free⟩

/-- No more sectors have been written than the slots in use hold. -/
def Sparing (vm : VirtualMemory δ φ π) : Prop :=
  vm.swap.disk.writes ≤ vm.swap.taken.size * slotSectors

/-- While a slot is free, a device that was used sparingly can count the sectors of one more. -/
theorem Sparing.full_of_stops {halt : Halt} (h : vm.Sparing) (hstops : vm.swap.Stops halt) :
    vm.swap.taken.size = vm.swap.slotCount := by
  cases hstops with
  | exhausted hfull => exact hfull
  | uncounted _ hend hlt =>
      have hsize := vm.swap.disk.size.toNat_lt
      simp only [Sparing, SwapArea.slotCount, slotSectors] at *
      omega

section Mapping

variable [Placement φ] [CompletePlacement φ] [ValidPlacement φ] [Replacement π]
  [ValidReplacement π]

theorem Granted.sparing (hgranted : Granted vm mid number frame placement)
    (hsearching : vm.Searching busy) (h : vm.Sparing) : mid.Sparing := by
  cases hgranted.cases hsearching with
  | inl hfree =>
      rw [hfree.1]
      exact h
  | inr hevicted =>
      obtain ⟨-, slot, hevict⟩ := hevicted
      obtain ⟨choice, -, hattempt⟩ := hsearching.exists_attempt hevict
      obtain ⟨hwrites, htaken⟩ := hattempt.writes_eq
      have hbefore : (vm.consulted choice).Sparing := h
      rw [Sparing, hwrites, htaken, Nat.succ_mul]
      exact Nat.add_le_add_right hbefore _

theorem MapZero.sparing {pid : Pid} {addr : Nat} {kind : PageKind} {writable : Bool}
    (hcases : MapZero vm pid addr kind writable (.ok ()) after) (hbooks : vm.Accounted none)
    (h : vm.Sparing) : after.Sparing := by
  cases hcases with
  | made _ hmappable hgranted =>
      have hmid := hgranted.sparing (hbooks.searching_lock hmappable.held?_eq_none (by simp)) h
      exact hmid

end Mapping

section Filling

variable [SectorStore δ] [ReliableStore δ] [Placement φ] [Replacement π] [GentleReplacement π]

/-- A machine with the first `n` pages and no others. -/
structure Filled (vm : VirtualMemory δ φ π) (n : Nat) : Prop where
  healthy : vm.Healthy
  writable : vm.swap.disk.type ≠ .foreign
  sparing : vm.Sparing
  size_eq : vm.pages.size = n
  mapped : ∀ {key}, vm.user.page? key ≠ none → ∃ k < n, key = .nth k

/-- The next page has an address space, if need be a new one. -/
theorem Filled.exists_space (h : vm.Filled n) (pid : Pid) :
    ∃ reply spaced, vm.perform (.createSpace pid) = .ok (reply, spaced) ∧ spaced.Filled n ∧
      spaced.user.contains pid = true ∧ vm.KeepsParts spaced := by
  obtain ⟨fresh, spaced, hcreate⟩ : ∃ fresh spaced, vm.createSpace pid = (fresh, spaced) :=
    ⟨_, _, rfl⟩
  have hcall : vm.perform (.createSpace pid) = .ok (.created fresh, spaced) := by
    simp only [perform, hcreate]
    rfl
  have hcases := perform_cases hcall
  have hsame : spaced.swap = vm.swap ∧ spaced.pages = vm.pages := by
    simp only [VirtualMemory.createSpace] at hcreate
    split at hcreate <;> cases hcreate <;> exact ⟨rfl, rfl⟩
  have huser := user_createSpace hcreate
  have hspace : spaced.user.contains pid = true ∧ spaced.user.page? = vm.user.page? := by
    simp only [UserMemory.createSpace] at huser
    split at huser
    · rename_i hcontains
      rw [← (Prod.mk.inj huser).2]
      exact ⟨hcontains, rfl⟩
    · rw [← (Prod.mk.inj huser).2]
      simp
  refine ⟨_, spaced, hcall, ⟨hcases.healthy h.healthy, ?_, ?_, ?_, ?_⟩, hspace.1,
    hcases.keepsParts⟩
  · rw [hsame.1]
    exact h.writable
  · rw [Sparing, hsame.1]
    exact h.sparing
  · rw [hsame.2]
    exact h.size_eq
  · intro key hkey
    rw [hspace.2] at hkey
    exact h.mapped hkey

variable [CompletePlacement φ] [ValidPlacement φ] [ValidReplacement π] [DecisiveReplacement π]

/-- A machine that has room takes the next page. -/
theorem Filled.exists_page (h : vm.Filled n) (hroom : n < vm.pool.size + vm.swap.slotCount)
    (hspace : vm.user.contains (UserPage.nth n).owner = true) :
    ∃ reply after, vm.perform (.mapZero (UserPage.nth n).owner (UserPage.nth n).base .ordinary
        true) = .ok (reply, after) ∧ after.Filled (n + 1) ∧ vm.KeepsParts after := by
  have hbooks := h.healthy.accounted
  have hoperational : vm.Operational := ⟨hbooks, h.healthy.coherent, h.writable⟩
  have hvacant : vm.user.page? (.nth n) = none := by
    by_contra hmapped
    obtain ⟨k, hlt, heq⟩ := h.mapped hmapped
    exact Nat.ne_of_gt hlt (UserPage.nth_inj heq)
  have hspec : vm.user.mapZero (UserPage.nth n).owner (UserPage.nth n).base .ordinary true =
      (.ok (), vm.user.set (.nth n) (some ⟨.ordinary, true, .zero pageSize⟩)) := by
    rw [UserMemory.mapZero, UserPage.inUserSpace_nth, hspace, UserPage.containing_base, hvacant]
    rfl
  cases hmap : vm.mapZero (UserPage.nth n).owner (UserPage.nth n).base .ordinary true with
  | error halt =>
      -- It would find all frames and all slots taken, but there are not that many pages.
      obtain ⟨hstops, hfull⟩ := hoperational.haltsOnly_mapZero _ _ _ _ halt hmap
      have htaken := h.sparing.full_of_stops hstops
      have hcount := hbooks.size_pages
      rw [h.size_eq] at hcount
      omega
  | ok outcome =>
      obtain ⟨result, after⟩ := outcome
      have hcall : vm.perform (.mapZero (UserPage.nth n).owner (UserPage.nth n).base .ordinary
          true) = .ok (.done result, after) := by
        simp only [perform, hmap]
        rfl
      have hcases := perform_cases hcall
      have hmapped := mapZero_cases hmap
      have hstep := (hmapped.refines hbooks h.healthy.coherent).eq_of_external fun error herror =>
        (herror ▸ hmapped).external hbooks h.healthy.equipped
      rw [hspec] at hstep
      obtain ⟨rfl, huser⟩ := Prod.mk.inj hstep
      refine ⟨_, after, hcall, ⟨hcases.healthy h.healthy, ?_, ?_, ?_, ?_⟩, hcases.keepsParts⟩
      · rw [hcases.keepsParts.type_disk]
        exact h.writable
      · exact hmapped.sparing hbooks h.sparing
      · rw [hmapped.size_pages, h.size_eq]
      · intro key hkey
        rw [← huser] at hkey
        by_cases heq : UserPage.nth n = key
        · exact ⟨n, Nat.lt_succ_self n, heq.symm⟩
        · obtain ⟨k, hlt, hnth⟩ := h.mapped (by simpa [UserMemory.set, heq] using hkey)
          exact ⟨k, Nat.lt_succ_of_lt hlt, hnth⟩

theorem Filled.exists_run (h : vm.Filled 0) (hroom : n ≤ vm.pool.size + vm.swap.slotCount) :
    ∃ trace after, Run Eq vm trace after ∧ (∀ step ∈ trace, step.1 ≠ .evictPage) ∧
      after.Filled n ∧ vm.KeepsParts after := by
  induction n with
  | zero => exact ⟨[], vm, .nil, by simp, h, .refl vm⟩
  | succ n ih =>
      obtain ⟨trace, mid, hrun, hcalls, hmid, hparts⟩ := ih (Nat.le_of_succ_le hroom)
      obtain ⟨reply, spaced, hcreate, hspaced, hcontains, hparts'⟩ :=
        hmid.exists_space (UserPage.nth n).owner
      have hkeeps := hparts.trans hparts'
      rw [← hkeeps.frames, ← hkeeps.slotCount] at hroom
      obtain ⟨reply', after, hmap, hafter, hparts''⟩ := hspaced.exists_page hroom hcontains
      refine ⟨_, after, hrun.append (.cons rfl hcreate (.cons rfl hmap .nil)), ?_, hafter,
        hkeeps.trans hparts''⟩
      intro step hmem
      rcases List.mem_append.1 hmem with hmem | hmem
      · exact hcalls step hmem
      · simp only [List.mem_cons, List.not_mem_nil, or_false] at hmem
        obtain rfl | rfl := hmem <;> simp

omit [GentleReplacement π] [CompletePlacement φ] [ValidPlacement φ] in
/-- Filled up, a machine has a page that cannot come back. -/
theorem Filled.exists_lost (h : vm.Filled (vm.pool.size + vm.swap.slotCount))
    (hframes : 0 < vm.pool.size) (hslots : 0 < vm.swap.slotCount) :
    ∃ (key : UserPage) (slot : SwapSlot),
      vm.location? key.owner key.base = .ok (some (.swappedOut slot)) ∧
      vm.perform (.resolveFault key.owner ⟨key.base, false, none⟩) =
        .error (.swapExhausted vm.swap.slotCount) := by
  have hbooks := h.healthy.accounted
  obtain ⟨key, page, slot, hheld, hlocation⟩ :=
    hbooks.exists_swappedOut (by rw [h.size_eq]; omega)
  have huser : inUserSpace key.base = true := by
    obtain ⟨k, -, rfl⟩ := h.mapped (by simp [page?_user, hheld] : vm.user.page? key ≠ none)
    exact UserPage.inUserSpace_nth k
  refine ⟨key, slot, ?_, ?_⟩
  · rw [location?, hbooks.page?_eq, UserPage.containing_base, hheld]
    exact congrArg (Except.ok ∘ some) hlocation
  · simp only [perform, hbooks.resolveFault_of_full hframes h.size_eq huser hheld hlocation]
    rfl

end Filling

/-- A new swap device in memory, with nothing on it. -/
def freshDisk (sectors : SectorNumber) : BlockDevice MemoryDisk :=
  ⟨0, "hda", .swap, sectors, .new sectors, 0, 0⟩

theorem roomy_freshDisk (sectors : SectorNumber) : (SwapArea.new (freshDisk sectors)).Roomy := by
  have hsectors : (freshDisk sectors).driver.sectors = sectors := MemoryDisk.sectors_new sectors
  change sectors.toNat / slotSectors * slotSectors ≤ (freshDisk sectors).driver.sectors.toNat
  rw [hsectors]
  exact Nat.div_mul_le_self _ _

theorem filled_new {count stackLimit : Nat} {pool : FramePool}
    (hpool : FramePool.new count = .ok pool) (hcount : 0 < count) (sectors : SectorNumber)
    (placement : StandardPlacement) (policy : StandardReplacement) :
    (new (.new (freshDisk sectors)) pool placement policy stackLimit).Filled 0 where
  healthy := healthy_new hpool hcount (roomy_freshDisk sectors) placement policy
  writable := by
    change DeviceType.swap ≠ DeviceType.foreign
    decide
  sparing := Nat.zero_le _
  size_eq := Std.ExtTreeMap.size_empty
  mapped {key} hkey := by
    rw [user_new] at hkey
    exact absurd rfl hkey

section Standard

variable {count stackLimit : Nat} {pool : FramePool} {placement : PlacementName}
  {policy : ReplacementName} {trace : List (MemoryCall × MemoryReply)}

/-- Slots do not run out while there are no more pages than slots, nor, if no eviction is asked for,
while there are fewer pages than frames and slots. The device may do what it likes. -/
theorem slots_suffice {registry rest : DeviceRegistry δ} {name : Option String}
    {swap : SwapArea δ} {vm : VirtualMemory δ StandardPlacement StandardReplacement}
    (hcount : 0 < count) (hpool : FramePool.new count = .ok pool)
    (hclaim : SwapArea.claim? registry name = some (swap, rest))
    (hrun : Run (fun _ _ => True)
      (new swap pool (.ofName placement) (.ofName policy) stackLimit) trace vm)
    {call : MemoryCall} (hpages : vm.pages.size ≤ vm.swap.slotCount ∨
      call ≠ .evictPage ∧ vm.pages.size < count + vm.swap.slotCount) (driver : δ) (slots : Nat) :
    (vm.withDriver driver).perform call ≠ .error (.swapExhausted slots) := by
  have hoperational := (hrun.operational_of_claim? hclaim hpool).withDriver driver
  have hsize : (vm.withDriver driver).pool.size = count := by
    obtain ⟨-, rfl⟩ := FramePool.new_eq_ok hpool
    exact hrun.size_pool.trans (by simp [new, FramePool.size])
  intro hhalt
  have hstop := hoperational.haltsOnly_perform call _ hhalt
  generalize hcause : Halt.swapExhausted slots = halt at hstop
  cases hstop with
  | exhausted hsurplus =>
      have hpages' : (vm.withDriver driver).surplusFor call + vm.swap.slotCount ≤ vm.pages.size :=
        hsurplus
      cases hpages with
      | inl hfew =>
          have hpos := surplusFor_pos (hsize ▸ hcount) call
          omega
      | inr hordinary =>
          rw [surplusFor_of_ne hordinary.1, hsize] at hpages'
          omega
  | uncounted hend =>
      rw [← hcause] at hend
      cases hend.1

/-- Slots never run out before there are as many pages as frames and slots, or more pages than slots
if evictions are asked for. And they may run out then: a machine can be filled that far, and none of
its pages that are swapped out can come back. -/
theorem exact_swap_capacity (placement : PlacementName) (policy : ReplacementName)
    (hcount : 0 < count) (hpool : FramePool.new count = .ok pool) :
    (∀ {δ : Type} [BlockDriver δ] {registry rest : DeviceRegistry δ} {name : Option String}
        {swap : SwapArea δ} {trace : List (MemoryCall × MemoryReply)}
        {vm : VirtualMemory δ StandardPlacement StandardReplacement} {call : MemoryCall},
      SwapArea.claim? registry name = some (swap, rest) →
      Run (fun _ _ => True) (new swap pool (.ofName placement) (.ofName policy) stackLimit)
        trace vm →
      vm.pages.size ≤ vm.swap.slotCount ∨
        call ≠ .evictPage ∧ vm.pages.size < count + vm.swap.slotCount →
      ∀ driver slots, (vm.withDriver driver).perform call ≠ .error (.swapExhausted slots)) ∧
    ∀ {sectors : SectorNumber}, 0 < sectors.toNat / slotSectors →
      ∃ (trace : List (MemoryCall × MemoryReply))
        (vm : VirtualMemory MemoryDisk StandardPlacement StandardReplacement) (key : UserPage)
        (slot : SwapSlot),
        Run Eq (new (.new (freshDisk sectors)) pool (.ofName placement) (.ofName policy)
          stackLimit) trace vm ∧
        (∀ step ∈ trace, step.1 ≠ .evictPage) ∧
        vm.pages.size = count + sectors.toNat / slotSectors ∧
        vm.location? key.owner key.base = .ok (some (.swappedOut slot)) ∧
        vm.perform (.resolveFault key.owner ⟨key.base, false, none⟩) =
          .error (.swapExhausted (sectors.toNat / slotSectors)) := by
  constructor
  · intro δ _ registry rest name swap trace vm call hclaim hrun hpages driver slots
    exact slots_suffice hcount hpool hclaim hrun hpages driver slots
  · intro sectors hsectors
    have hempty : (new (.new (freshDisk sectors)) pool (.ofName placement) (.ofName policy)
        stackLimit : VirtualMemory MemoryDisk StandardPlacement StandardReplacement).Filled 0 :=
      filled_new hpool hcount sectors _ _
    obtain ⟨trace, vm, hrun, hcalls, hfilled, hparts⟩ := hempty.exists_run (Nat.le_refl _)
    have hframes : vm.pool.size = count := by
      obtain ⟨-, rfl⟩ := FramePool.new_eq_ok hpool
      exact hparts.frames.trans (by simp [new, FramePool.size])
    have hslots : vm.swap.slotCount = sectors.toNat / slotSectors := hparts.slotCount
    rw [← hparts.frames, ← hparts.slotCount] at hfilled
    obtain ⟨key, slot, hlocation, hfault⟩ :=
      hfilled.exists_lost (by omega) (by omega)
    refine ⟨trace, vm, key, slot, hrun, hcalls, ?_, hlocation, ?_⟩
    · rw [hfilled.size_eq, hframes, hslots]
    · rw [hfault, hslots]

/-- Two pages fill a machine of one frame and one slot, and no more fit into it. -/
theorem exact_swap_capacity_one_frame :
    ∃ pool, FramePool.new 1 = .ok pool ∧
      ∃ (trace : List (MemoryCall × MemoryReply))
        (vm : VirtualMemory MemoryDisk StandardPlacement StandardReplacement) (key : UserPage)
        (slot : SwapSlot),
        Run Eq (new (.new (freshDisk 8)) pool (.ofName .firstFit) (.ofName .fifo) 0) trace vm ∧
        (∀ step ∈ trace, step.1 ≠ .evictPage) ∧ vm.pages.size = 2 ∧
        vm.location? key.owner key.base = .ok (some (.swappedOut slot)) ∧
        vm.perform (.resolveFault key.owner ⟨key.base, false, none⟩) =
          .error (.swapExhausted 1) := by
  have hpool : FramePool.new 1 = .ok ⟨.replicate 1 .blank, [], 0⟩ := rfl
  have hsectors : 0 < (8 : SectorNumber).toNat / slotSectors := by decide
  exact ⟨_, hpool, (exact_swap_capacity .firstFit .fifo (by decide) hpool).2 hsectors⟩

end Standard

end VirtualMemory

end DemandPaging
