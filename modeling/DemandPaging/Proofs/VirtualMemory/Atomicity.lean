import DemandPaging.BlockDevice.FaultyDisk
import DemandPaging.Proofs.VirtualMemory.Eviction
import DemandPaging.Proofs.VirtualMemory.Ownership
import DemandPaging.Proofs.VirtualMemory.UserView

/-!
What an operation leaves behind that fails. Only a page fault that got as far as reading its page
may have changed anything that matters, and no more than it took to make room.
-/
namespace DemandPaging

open SectorStore (stored)

/-- The sector lies in a slot that no page is in. -/
def SwapArea.IsIdle {δ : Type} (area : SwapArea δ) (sector : SectorNumber) : Prop :=
  ∃ slot : SwapSlot, slot.index < area.slotCount ∧ area.isTaken slot = false ∧
    ∃ i < slotSectors, slot.startSector + UInt32.ofNat i = sector

namespace VirtualMemory

variable {δ φ : Type} [BlockDriver δ] [SectorStore δ]
  {vm mid after : VirtualMemory δ φ StandardReplacement} {busy : Option UserPage} {key : UserPage}
  {page : AnonPage} {error : MemoryError}

/-- Nothing has changed but accessed bits, the hand of a clock, what the device counts and what it
holds in slots that no page is in. -/
structure Undisturbed (vm after : VirtualMemory δ φ StandardReplacement) : Prop where
  pages : after.pages = vm.pages
  pool : after.pool = vm.pool
  taken : after.swap.taken = vm.swap.taken
  tables : vm.tables.Alike after.tables
  usage : after.usage = vm.usage
  placement : after.placement = vm.placement
  policy : ∃ hand, after.policy = vm.policy.withHand hand
  stackLimit : after.stackLimit = vm.stackLimit
  disk : after.swap.disk.identity = vm.swap.disk.identity
  sectors : ∀ sector, ¬ vm.swap.IsIdle sector →
    stored after.swap.disk.driver sector = stored vm.swap.disk.driver sector

omit [BlockDriver δ] [SectorStore δ] in
theorem usage_congr (hframes : after.pool.size = vm.pool.size)
    (hfree : after.pool.freeFrames = vm.pool.freeFrames)
    (hdisk : after.swap.disk.size = vm.swap.disk.size) (htaken : after.swap.taken = vm.swap.taken)
    (hins : after.pageIns = vm.pageIns) (houts : after.pageOuts = vm.pageOuts) :
    after.usage = vm.usage := by
  simp [usage, SwapArea.freeSlots, SwapArea.slotCount, hframes, hfree, hdisk, htaken, hins, houts]

theorem Undisturbed.refl (vm : VirtualMemory δ φ StandardReplacement) : vm.Undisturbed vm :=
  ⟨rfl, rfl, rfl, .refl _, rfl, rfl, vm.policy.exists_eq_withHand, rfl, rfl, fun _ _ => rfl⟩

theorem Attempt.undisturbed {choice : Choice StandardReplacement}
    (hchoice : Replacement.choose vm.policy vm.pool vm.tables = .ok choice)
    (hattempt : Attempt (vm.consulted choice) (.error error) after) : vm.Undisturbed after := by
  have htables := GentleReplacement.alike hchoice
  have hpolicy := StandardReplacement.exists_hand_of_choose hchoice
  cases hattempt with
  | exhausted => exact ⟨rfl, rfl, rfl, htables, rfl, rfl, hpolicy, rfl, rfl, fun _ _ => rfl⟩
  | failed hcell hlocation hframe hslot hrun =>
      rename_i slot _ disk
      have hidentity := (BlockDevice.transfers_of_writeRun hrun).identity_eq
      refine ⟨rfl, rfl, rfl, htables, usage_congr rfl rfl (congrArg (·.size) hidentity) rfl rfl rfl,
        rfl, hpolicy, rfl, hidentity, ?_⟩
      intro sector hbusy
      refine BlockDevice.stored_of_writeRun hrun fun i hi heq => hbusy ?_
      exact ⟨slot, hslot.lt_slotCount, hslot.free, i, hi, heq⟩

/-- An eviction that fails moves nothing. -/
theorem Searching.undisturbed (h : vm.Searching busy)
    (hevict : vm.evictPage = .ok (.error error, after)) : vm.Undisturbed after := by
  obtain ⟨choice, hchoice, hattempt⟩ := h.exists_attempt hevict
  exact hattempt.undisturbed hchoice

/-- A new page that does not come to be is out of the map again. -/
theorem Undisturbed.forget (h : (vm.lock key none).Undisturbed mid)
    (hvacant : vm.cell? key = none) : vm.Undisturbed (mid.forget key) :=
  { h with pages := pages_forget_of_lock h.pages hvacant }

/-- A page that does not come back is in its cell as before. -/
theorem Undisturbed.putPage (h : (vm.lock key (some page)).Undisturbed mid)
    (hcell : vm.cell? key = some ⟨false, some page⟩) : vm.Undisturbed (mid.putPage key page) :=
  { h with pages := pages_putPage_of_lock h.pages hcell }

/-- A slot that a page is in keeps its contents. -/
theorem Undisturbed.slotPage_eq (h : vm.Undisturbed after) (hbounded : vm.swap.Bounded)
    {slot : SwapSlot} (htaken : vm.swap.isTaken slot = true) :
    after.swap.disk.slotPage slot = vm.swap.disk.slotPage slot := by
  apply Bytes.ext
  apply sectorsFrom_congr
  intro i hi
  apply h.sectors
  intro hidle
  obtain ⟨other, hother, hfree, j, hj, heq⟩ := hidle
  have hne : other ≠ slot := by
    intro hsame
    rw [hsame, htaken] at hfree
    cases hfree
  exact SwapSlot.startSector_add_ne hne (SwapSlot.addressable_of_lt hother)
    (SwapSlot.addressable_of_lt (hbounded slot htaken)) hj hi heq

/-- Processes do not notice. -/
theorem Undisturbed.user_eq (h : vm.Undisturbed after) (hbooks : vm.Accounted none) :
    after.user = vm.user := by
  refine user_congr h.tables.contains h.stackLimit ?_ ?_
  · intro key
    exact held?_congr (cell?_congr h.pages key)
  · intro key page hheld
    cases hlocation : page.location with
    | resident number => rw [contentsAt, contentsAt, h.pool]
    | swappedOut slot =>
        exact h.slotPage_eq hbooks.bounded (hbooks.isTaken_of_swappedOut hheld hlocation)

/-- What is owned stays owned. -/
theorem Undisturbed.accounted (h : vm.Undisturbed after) (hbooks : vm.Accounted none) :
    after.Accounted none := by
  have hcell (key : UserPage) : after.cell? key = vm.cell? key := cell?_congr h.pages key
  refine hbooks.of_same ?_ ?_ ?_ h.taken (congrArg (·.size) h.disk) ?_ ?_
  · rw [h.pool]
    exact hbooks.sound
  · rw [h.pool]
    exact hbooks.unpinned
  · intro number
    rw [h.pool]
  · intro key
    exact held?_congr (hcell key)
  · intro key cell hfound hidle
    exact hbooks.finished ((hcell key).symm.trans hfound) hidle

/-- The page of `victim` has left its frame for a slot, and no other page has moved. -/
inductive Displaced (vm after : VirtualMemory δ φ StandardReplacement) (victim : UserPage) :
    Prop where
  | intro {page : AnonPage} {number : FrameNumber} {slot : SwapSlot} :
      vm.cell? victim = some ⟨false, some page⟩ → page.location = .resident number →
      (∀ other, after.cell? other = if victim = other then
        some ⟨false, some { page with location := .swappedOut slot }⟩ else vm.cell? other) →
      Displaced vm after victim

/-- The page of `key` is where it was. Unless a frame was free another page may have moved to make
room; nobody else has noticed anything. -/
structure Unresolved (vm after : VirtualMemory δ φ StandardReplacement) (key : UserPage) :
    Prop where
  user_eq : after.user = vm.user
  owned : after.Owned
  cell?_eq : after.cell? key = vm.cell? key
  isTaken : ∀ {page slot}, vm.held? key = some page → page.location = .swappedOut slot →
    after.swap.isTaken slot = true
  moved : (∀ other, after.cell? other = vm.cell? other) ∨
    vm.usage.framesFree = 0 ∧ ∃ victim, victim ≠ key ∧ vm.Displaced after victim
  usage_eq : vm.usage.framesFree ≠ 0 → after.usage = vm.usage

omit [SectorStore δ] in
/-- An eviction that succeeds moves one page. -/
theorem Searching.displaced (h : vm.Searching busy) {slot : SwapSlot}
    (hevict : vm.evictPage = .ok (.ok slot, after)) : ∃ victim, vm.Displaced after victim := by
  obtain ⟨choice, -, hattempt⟩ := h.exists_attempt hevict
  cases hattempt with
  | moved hcell hlocation =>
      exact ⟨_, .intro hcell hlocation fun other => cell?_putPage _ _ other _⟩

omit [BlockDriver δ] [SectorStore δ] in
/-- A page whose cell is locked is not the one that leaves its frame. -/
theorem Displaced.putPage {page? : Option AnonPage} {victim : UserPage}
    (h : (vm.lock key page?).Displaced mid victim) (hpages : after.pages = mid.pages)
    (page : AnonPage) :
    victim ≠ key ∧ (vm.putPage key page).Displaced (after.putPage key page) victim := by
  cases h with
  | intro hvictim hlocation hcells =>
      rename_i moved number slot
      rw [cell?_lock] at hvictim
      split at hvictim
      · cases hvictim
      · rename_i hne
        have hcell : (vm.putPage key page).cell? victim = some ⟨false, some moved⟩ := by
          rw [cell?_putPage, if_neg hne, hvictim]
        have hmoved (other : UserPage) : (after.putPage key page).cell? other =
            if victim = other then some ⟨false, some { moved with location := .swappedOut slot }⟩
            else (vm.putPage key page).cell? other := by
          rw [cell?_putPage, cell?_putPage, cell?_congr hpages, hcells, cell?_lock]
          by_cases heq : key = other
          · subst heq
            rw [if_pos rfl, if_neg (Ne.symm hne), if_pos rfl]
          · rw [if_neg heq, if_neg heq, if_neg heq]
        exact ⟨Ne.symm hne, .intro hcell hlocation hmoved⟩

omit [BlockDriver δ] [SectorStore δ] in
/-- The locked page comes back to its cell. -/
theorem Displaced.unlock {victim : UserPage} (h : (vm.lock key (some page)).Displaced mid victim)
    (hcell : vm.cell? key = some ⟨false, some page⟩) (hpages : after.pages = mid.pages) :
    victim ≠ key ∧ vm.Displaced (after.putPage key page) victim := by
  have hmoved := h.putPage hpages page
  rwa [putPage_self hcell] at hmoved

theorem unresolved_of_accounted (hafter : after.Accounted none) (huser : after.user = vm.user)
    (hcell : after.cell? key = vm.cell? key)
    (hmoved : (∀ other, after.cell? other = vm.cell? other) ∨
      vm.usage.framesFree = 0 ∧ ∃ victim, victim ≠ key ∧ vm.Displaced after victim)
    (husage : vm.usage.framesFree ≠ 0 → after.usage = vm.usage) : vm.Unresolved after key := by
  refine ⟨huser, hafter.owned, hcell, ?_, hmoved, husage⟩
  intro page slot hheld hlocation
  have hstill : after.held? key = some page := (held?_congr hcell).trans hheld
  exact hafter.isTaken_of_swappedOut hstill hlocation

theorem Undisturbed.unresolved (h : vm.Undisturbed after) (hbooks : vm.Accounted none)
    (key : UserPage) : vm.Unresolved after key := by
  have hcell := cell?_congr h.pages
  exact unresolved_of_accounted (h.accounted hbooks) (h.user_eq hbooks) (hcell key) (.inl hcell)
    fun _ => h.usage

section Failures

variable [Placement φ] [CompletePlacement φ] [ValidPlacement φ]

theorem Denied.undisturbed (hdenied : Denied vm mid error) (h : vm.Searching busy) :
    vm.Undisturbed mid :=
  h.undisturbed (hdenied.evictPage_eq h).2

/-- A page that is not mapped leaves nothing behind. -/
theorem MapZero.undisturbed {pid : Pid} {addr : Nat} {kind : PageKind} {writable : Bool}
    (hcases : MapZero vm pid addr kind writable (.error error) after) (hbooks : vm.Accounted none)
    (h : vm.Coherent) : vm.Undisturbed after := by
  cases hcases with
  | notUserAddress => exact .refl vm
  | noAddressSpace => exact .refl vm
  | alreadyMapped => exact .refl vm
  | noFrame hmappable hdenied =>
      have hlocked := hbooks.searching_lock hmappable.held?_eq_none nofun
      exact (hdenied.undisturbed hlocked).forget hmappable.vacant
  | abandoned _ hmappable hgranted hmap hfailed =>
      obtain ⟨tables, hdone⟩ := hgranted.map_mappable hmappable hbooks h hmap
      exact absurd hdone (hfailed tables)

/-- A page that cannot be read stays in its slot. What room was made for it stays free. -/
theorem BringBack.unresolved {slot : SwapSlot}
    (hcases : BringBack vm key page slot (.error error) after) (hbooks : vm.Accounted none)
    (h : vm.Coherent) (hcell : vm.cell? key = some ⟨false, some page⟩)
    (hlocation : page.location = .swappedOut slot) : vm.Unresolved after key := by
  have hheld := held?_of_cell? hcell
  have habsent := not_resident_of_swappedOut hlocation
  have hlocked := hbooks.searching_lock hheld habsent
  have hafter := hcases.accounted hbooks hcell hlocation
  have huser := (hcases.user_eq hbooks h hcell hlocation).1
  cases hcases with
  | noFrame hdenied => exact ((hdenied.undisturbed hlocked).putPage hcell).unresolved hbooks key
  | notRead placement hgranted hread =>
      rename_i mid number frame data error disk
      have hback : (mid.putPage key page).cell? key = vm.cell? key := by
        rw [cell?_putPage, if_pos rfl, hcell]
      cases hgranted.cases hlocked with
      | inl hfree =>
          obtain ⟨rfl, -⟩ := hfree
          have hpages : ((vm.lock key (some page)).putPage key page).pages = vm.pages :=
            pages_putPage_of_lock rfl hcell
          refine unresolved_of_accounted hafter huser hback (.inl fun other => ?_) fun _ => ?_
          · exact cell?_congr hpages other
          · exact usage_congr (FramePool.size_giveBack _ _ _ _ _)
              (FramePool.freeFrames_giveBack _ _ _ _ _) (BlockDevice.size_of_readRun hread) rfl rfl
              rfl
      | inr hevicted =>
          obtain ⟨hfull, slot, hevict⟩ := hevicted
          obtain ⟨victim, hdisplaced⟩ := hlocked.displaced hevict
          have hnone : vm.usage.framesFree = 0 := Nat.sub_eq_zero_of_le (Nat.le_of_eq hfull.symm)
          refine unresolved_of_accounted hafter huser hback (.inr ⟨hnone, victim, ?_⟩) ?_
          · exact Displaced.unlock hdisplaced hcell rfl
          · intro hsome
            exact absurd hnone hsome
  | unmapped placement hgranted _ _ hmap hfailed =>
      -- A swapped-out page has no entry, so there is room for the new one.
      have hspace := (hgranted.reclaims.coherent hlocked.accounted (h.lock hheld)).spaced
        hgranted.reclaims.held?_of_lock
      obtain ⟨tables, hdone⟩ := hgranted.map_done hbooks h hheld habsent nofun hspace hmap
      exact absurd hdone (hfailed tables)

theorem ResolveFault.unresolved {pid : Pid} {fault : FaultReport}
    (hcases : ResolveFault vm pid fault (.error error) after) (hbooks : vm.Accounted none)
    (h : vm.Coherent) : vm.Unresolved after (.containing pid fault.addr) := by
  generalize houtcome : Except.error error = result at hcases
  cases hcases with
  | notUserAddress => exact (Undisturbed.refl vm).unresolved hbooks _
  | grown _ _ _ hmapped =>
      rw [eq_error_of_grown houtcome.symm] at hmapped
      exact (hmapped.undisturbed hbooks h).unresolved hbooks _
  | notMapped => exact (Undisturbed.refl vm).unresolved hbooks _
  | unfinished => exact (Undisturbed.refl vm).unresolved hbooks _
  | writeProtected => exact (Undisturbed.refl vm).unresolved hbooks _
  | resident => cases houtcome
  | broughtBack _ hcell _ hlocation hback =>
      subst houtcome
      exact hback.unresolved hbooks h hcell hlocation

end Failures

omit [SectorStore δ] in
theorem eq_of_unmap_error {pid : Pid} {addr : Nat}
    (hcall : vm.unmap pid addr = .ok (.error error, after)) : after = vm := by
  obtain ⟨-, -, hsame⟩ | ⟨hdone, -⟩ := unmap_cases hcall
  · exact hsame
  · cases hdone

/-- Where there is no address space there is no page to be destroyed. -/
theorem eq_of_destroySpace_error {pid : Pid}
    (hcall : vm.destroySpace pid = .ok (.error error, after)) (hbooks : vm.Accounted none)
    (h : vm.Coherent) : after = vm := by
  obtain ⟨mid, hdiscarded, hend⟩ := destroySpace_cases hcall
  obtain ⟨-, hdone, -⟩ | ⟨hspace, -, rfl⟩ := hend
  · cases hdone
  have hcontains : vm.tables.contains pid = false :=
    (congrFun (congrArg (·.contains) (hdiscarded.user_eq hbooks)) pid).symm.trans hspace
  rw [h.keysOf_eq_nil hbooks hcontains] at hdiscarded
  cases hdiscarded
  rfl

/-- What calls leave behind that fail. -/
structure FailsAtomically [Placement φ] (vm : VirtualMemory δ φ StandardReplacement) : Prop where
  mapZero : ∀ {pid addr kind writable error after},
    vm.mapZero pid addr kind writable = .ok (.error error, after) → vm.Undisturbed after
  evictPage : ∀ {error after}, vm.evictPage = .ok (.error error, after) → vm.Undisturbed after
  resolveFault : ∀ {pid fault error after},
    vm.resolveFault pid fault = .ok (.error error, after) →
    vm.Unresolved after (.containing pid fault.addr)
  unmap : ∀ {pid addr error after}, vm.unmap pid addr = .ok (.error error, after) → after = vm
  destroySpace : ∀ {pid error after},
    vm.destroySpace pid = .ok (.error error, after) → after = vm

/-- With standard algorithms a call that fails undoes what it has begun, whatever the device does,
but for a page that a fault moved to make room. -/
theorem failure_atomicity {count stackLimit : Nat} {pool : FramePool} {disk : BlockDevice δ}
    {placement : StandardPlacement} {policy : StandardReplacement}
    {trace : List (MemoryCall × MemoryReply)}
    {vm : VirtualMemory δ StandardPlacement StandardReplacement}
    (hpool : FramePool.new count = .ok pool)
    (hrun : Run (fun _ _ => True) (new (.new disk) pool placement policy stackLimit) trace vm) :
    vm.FailsAtomically := by
  have hnew := accounted_new disk hpool placement policy stackLimit
  have hbooks := hrun.accounted hnew
  have hcoherent := hrun.coherent hnew (coherent_new disk pool placement policy stackLimit)
  refine ⟨?_, ?_, ?_, ?_, ?_⟩
  · intro pid addr kind writable error after hcall
    exact (mapZero_cases hcall).undisturbed hbooks hcoherent
  · intro error after hcall
    exact hbooks.searching.undisturbed hcall
  · intro pid fault error after hcall
    exact (resolveFault_cases hcall).unresolved hbooks hcoherent
  · intro pid addr error after hcall
    exact eq_of_unmap_error hcall
  · intro pid error after hcall
    exact eq_of_destroySpace_error hcall hbooks hcoherent

/-- A machine with a single frame, whose disk cannot be read. -/
def unreadable : VirtualMemory FaultyDisk StandardPlacement StandardReplacement :=
  new (.new ⟨0, "hda", .swap, 16, ⟨.new 16, fun _ => true, fun _ => false⟩, 0, 0⟩)
    ⟨.replicate 1 .blank, [], 0⟩ (.ofName .firstFit) (.ofName .fifo) 0

/-- The page in the frame makes room for one that cannot be read. -/
theorem failure_atomicity_unreadable :
    ∃ trace vm after, trace.map (·.1) =
        [.createSpace 1, .mapZero 1 0 .ordinary true, .mapZero 1 4096 .ordinary true] ∧
      Run (fun _ _ => True) unreadable trace vm ∧
      vm.resolveFault 1 ⟨0, false, none⟩ = .ok (.error (.swap (.block .readError)), after) ∧
      vm.FailsAtomically := by
  have hfails : ((unreadable.run [.createSpace 1, .mapZero 1 0 .ordinary true,
      .mapZero 1 4096 .ordinary true]).bind fun outcome =>
        (outcome.2.resolveFault 1 ⟨0, false, none⟩).map (·.1)) =
      .ok (.error (.swap (.block .readError))) := by
    decide +kernel
  obtain ⟨⟨replies, vm⟩, hcalls, hfault⟩ := bind_eq_ok.1 hfails
  obtain ⟨trace, hnames, hrun⟩ := exists_run_of_run (fun _ _ => True) (fun _ => trivial) hcalls
  have hpool : FramePool.new 1 = .ok ⟨.replicate 1 .blank, [], 0⟩ := rfl
  obtain ⟨⟨result, after⟩, hresolve, hresult⟩ := map_eq_ok.1 hfault
  cases hresult
  exact ⟨trace, vm, after, hnames, hrun, hresolve, failure_atomicity hpool hrun⟩

end VirtualMemory

end DemandPaging
