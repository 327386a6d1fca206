import DemandPaging.Proofs.FailureCount
import DemandPaging.Proofs.VirtualMemory.Halting

/-!
The traffic between frames and slots. Every page that goes out either comes back, is still out, or
was destroyed out there, and the device counts eight sectors for each time a page goes or comes.
-/
namespace DemandPaging.VirtualMemory

variable {δ φ π : Type} {vm mid after : VirtualMemory δ φ π} {key : UserPage} {page : AnonPage}
  {number : FrameNumber} {call : MemoryCall} {reply : MemoryReply}
  {trace : List (MemoryCall × MemoryReply)} {drift : δ → δ → Prop} {pid : Pid} {addr : Nat}
  {write : Bool}

section Shifts

variable [BlockDriver δ]

/-- At most one page moves between its frame and its slot. All but the swap area and the counters
is left open. -/
inductive Shift (vm after : VirtualMemory δ φ π) : Prop where
  | idle : after.swap = vm.swap → after.pageIns = vm.pageIns → after.pageOuts = vm.pageOuts →
      Shift vm after
  | notWritten {slot : SwapSlot} {contents : Page} {error : TransferError} {disk : BlockDevice δ} :
      vm.swap.IsLowestFree slot →
      vm.swap.disk.writeRun slot.startSector slotSectors contents.toList =
        .ok (.error error, disk) →
      after.swap = vm.swap.withDisk disk → after.pageIns = vm.pageIns →
      after.pageOuts = vm.pageOuts → Shift vm after
  | written {slot : SwapSlot} {contents : Page} {disk : BlockDevice δ} :
      vm.swap.IsLowestFree slot →
      vm.swap.disk.writeRun slot.startSector slotSectors contents.toList = .ok (.ok (), disk) →
      after.swap = { disk, taken := vm.swap.taken.insert slot.index } →
      after.pageIns = vm.pageIns → after.pageOuts = vm.pageOuts + 1 → Shift vm after
  | notRead {slot : SwapSlot} {contents : Page} {data : List UInt8} {error : TransferError}
      {disk : BlockDevice δ} : slot.index < vm.swap.slotCount →
      vm.swap.disk.readRun slot.startSector slotSectors contents.toList =
        .ok (.error error, data, disk) →
      after.swap = vm.swap.withDisk disk → after.pageIns = vm.pageIns →
      after.pageOuts = vm.pageOuts → Shift vm after
  | read {slot : SwapSlot} {contents : Page} {data : List UInt8} {disk : BlockDevice δ} :
      slot.index < vm.swap.slotCount → vm.swap.isTaken slot = true →
      vm.swap.disk.readRun slot.startSector slotSectors contents.toList =
        .ok (.ok (), data, disk) →
      after.swap = { disk, taken := vm.swap.taken.erase slot.index } →
      after.pageIns = vm.pageIns + 1 → after.pageOuts = vm.pageOuts → Shift vm after

abbrev Traffic : VirtualMemory δ φ π → VirtualMemory δ φ π → Prop :=
  Relation.ReflTransGen Shift

theorem Attempt.shift {result : Except MemoryError SwapSlot} (hstep : Attempt vm result after) :
    Shift vm after := by
  cases hstep with
  | exhausted => exact .idle rfl rfl rfl
  | failed _ _ _ hslot hrun => exact .notWritten hslot hrun rfl rfl rfl
  | moved _ _ _ _ hslot hrun => exact .written hslot hrun rfl rfl rfl

variable [Replacement π]

theorem Reclaims.traffic (hsteps : Reclaims vm after) : Traffic vm after := by
  refine hsteps.lift id fun vm after hstep => ?_
  cases hstep with
  | placed => exact .idle rfl rfl rfl
  | searched hsearch => cases hsearch <;> exact .idle rfl rfl rfl
  | attempted hattempt => exact hattempt.shift

/-- Locking a page moves none. -/
theorem Reclaims.traffic_of_lock {page? : Option AnonPage}
    (hsteps : Reclaims (vm.lock key page?) after) : Traffic vm after := by
  have hlock : Shift vm (vm.lock key page?) := .idle rfl rfl rfl
  exact hsteps.traffic.head hlock

variable [Placement φ] {result : Except MemoryError Unit}

theorem MapZero.traffic {kind : PageKind} {writable : Bool}
    (hcases : MapZero vm pid addr kind writable result after) : Traffic vm after := by
  cases hcases with
  | notUserAddress => exact .refl
  | noAddressSpace => exact .refl
  | alreadyMapped => exact .refl
  | noFrame _ hdenied => exact hdenied.reclaims.traffic_of_lock.tail (.idle rfl rfl rfl)
  | abandoned _ _ hgranted => exact hgranted.reclaims.traffic_of_lock.tail (.idle rfl rfl rfl)
  | made _ _ hgranted => exact hgranted.reclaims.traffic_of_lock.tail (.idle rfl rfl rfl)

theorem BringBack.traffic {slot : SwapSlot} (hcases : BringBack vm key page slot result after)
    (hbooks : vm.Accounted none) (hheld : vm.held? key = some page)
    (hlocation : page.location = .swappedOut slot) : Traffic vm after := by
  -- The page waits in its slot while a frame is found for it.
  have hslot : ∀ {mid}, Reclaims (vm.lock key (some page)) mid →
      slot.index < mid.swap.slotCount := by
    intro mid hsteps
    have hmid := hsteps.accounted (hbooks.lock (some page) hheld)
    exact hmid.bounded slot (hmid.isTaken_of_swappedOut hsteps.held?_of_lock hlocation)
  cases hcases with
  | noFrame hdenied => exact hdenied.reclaims.traffic_of_lock.tail (.idle rfl rfl rfl)
  | notRead _ hgranted hread =>
      have hsteps := hgranted.reclaims
      exact hsteps.traffic_of_lock.tail (.notRead (hslot hsteps) hread rfl rfl rfl)
  | unmapped _ hgranted htaken hread =>
      have hsteps := hgranted.reclaims
      exact hsteps.traffic_of_lock.tail (.read (hslot hsteps) htaken hread rfl rfl rfl)
  | done _ hgranted htaken hread =>
      have hsteps := hgranted.reclaims
      exact hsteps.traffic_of_lock.tail (.read (hslot hsteps) htaken hread rfl rfl rfl)

theorem ResolveFault.traffic {fault : FaultReport}
    (hcases : ResolveFault vm pid fault result after) (hbooks : vm.Accounted none) :
    Traffic vm after := by
  cases hcases with
  | notUserAddress => exact .refl
  | grown _ _ _ hmapped => exact hmapped.traffic
  | notMapped => exact .refl
  | unfinished => exact .refl
  | writeProtected => exact .refl
  | resident => exact .refl
  | broughtBack _ hcell _ hlocation hback =>
      exact hback.traffic hbooks (held?_of_cell? hcell) hlocation

theorem Access.traffic {found : Except MemoryError FrameNumber}
    (hcases : Access pid addr write vm found after) (hbooks : vm.Accounted none) :
    Traffic vm after := by
  induction hcases with
  | touched htouched => cases htouched <;> exact .single (.idle rfl rfl rfl)
  | unresolved _ hresolve => exact hresolve.traffic hbooks
  | resolved _ hresolve _ ih =>
      exact (hresolve.traffic hbooks).trans (ih (hresolve.accounted hbooks))

theorem traffic_of_access {found : Except MemoryError FrameNumber}
    (haccess : vm.access pid addr write = .ok (found, after)) (hbooks : vm.Accounted none) :
    Traffic vm after := by
  obtain ⟨-, -, rfl⟩ | ⟨-, hcases⟩ := access_cases haccess
  · exact .refl
  · exact hcases.traffic hbooks

theorem CopyIn.traffic {data : List UInt8} {moved : Nat}
    (hcases : CopyIn pid vm addr data result moved after) (hbooks : vm.Accounted none) :
    Traffic vm after := by
  induction hcases with
  | done => exact .refl
  | stopped _ haccess => exact traffic_of_access haccess hbooks
  | chunk _ haccess hframe _ _ ih =>
      rename_i vm mid after addr count moved data number frame result _ _ _
      have hpatched : Shift mid
          (mid.patchFrame number frame (offsetInPage addr) (data.take count)) := .idle rfl rfl rfl
      have hrest := ih ((accounted_of_access hbooks haccess).patchFrame hframe _ _)
      exact (traffic_of_access haccess hbooks).trans (hrest.head hpatched)

theorem CopyOut.traffic {buffer got : List UInt8} {moved : Nat}
    (hcases : CopyOut pid vm addr buffer result got moved after) (hbooks : vm.Accounted none) :
    Traffic vm after := by
  induction hcases with
  | done => exact .refl
  | stopped _ haccess => exact traffic_of_access haccess hbooks
  | chunk _ haccess _ _ _ ih =>
      exact (traffic_of_access haccess hbooks).trans (ih (accounted_of_access hbooks haccess))

/-- Of the pages that went out of memory, how many neither came back nor are in a slot. -/
def missing (vm : VirtualMemory δ φ π) : Int :=
  vm.pageOuts - vm.pageIns - vm.swap.taken.size

omit [Placement φ] [Replacement π] in
theorem Shift.missing_eq (h : Shift vm after) : after.missing = vm.missing := by
  cases h with
  | idle hswap hins houts => rw [missing, hswap, hins, houts, missing]
  | notWritten _ _ hswap hins houts => rw [missing, hswap, hins, houts, missing, SwapArea.withDisk]
  | written hslot _ hswap hins houts =>
      have hsize := SwapArea.size_insert_of_free hslot.free
      rw [missing, hswap, hins, houts, missing, hsize]
      omega
  | notRead _ _ hswap hins houts => rw [missing, hswap, hins, houts, missing, SwapArea.withDisk]
  | read _ htaken _ hswap hins houts =>
      have hsize := SwapArea.size_erase_of_taken htaken
      rw [missing, hswap, hins, houts, missing]
      simp only
      omega

omit [Placement φ] [Replacement π] in
theorem Traffic.missing_eq (h : Traffic vm after) : after.missing = vm.missing := by
  induction h with
  | refl => rfl
  | tail _ hshift ih => exact hshift.missing_eq.trans ih

end Shifts

section Purges

/-- Pages are destroyed, and the device knows nothing of it. -/
structure Purge (vm after : VirtualMemory δ φ π) : Prop where
  disk : after.swap.disk = vm.swap.disk
  pageIns : after.pageIns = vm.pageIns
  pageOuts : after.pageOuts = vm.pageOuts
  left : ∀ key, after.cell? key ≠ none → after.cell? key = vm.cell? key

theorem Purge.refl (vm : VirtualMemory δ φ π) : vm.Purge vm := ⟨rfl, rfl, rfl, fun _ _ => rfl⟩

theorem Discarded.purge (hcases : Discarded vm key after) : vm.Purge after := by
  have hleft : ∀ other, after.cell? other ≠ none → after.cell? other = vm.cell? other := by
    intro other hother
    rw [hcases.cell?_eq] at hother ⊢
    split at hother
    · exact absurd rfl hother
    · rename_i hne
      rw [if_neg hne]
  cases hcases with
  | unfinished => exact ⟨rfl, rfl, rfl, hleft⟩
  | destroyed _ hdestroyed => cases hdestroyed <;> exact ⟨rfl, rfl, rfl, hleft⟩

theorem DiscardedAll.purge {keys : List UserPage} (hcases : DiscardedAll vm keys after) :
    vm.Purge after := by
  induction hcases with
  | nil => exact .refl _
  | cons hfirst _ ih =>
      have hpurge := hfirst.purge
      refine ⟨ih.disk.trans hpurge.disk, ih.pageIns.trans hpurge.pageIns,
        ih.pageOuts.trans hpurge.pageOuts, fun other hother => ?_⟩
      have hmid := ih.left other hother
      exact hmid.trans (hpurge.left other (hmid ▸ hother))

theorem purge_of_unmap [BlockDriver δ] {result : Except MemoryError Unit}
    (hcall : vm.unmap pid addr = .ok (result, after)) : vm.Purge after := by
  obtain ⟨-, -, rfl⟩ | ⟨-, hdiscarded⟩ := unmap_cases hcall
  · exact .refl _
  · exact hdiscarded.purge

theorem purge_of_destroySpace [BlockDriver δ] {result : Except MemoryError Unit}
    (hcall : vm.destroySpace pid = .ok (result, after)) : vm.Purge after := by
  obtain ⟨mid, hdiscarded, ⟨-, -, rfl⟩ | ⟨-, -, rfl⟩⟩ := destroySpace_cases hcall
  · exact { hdiscarded.purge with }
  · exact hdiscarded.purge

/-- The pages that were swapped out and are gone. -/
def goneFrom (vm after : VirtualMemory δ φ π) : List UserPage :=
  vm.swappedOutPages.filter fun key => (after.cell? key).isNone

/-- What was swapped out is gone or still out. -/
theorem Purge.length_swappedOutPages (h : vm.Purge after) :
    vm.swappedOutPages.length = after.swappedOutPages.length + (vm.goneFrom after).length := by
  have hstill : (vm.swappedOutPages.filter fun key => !(after.cell? key).isNone).Perm
      after.swappedOutPages := by
    refine (List.perm_ext_iff_of_nodup (nodup_swappedOutPages.filter _)
      nodup_swappedOutPages).2 fun key => ?_
    rw [List.mem_filter, mem_swappedOutPages, mem_swappedOutPages]
    cases hcell : after.cell? key with
    | none => simp [hcell, home?, held?]
    | some cell =>
        have hleft := h.left key (by simp [hcell])
        have hhome : after.home? key = vm.home? key := home?_congr (held?_congr hleft)
        simp [hhome]
  rw [← hstill.length_eq, goneFrom, Nat.add_comm]
  exact List.length_eq_length_filter_add _

theorem Purge.missing_eq (h : vm.Purge after) (hbooks : vm.Accounted none)
    (hafter : after.Accounted none) :
    after.missing = vm.missing + (vm.goneFrom after).length := by
  have hcount := h.length_swappedOutPages
  rw [hbooks.length_swappedOutPages, hafter.length_swappedOutPages] at hcount
  rw [missing, missing, h.pageIns, h.pageOuts]
  omega

end Purges

section Losses

variable [BlockDriver δ] [Placement φ] [Replacement π]

/-- The pages that a call destroys while they are swapped out. -/
def lostPages (vm after : VirtualMemory δ φ π) : MemoryCall → List UserPage
  | .unmap _ _ | .destroySpace _ => vm.goneFrom after
  | _ => []

/-- A call moves pages or destroys some. -/
inductive Carried (vm after : VirtualMemory δ φ π) : List UserPage → Prop where
  | moved : Traffic vm after → Carried vm after []
  | purged : vm.Purge after → Carried vm after (vm.goneFrom after)

theorem Performed.carried (hcases : Performed vm call reply after) (hbooks : vm.Accounted none) :
    Carried vm after (vm.lostPages after call) := by
  cases hcases with
  | createSpace hcall =>
      refine .moved (.single ?_)
      simp only [VirtualMemory.createSpace] at hcall
      split at hcall <;> cases hcall <;> exact .idle rfl rfl rfl
  | destroySpace hcall => exact .purged (purge_of_destroySpace hcall)
  | mapZero hcall => exact .moved (mapZero_cases hcall).traffic
  | unmap hcall => exact .purged (purge_of_unmap hcall)
  | resolveFault hcall => exact .moved ((resolveFault_cases hcall).traffic hbooks)
  | evictPage hcall => exact .moved (Reclaims.of_evictWithin hcall).traffic
  | copyFromUser hcall =>
      obtain ⟨_, hcopied⟩ := copyFromUser_cases hcall
      exact .moved (hcopied.traffic hbooks)
  | copyToUser hcall =>
      obtain ⟨_, hcopied⟩ := copyToUser_cases hcall
      exact .moved (hcopied.traffic hbooks)
  | location => exact .moved .refl
  | kind => exact .moved .refl
  | usage => exact .moved .refl

/-- A run in which that many pages were destroyed while they were swapped out. -/
inductive Loses (drift : δ → δ → Prop) : VirtualMemory δ φ π →
    List (MemoryCall × MemoryReply) → Nat → VirtualMemory δ φ π → Prop where
  | nil {vm : VirtualMemory δ φ π} : Loses drift vm [] 0 vm
  | cons {vm mid after : VirtualMemory δ φ π} {driver : δ} {call : MemoryCall}
      {reply : MemoryReply} {trace : List (MemoryCall × MemoryReply)} {lost : Nat} :
      drift vm.swap.disk.driver driver →
      (vm.withDriver driver).perform call = .ok (reply, mid) → Loses drift mid trace lost after →
      Loses drift vm ((call, reply) :: trace)
        (((vm.withDriver driver).lostPages mid call).length + lost) after

variable {lost : Nat}

theorem Loses.run (h : Loses drift vm trace lost after) : Run drift vm trace after := by
  induction h with
  | nil => exact .nil
  | cons hstep hcall _ ih => exact .cons hstep hcall ih

/-- Losses can be counted along every run. -/
theorem Run.exists_loses (hrun : Run drift vm trace after) :
    ∃ lost, Loses drift vm trace lost after := by
  induction hrun with
  | nil => exact ⟨0, .nil⟩
  | cons hstep hcall _ ih =>
      obtain ⟨lost, hloses⟩ := ih
      exact ⟨_, .cons hstep hcall hloses⟩

/-- What is missing is what was lost. -/
theorem Loses.missing_eq (h : Loses drift vm trace lost after) (hbooks : vm.Accounted none) :
    after.missing = vm.missing + lost := by
  induction h with
  | nil => simp
  | cons hstep hcall _ ih =>
      rename_i vm mid after driver call reply trace lost _
      have hbooks' := hbooks.withDriver driver
      have hperformed := perform_cases hcall
      have hmid := hperformed.accounted hbooks'
      have hcarried := hperformed.carried hbooks'
      have hstart : (vm.withDriver driver).missing = vm.missing := rfl
      rw [ih hmid]
      generalize (vm.withDriver driver).lostPages mid call = gone at hcarried ⊢
      cases hcarried with
      | moved htraffic =>
          rw [htraffic.missing_eq, hstart]
          simp
      | purged hpurge =>
          rw [hpurge.missing_eq hbooks' hmid, hstart]
          omega

end Losses

section Counters

variable [BlockDriver δ] {vm after : VirtualMemory (Watched δ) φ π}
  {disk : BlockDevice (Watched δ)}

/-- As long as no sector has failed since the device was `disk`, it has counted eight for each page
that came or went. -/
structure Metered (vm : VirtualMemory (Watched δ) φ π) (disk : BlockDevice (Watched δ)) :
    Prop where
  failures_le : disk.failures ≤ vm.swap.disk.failures
  transfers_eq : vm.swap.disk.failures = disk.failures → vm.swap.transfers =
    (disk.reads + slotSectors * vm.pageIns, disk.writes + slotSectors * vm.pageOuts)

omit [BlockDriver δ] in
theorem Metered.of_tallied (h : vm.Metered disk) {last : BlockDevice (Watched δ)}
    {reads writes : Nat} {result : Except TransferError Unit}
    (htallied : BlockDevice.Tallied vm.swap.disk last reads writes result)
    (hlast : after.swap.disk = last)
    (hreads : result = .ok () → reads + slotSectors * vm.pageIns = slotSectors * after.pageIns)
    (hwrites : result = .ok () →
      writes + slotSectors * vm.pageOuts = slotSectors * after.pageOuts) :
    after.Metered disk := by
  subst hlast
  have hle := h.failures_le
  cases htallied with
  | complete hfailures hread hwritten =>
      refine ⟨by omega, fun hsame => ?_⟩
      have hbefore := h.transfers_eq (hfailures.symm.trans hsame)
      simp only [SwapArea.transfers, Prod.mk.injEq] at hbefore ⊢
      have hreads := hreads rfl
      have hwrites := hwrites rfl
      omega
  | failed hlt => exact ⟨by omega, fun hsame => by omega⟩

theorem Shift.metered (hshift : Shift vm after) (h : vm.Metered disk) : after.Metered disk := by
  have hsectors : ∀ {slot : SwapSlot}, slot.index < vm.swap.slotCount → ∀ i < slotSectors,
      slot.startSector + UInt32.ofNat i < vm.swap.disk.size :=
    fun hslot i hi => SwapSlot.startSector_add_lt hslot hi
  have hlength : ∀ contents : Page, contents.toList.length = slotSectors * sectorSize := by
    intro contents
    rw [Bytes.length_toList, slotSectors_mul_sectorSize]
  cases hshift with
  | idle hswap hins houts =>
      refine ⟨hswap ▸ h.failures_le, fun hsame => ?_⟩
      rw [hswap] at hsame ⊢
      rw [hins, houts]
      exact h.transfers_eq hsame
  | notWritten hslot hrun hswap =>
      have htallied :=
        BlockDevice.tallied_of_writeRun (hsectors hslot.lt_slotCount) (hlength _) hrun
      exact h.of_tallied htallied (congrArg (·.disk) hswap) (by simp) (by simp)
  | written hslot hrun hswap hins houts =>
      have htallied :=
        BlockDevice.tallied_of_writeRun (hsectors hslot.lt_slotCount) (hlength _) hrun
      refine h.of_tallied htallied (congrArg (·.disk) hswap) (fun _ => ?_) fun _ => ?_
      · rw [hins, Nat.zero_add]
      · rw [houts, Nat.mul_add, Nat.mul_one, Nat.add_comm]
  | notRead hslot hrun hswap =>
      have htallied := BlockDevice.tallied_of_readRun (hsectors hslot) (hlength _) hrun
      exact h.of_tallied htallied (congrArg (·.disk) hswap) (by simp) (by simp)
  | read hslot _ hrun hswap hins houts =>
      have htallied := BlockDevice.tallied_of_readRun (hsectors hslot) (hlength _) hrun
      refine h.of_tallied htallied (congrArg (·.disk) hswap) (fun _ => ?_) fun _ => ?_
      · rw [hins, Nat.mul_add, Nat.mul_one, Nat.add_comm]
      · rw [houts, Nat.zero_add]

theorem Traffic.metered (htraffic : Traffic vm after) (h : vm.Metered disk) :
    after.Metered disk := by
  induction htraffic with
  | refl => exact h
  | tail _ hshift ih => exact hshift.metered ih

variable [Placement φ] [Replacement π]

theorem Run.metered (hrun : Run Watched.Drifts vm trace after) (hbooks : vm.Accounted none)
    (h : vm.Metered disk) : after.Metered disk := by
  refine (hrun.invariant (fun vm => vm.Accounted none ∧ vm.Metered disk) ?_ ?_ ⟨hbooks, h⟩).2
  · intro vm driver ⟨hbooks, h⟩ hdrift
    refine ⟨hbooks.withDriver driver, ?_, fun hsame => ?_⟩
    · exact Nat.le_trans h.failures_le (Nat.le_of_eq hdrift.symm)
    · exact h.transfers_eq (hdrift.symm.trans hsame)
  · intro vm after call reply ⟨hbooks, h⟩ hcall
    have hperformed := perform_cases hcall
    refine ⟨hperformed.accounted hbooks, ?_⟩
    have hcarried := hperformed.carried hbooks
    generalize vm.lostPages after call = gone at hcarried
    cases hcarried with
    | moved htraffic => exact htraffic.metered h
    | purged hpurge =>
        have hcounted : vm.swap.transfers = after.swap.transfers := by
          rw [SwapArea.transfers, SwapArea.transfers, hpurge.disk]
        refine ⟨hpurge.disk ▸ h.failures_le, fun hsame => ?_⟩
        rw [hpurge.disk] at hsame
        rw [← hcounted, hpurge.pageIns, hpurge.pageOuts]
        exact h.transfers_eq hsame

end Counters

section Rest

variable [BlockDriver δ] [Placement φ] {vm mid after : VirtualMemory δ φ StandardReplacement}
  {busy : Option UserPage} {error : MemoryError}

/-- All of `length` bytes from `addr` on lie in pages that are resident. -/
def InMemory (vm : VirtualMemory δ φ π) (pid : Pid) (addr length : Nat) : Prop :=
  ∀ i < length, ∃ page number, vm.held? (.containing pid (addr + i)) = some page ∧
    page.location = .resident number

omit [BlockDriver δ] [Placement φ] in
theorem InMemory.mono {addr' length length' : Nat} (h : vm.InMemory pid addr length)
    (haddr : addr ≤ addr') (hend : addr' + length' ≤ addr + length) :
    vm.InMemory pid addr' length' := by
  intro i hi
  have hbyte := h (addr' - addr + i) (by omega)
  rwa [show addr + (addr' - addr + i) = addr' + i by omega] at hbyte

omit [BlockDriver δ] [Placement φ] in
theorem InMemory.congr {length : Nat} (h : vm.InMemory pid addr length)
    (hpages : after.pages = vm.pages) : after.InMemory pid addr length := by
  intro i hi
  rw [held?_congr (cell?_congr hpages _)]
  exact h i hi

/-- An access to a page in memory changes no more than its entry. -/
theorem Coherent.still_of_access (h : vm.Coherent)
    (hheld : vm.held? (.containing pid addr) = some page)
    (hlocation : page.location = .resident number) {found : Except MemoryError FrameNumber}
    (haccess : vm.access pid addr write = .ok (found, after)) :
    after.swap = vm.swap ∧ after.pages = vm.pages := by
  obtain ⟨reply, htouch⟩ := h.exists_touch hheld hlocation write
  obtain ⟨-, -, rfl⟩ | ⟨-, hcases⟩ := access_cases haccess
  · exact ⟨rfl, rfl⟩
  · cases hcases with
    | touched htouched => cases htouched <;> exact ⟨rfl, rfl⟩
    | unresolved hnone => cases htouch.symm.trans hnone
    | resolved hnone => cases htouch.symm.trans hnone

theorem CopyIn.swap_eq {data : List UInt8} {result : Except MemoryError Unit} {moved : Nat}
    (hcases : CopyIn pid vm addr data result moved after) (hbooks : vm.Accounted none)
    (h : vm.Coherent) (hmemory : vm.InMemory pid addr data.length) : after.swap = vm.swap := by
  induction hcases with
  | done => rfl
  | stopped hne haccess =>
      obtain ⟨page, number, hheld, hlocation⟩ := hmemory 0 (List.length_pos_of_ne_nil hne)
      exact (h.still_of_access hheld hlocation haccess).1
  | chunk hne haccess hframe hcount _ ih =>
      obtain ⟨page, number, hheld, hlocation⟩ := hmemory 0 (List.length_pos_of_ne_nil hne)
      obtain ⟨hswap, hpages⟩ := h.still_of_access hheld hlocation haccess
      refine (ih ((accounted_of_access hbooks haccess).patchFrame hframe _ _)
        ((coherent_of_access hbooks h haccess).of_alike (fun _ => rfl) (.refl _)) ?_).trans hswap
      refine (hmemory.congr hpages).mono (Nat.le_add_right _ _) ?_
      rw [List.length_drop, hcount, chunkLength]
      omega

theorem CopyOut.swap_eq {buffer got : List UInt8} {result : Except MemoryError Unit} {moved : Nat}
    (hcases : CopyOut pid vm addr buffer result got moved after) (hbooks : vm.Accounted none)
    (h : vm.Coherent) (hmemory : vm.InMemory pid addr buffer.length) : after.swap = vm.swap := by
  induction hcases with
  | done => rfl
  | stopped hne haccess =>
      obtain ⟨page, number, hheld, hlocation⟩ := hmemory 0 (List.length_pos_of_ne_nil hne)
      exact (h.still_of_access hheld hlocation haccess).1
  | chunk hne haccess _ hcount _ ih =>
      obtain ⟨page, number, hheld, hlocation⟩ := hmemory 0 (List.length_pos_of_ne_nil hne)
      obtain ⟨hswap, hpages⟩ := h.still_of_access hheld hlocation haccess
      refine (ih (accounted_of_access hbooks haccess) (coherent_of_access hbooks h haccess)
        ?_).trans hswap
      refine (hmemory.congr hpages).mono (Nat.le_add_right _ _) ?_
      rw [List.length_drop, hcount, chunkLength]
      omega

theorem ResolveFault.swap_eq_of_resident {fault : FaultReport} {result : Except MemoryError Unit}
    (hcases : ResolveFault vm pid fault result after)
    (hheld : vm.held? (.containing pid fault.addr) = some page)
    (hlocation : page.location = .resident number) : after.swap = vm.swap := by
  cases hcases with
  | notUserAddress => rfl
  | grown _ hnone => simp [held?, hnone] at hheld
  | notMapped => rfl
  | unfinished => rfl
  | writeProtected => rfl
  | resident => rfl
  | broughtBack _ hcell _ hswapped =>
      cases (held?_of_cell? hcell).symm.trans hheld
      cases hlocation.symm.trans hswapped

variable [CompletePlacement φ] [ValidPlacement φ]

/-- A search for a frame that fails, but not because of the device, has not used it. -/
theorem Denied.swap_eq (hdenied : Denied vm mid error) (h : vm.Searching busy)
    (hother : ∀ cause, error ≠ .swap cause) : mid.swap = vm.swap := by
  obtain ⟨choice, -, hattempt⟩ := h.exists_attempt (hdenied.evictPage_eq h).2
  cases hattempt with
  | exhausted => rfl
  | failed => exact (hother _ rfl).elim

theorem MapZero.swap_eq {kind : PageKind} {writable : Bool}
    (hcases : MapZero vm pid addr kind writable (.error error) after) (hbooks : vm.Accounted none)
    (h : vm.Coherent) (hother : ∀ cause, error ≠ .swap cause) : after.swap = vm.swap := by
  cases hcases with
  | notUserAddress => rfl
  | noAddressSpace => rfl
  | alreadyMapped => rfl
  | noFrame hmappable hdenied =>
      exact hdenied.swap_eq (hbooks.searching_lock hmappable.held?_eq_none nofun) hother
  | abandoned _ hmappable hgranted hmap hfailed =>
      obtain ⟨tables, hdone⟩ := hgranted.map_mappable hmappable hbooks h hmap
      exact absurd hdone (hfailed tables)

theorem BringBack.swap_eq {slot : SwapSlot}
    (hcases : BringBack vm key page slot (.error error) after) (hbooks : vm.Accounted none)
    (h : vm.Coherent) (hheld : vm.held? key = some page)
    (hlocation : page.location = .swappedOut slot) (hother : ∀ cause, error ≠ .swap cause) :
    after.swap = vm.swap := by
  have habsent := not_resident_of_swappedOut hlocation
  have hlocked := hbooks.searching_lock hheld habsent
  cases hcases with
  | noFrame hdenied => exact hdenied.swap_eq hlocked hother
  | notRead => exact (hother _ rfl).elim
  | unmapped _ hgranted _ _ hmap hfailed =>
      have hspace := (hgranted.reclaims.coherent hlocked.accounted (h.lock hheld)).spaced
        hgranted.reclaims.held?_of_lock
      obtain ⟨tables, hdone⟩ := hgranted.map_done hbooks h hheld habsent nofun hspace hmap
      exact absurd hdone (hfailed tables)

theorem ResolveFault.swap_eq {fault : FaultReport}
    (hcases : ResolveFault vm pid fault (.error error) after) (hbooks : vm.Accounted none)
    (h : vm.Coherent) (hother : ∀ cause, error ≠ .swap cause) : after.swap = vm.swap := by
  generalize houtcome : Except.error error = result at hcases
  cases hcases with
  | notUserAddress => rfl
  | grown _ _ _ hmapped =>
      rw [eq_error_of_grown houtcome.symm] at hmapped
      exact hmapped.swap_eq hbooks h hother
  | notMapped => rfl
  | unfinished => rfl
  | writeProtected => rfl
  | resident => cases houtcome
  | broughtBack _ hcell _ hlocation hback =>
      subst houtcome
      exact hback.swap_eq hbooks h (held?_of_cell? hcell) hlocation hother

/-- What needs no device: an access to pages in memory, a request that is turned down, and the end
of a page. -/
structure SparesDevice (vm : VirtualMemory δ φ StandardReplacement) : Prop where
  resolveFault_resident : ∀ {pid fault page number result after},
    vm.held? (.containing pid fault.addr) = some page → page.location = .resident number →
    vm.resolveFault pid fault = .ok (result, after) → after.swap = vm.swap
  copyFromUser : ∀ {pid addr buffer result got after}, vm.InMemory pid addr buffer.length →
    vm.copyFromUser pid addr buffer = .ok (result, got, after) → after.swap = vm.swap
  copyToUser : ∀ {pid addr data result after}, vm.InMemory pid addr data.length →
    vm.copyToUser pid addr data = .ok (result, after) → after.swap = vm.swap
  mapZero : ∀ {pid addr kind writable error after},
    vm.mapZero pid addr kind writable = .ok (.error error, after) →
    (∀ cause, error ≠ .swap cause) → after.swap = vm.swap
  resolveFault : ∀ {pid fault error after},
    vm.resolveFault pid fault = .ok (.error error, after) →
    (∀ cause, error ≠ .swap cause) → after.swap = vm.swap
  unmap : ∀ {pid addr result after}, vm.unmap pid addr = .ok (result, after) →
    after.swap.disk = vm.swap.disk
  destroySpace : ∀ {pid result after}, vm.destroySpace pid = .ok (result, after) →
    after.swap.disk = vm.swap.disk

theorem Accounted.sparesDevice (hbooks : vm.Accounted none) (h : vm.Coherent) :
    vm.SparesDevice := by
  refine ⟨?_, ?_, ?_, ?_, ?_, ?_, ?_⟩
  · intro pid fault page number result after hheld hlocation hcall
    exact (resolveFault_cases hcall).swap_eq_of_resident hheld hlocation
  · intro pid addr buffer result got after hmemory hcall
    obtain ⟨_, hcopied⟩ := copyFromUser_cases hcall
    exact hcopied.swap_eq hbooks h hmemory
  · intro pid addr data result after hmemory hcall
    obtain ⟨_, hcopied⟩ := copyToUser_cases hcall
    exact hcopied.swap_eq hbooks h hmemory
  · intro pid addr kind writable error after hcall hother
    exact (mapZero_cases hcall).swap_eq hbooks h hother
  · intro pid fault error after hcall hother
    exact (resolveFault_cases hcall).swap_eq hbooks h hother
  · intro pid addr result after hcall
    exact (purge_of_unmap hcall).disk
  · intro pid result after hcall
    exact (purge_of_destroySpace hcall).disk

end Rest

/-- With standard algorithms and any device, pages that went out are back, out or lost; and while no
sector fails, the device counts eight for each page that comes or goes. -/
theorem swap_traffic_conserved [BlockDriver δ] {count stackLimit lost : Nat} {pool : FramePool}
    {disk : BlockDevice (Watched δ)} {placement : StandardPlacement} {policy : StandardReplacement}
    {vm : VirtualMemory (Watched δ) StandardPlacement StandardReplacement}
    (hpool : FramePool.new count = .ok pool)
    (hrun : Loses Watched.Drifts (new (.new disk) pool placement policy stackLimit) trace lost
      vm) :
    vm.pageOuts = vm.pageIns + vm.swappedOutPages.length + lost ∧
      (vm.swap.disk.failures = disk.failures →
        vm.swap.transfers = (disk.reads + 8 * vm.pageIns, disk.writes + 8 * vm.pageOuts)) ∧
      vm.SparesDevice := by
  have hnew := accounted_new disk hpool placement policy stackLimit
  have hbooks := hrun.run.accounted hnew
  have hcoherent := hrun.run.coherent hnew (coherent_new disk pool placement policy stackLimit)
  have hmetered : (new (.new disk) pool placement policy stackLimit).Metered disk :=
    ⟨Nat.le_refl _, fun _ => rfl⟩
  refine ⟨?_, (hrun.run.metered hnew hmetered).transfers_eq, hbooks.sparesDevice hcoherent⟩
  have hmissing := hrun.missing_eq hnew
  have hstart : (new (.new disk) pool placement policy stackLimit).missing = 0 := rfl
  rw [hstart, missing] at hmissing
  rw [hbooks.length_swappedOutPages]
  omega

/-- A machine with a single frame and two slots, whose disk is watched. -/
def observed : VirtualMemory (Watched MemoryDisk) StandardPlacement StandardReplacement :=
  new (.new ⟨0, "hda", .swap, 16, ⟨.new 16, 0⟩, 0, 0⟩) ⟨.replicate 1 .blank, [], 0⟩
    (.ofName .firstFit) (.ofName .fifo) 0

/-- One page goes out and is destroyed there, another goes out and comes back. -/
theorem swap_traffic_conserved_observed :
    ∃ trace vm, trace.map (·.1) = [.createSpace 1, .mapZero 1 0 .ordinary true,
        .mapZero 1 4096 .ordinary true, .unmap 1 0, .evictPage, .copyFromUser 1 4096 [0]] ∧
      Loses Watched.Drifts observed trace 1 vm ∧
      vm.swap.transfers = (8, 16) ∧ vm.SparesDevice := by
  have hcounts : (observed.run [.createSpace 1, .mapZero 1 0 .ordinary true,
      .mapZero 1 4096 .ordinary true, .unmap 1 0, .evictPage, .copyFromUser 1 4096 [0]]).map
        (fun outcome => (outcome.2.pageIns, outcome.2.pageOuts, outcome.2.swappedOutPages,
          outcome.2.swap.disk.failures)) = .ok (1, 2, [], 0) := by
    decide +kernel
  obtain ⟨⟨replies, vm⟩, hcalls, hcounts⟩ := map_eq_ok.1 hcounts
  simp only [Prod.mk.injEq] at hcounts
  obtain ⟨hins, houts, hswapped, hfailures⟩ := hcounts
  obtain ⟨trace, hnames, hrun⟩ := exists_run_of_run Watched.Drifts (fun _ => rfl) hcalls
  obtain ⟨lost, hloses⟩ := hrun.exists_loses
  have hpool : FramePool.new 1 = .ok ⟨.replicate 1 .blank, [], 0⟩ := rfl
  obtain ⟨hbalance, htransfers, hspares⟩ := swap_traffic_conserved hpool hloses
  have hone : lost = 1 := by
    rw [hins, houts, hswapped] at hbalance
    simp only [List.length_nil] at hbalance
    omega
  have htransfers := htransfers hfailures
  rw [hins, houts] at htransfers
  exact ⟨trace, vm, hnames, hone ▸ hloses, htransfers, hspares⟩

end DemandPaging.VirtualMemory
