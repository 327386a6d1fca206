import DemandPaging.Proofs.VirtualMemory.Mapping
import DemandPaging.VirtualMemory.PageFault

/-!
The ways in which a page fault is resolved or not.
-/
namespace DemandPaging.VirtualMemory

variable {δ φ π : Type} [BlockDriver δ] [Placement φ] [Replacement π]
  {vm after : VirtualMemory δ φ π} {key : UserPage} {page : AnonPage} {slot : SwapSlot}

/-- How bringing back `page` from `slot` ends. -/
inductive BringBack (vm : VirtualMemory δ φ π) (key : UserPage) (page : AnonPage)
    (slot : SwapSlot) : Except MemoryError Unit → VirtualMemory δ φ π → Prop where
  | noFrame {mid : VirtualMemory δ φ π} {error : MemoryError} :
      Denied (vm.lock key (some page)) mid error →
      BringBack vm key page slot (.error error) (mid.putPage key page)
  | notRead {mid : VirtualMemory δ φ π} {number : FrameNumber} {frame : Frame}
      {data : List UInt8} {error : TransferError} {disk : BlockDevice δ} (placement : φ) :
      Granted (vm.lock key (some page)) mid number frame placement →
      mid.swap.disk.readRun slot.startSector slotSectors frame.contents.toList =
        .ok (.error error, data, disk) →
      BringBack vm key page slot (.error (.swap (.block error)))
        ({ mid with
            placement
            swap := mid.swap.withDisk disk
            pool := mid.pool.giveBack number frame key (frame.filled data).contents }.putPage
          key page)
  /-- The page is back, but the tables do not take it. -/
  | unmapped {mid : VirtualMemory δ φ π} {number : FrameNumber} {frame : Frame}
      {data : List UInt8} {disk : BlockDevice δ} {mapped : AddressSpaces.Mapped} (placement : φ) :
      Granted (vm.lock key (some page)) mid number frame placement →
      mid.swap.isTaken slot = true →
      mid.swap.disk.readRun slot.startSector slotSectors frame.contents.toList =
        .ok (.ok (), data, disk) →
      mid.tables.map key.owner key.base number page.writable = .ok mapped →
      (∀ tables, mapped ≠ .done tables) →
      BringBack vm key page slot (.error .noAddressSpace)
        ({ mid with
            placement
            swap := { disk, taken := mid.swap.taken.erase slot.index }
            pool := mid.pool.occupy number frame key (frame.filled data).contents
            pageIns := mid.pageIns + 1 }.putPage key { page with location := .resident number })
  | done {mid : VirtualMemory δ φ π} {number : FrameNumber} {frame : Frame}
      {data : List UInt8} {disk : BlockDevice δ} {tables : AddressSpaces} (placement : φ) :
      Granted (vm.lock key (some page)) mid number frame placement →
      mid.swap.isTaken slot = true →
      mid.swap.disk.readRun slot.startSector slotSectors frame.contents.toList =
        .ok (.ok (), data, disk) →
      mid.tables.map key.owner key.base number page.writable = .ok (.done tables) →
      BringBack vm key page slot (.ok ())
        ({ mid with
            placement, tables
            swap := { disk, taken := mid.swap.taken.erase slot.index }
            pool := mid.pool.occupy number frame key (frame.filled data).contents
            pageIns := mid.pageIns + 1 }.putPage key { page with location := .resident number })

variable {result : Except MemoryError Unit}

theorem bringBack_cases (hlocation : page.location = .swappedOut slot)
    (h : vm.bringBack key page = .ok (result, after)) :
    BringBack vm key page slot result after := by
  obtain ⟨⟨found, obtained⟩, hobtain, h⟩ := bind_eq_ok.1 h
  change (vm.lock key (some page)).obtainFrame key = _ at hobtain
  obtain ⟨error, rfl, hdenied⟩ | ⟨number, frame, mid, placement, rfl, hgranted, rfl⟩ :=
    obtainFrame_cases hobtain
  · cases h
    exact .noFrame hdenied
  · obtain ⟨⟨outcome, moved, store⟩, hpageIn, h⟩ := bind_eq_ok.1 h
    have htaken := FramePool.frame?_take_self hgranted.frame?_eq key
    cases AnonPage.pageIn_cases hpageIn with
    | notSwappedOut hresident => cases hlocation.symm.trans hresident
    | failed hfrom hframe hread =>
        rename_i data error disk
        cases hlocation.symm.trans hfrom
        cases htaken.symm.trans hframe
        obtain ⟨pool, hfree, h⟩ := bind_eq_ok.1 h
        cases h
        obtain ⟨found, hfound, -, hpool⟩ := FramePool.free_eq_ok hfree
        cases (FramePool.frame?_replace_self htaken _).symm.trans hfound
        obtain rfl : pool = mid.pool.giveBack number frame key (frame.filled data).contents :=
          hpool.trans (FramePool.release_replace _ _ _ _)
        have hfailed : BringBack vm key page slot (.error (.swap (.block error))) _ :=
          .notRead placement hgranted hread
        exact hfailed
    | moved hfrom hframe htakenSlot hread =>
        rename_i data disk
        cases hlocation.symm.trans hfrom
        cases htaken.symm.trans hframe
        obtain ⟨mapped, hmap, h⟩ := bind_eq_ok.1 h
        obtain ⟨pool, hunpin, h⟩ := bind_eq_ok.1 h
        obtain ⟨found, hfound, hpool⟩ := FramePool.unpin_eq_ok hunpin
        cases (FramePool.frame?_replace_self htaken _).symm.trans hfound
        obtain rfl : pool = mid.pool.occupy number frame key (frame.filled data).contents :=
          hpool.trans (FramePool.replace_replace _ _ _ _)
        cases mapped with
        | done tables =>
            cases h
            have hdone : BringBack vm key page slot (.ok ()) _ :=
              .done placement hgranted htakenSlot hread hmap
            exact hdone
        | noSpace =>
            cases h
            have hleft : BringBack vm key page slot (.error .noAddressSpace) _ :=
              .unmapped placement hgranted htakenSlot hread hmap (by simp)
            exact hleft
        | alreadyPresent =>
            cases h
            have hleft : BringBack vm key page slot (.error .noAddressSpace) _ :=
              .unmapped placement hgranted htakenSlot hread hmap (by simp)
            exact hleft

/-- A stack page that is there already is as good as a new one. -/
def grown : Except MemoryError Unit → Except MemoryError Unit
  | .error .alreadyMapped => .ok ()
  | result => result

theorem grown_eq_self (h : result ≠ .error .alreadyMapped) : grown result = result := by
  unfold grown
  split
  · exact absurd rfl h
  · rfl

theorem eq_error_of_grown {error : MemoryError} (h : grown result = .error error) :
    result = .error error := by
  unfold grown at h
  split at h
  · cases h
  · exact h

inductive ResolveFault (vm : VirtualMemory δ φ π) (pid : Pid) (fault : FaultReport) :
    Except MemoryError Unit → VirtualMemory δ φ π → Prop where
  | notUserAddress : inUserSpace fault.addr = false →
      ResolveFault vm pid fault (.error .notUserAddress) vm
  | grown {result : Except MemoryError Unit} {after : VirtualMemory δ φ π} :
      inUserSpace fault.addr = true → vm.cell? (.containing pid fault.addr) = none →
      fault.growsStack vm.stackLimit = true → MapZero vm pid fault.addr .stack true result after →
      ResolveFault vm pid fault (VirtualMemory.grown result) after
  | notMapped : inUserSpace fault.addr = true → vm.cell? (.containing pid fault.addr) = none →
      fault.growsStack vm.stackLimit = false → ResolveFault vm pid fault (.error .notMapped) vm
  | unfinished : inUserSpace fault.addr = true →
      vm.cell? (.containing pid fault.addr) = some ⟨false, none⟩ →
      ResolveFault vm pid fault (.error .notMapped) vm
  | writeProtected {page : AnonPage} : inUserSpace fault.addr = true →
      vm.cell? (.containing pid fault.addr) = some ⟨false, some page⟩ →
      fault.write = true → page.writable = false →
      ResolveFault vm pid fault (.error .writeProtected) vm
  | resident {page : AnonPage} {number : FrameNumber} : inUserSpace fault.addr = true →
      vm.cell? (.containing pid fault.addr) = some ⟨false, some page⟩ →
      (fault.write = true → page.writable = true) → page.location = .resident number →
      ResolveFault vm pid fault (.ok ()) vm
  | broughtBack {page : AnonPage} {slot : SwapSlot} {result : Except MemoryError Unit}
      {after : VirtualMemory δ φ π} : inUserSpace fault.addr = true →
      vm.cell? (.containing pid fault.addr) = some ⟨false, some page⟩ →
      (fault.write = true → page.writable = true) → page.location = .swappedOut slot →
      BringBack vm (.containing pid fault.addr) page slot result after →
      ResolveFault vm pid fault result after

theorem extendStack_cases {pid : Pid} {fault : FaultReport}
    (huser : inUserSpace fault.addr = true)
    (hcell : vm.cell? (.containing pid fault.addr) = none)
    (h : vm.extendStack pid fault = .ok (result, after)) :
    ResolveFault vm pid fault result after := by
  simp only [extendStack] at h
  split at h
  · rename_i hgrows
    obtain ⟨⟨mapped, obtained⟩, hmap, h⟩ := bind_eq_ok.1 h
    have hmapped := mapZero_cases hmap
    split at h
    · rename_i heq
      cases heq
      cases h
      exact .grown huser hcell hgrows hmapped
    · rename_i hother
      cases h
      have hfresh : result ≠ .error .alreadyMapped := by
        rintro rfl
        exact hother _ rfl
      rw [← grown_eq_self hfresh]
      exact .grown huser hcell hgrows hmapped
  · rename_i hstays
    cases h
    exact .notMapped huser hcell (by simpa using hstays)

theorem resolveFault_cases {pid : Pid} {fault : FaultReport}
    (h : vm.resolveFault pid fault = .ok (result, after)) :
    ResolveFault vm pid fault result after := by
  simp only [resolveFault] at h
  split at h
  · rename_i huser
    cases h
    exact .notUserAddress (by simpa using huser)
  rename_i huser
  have huser : inUserSpace fault.addr = true := by simpa using huser
  split at h
  · rename_i hcell
    exact extendStack_cases huser hcell h
  rename_i cell hcell
  obtain ⟨page?, hwait, hrest⟩ := bind_eq_ok.1 h
  obtain rfl := waitFor_eq_ok hwait
  cases page? with
  | none =>
      cases hrest
      exact .unfinished huser hcell
  | some page =>
      simp only at hrest
      split at hrest
      · rename_i hprotected
        cases hrest
        simp only [Bool.and_eq_true, Bool.not_eq_true'] at hprotected
        exact .writeProtected huser hcell hprotected.1 hprotected.2
      rename_i hallowed
      have hallowed : fault.write = true → page.writable = true := by simpa using hallowed
      cases hlocation : page.location with
      | resident number =>
          rw [if_pos (by simp [AnonPage.inMemory, AnonPage.frame?, hlocation])] at hrest
          cases hrest
          exact .resident huser hcell hallowed hlocation
      | swappedOut slot =>
          rw [if_neg (by simp [AnonPage.inMemory, AnonPage.frame?, hlocation])] at hrest
          exact .broughtBack huser hcell hallowed hlocation (bringBack_cases hlocation hrest)

end DemandPaging.VirtualMemory
