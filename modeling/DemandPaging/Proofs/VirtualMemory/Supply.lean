import DemandPaging.Proofs.ReliableStore
import DemandPaging.Proofs.VirtualMemory.Eviction

/-!
A machine that has frames, a sound device and standard algorithms always finds a frame, so no
request ever fails for want of one.
-/
namespace DemandPaging.VirtualMemory

variable {δ φ π : Type} [BlockDriver δ] [ReliableStore δ] {vm after : VirtualMemory δ φ π}
  {key : UserPage} {page : AnonPage} {number : FrameNumber}

/-- There are frames, and the device has the sectors of all slots. -/
structure Equipped (vm : VirtualMemory δ φ π) : Prop where
  frames : 0 < vm.pool.size
  roomy : vm.swap.Roomy

/-- A machine keeps what it is equipped with. -/
theorem KeepsParts.equipped [Placement φ] [Replacement π] (hkeeps : vm.KeepsParts after)
    (h : vm.Equipped) : after.Equipped := by
  refine ⟨hkeeps.frames ▸ h.frames, ?_⟩
  rw [SwapArea.Roomy, hkeeps.slotCount, hkeeps.disk.capacity_eq]
  exact h.roomy

theorem pageOutPage_ok {result : Except MemoryError SwapSlot} (h : vm.Equipped)
    (hlocation : page.location = .resident number)
    (hout : vm.pageOutPage key page = .ok (result, after)) : ∃ slot, result = .ok slot := by
  obtain ⟨⟨outcome, page', store⟩, hpage, hrest⟩ := bind_eq_ok.1 hout
  cases AnonPage.pageOut_cases hpage with
  | notResident hswapped => cases hlocation.symm.trans hswapped
  | failed _ hframe hslot hrun =>
      cases h.roomy.write_ok hslot.lt_slotCount hrun (Bytes.length_toList _)
  | moved =>
      cases hrest
      exact ⟨_, rfl⟩

variable [Placement φ] [CompletePlacement φ] [ValidPlacement φ] [Replacement π]
  [ValidReplacement π] [DecisiveReplacement π] {result : Except MemoryError Unit}
  {error : MemoryError} {pid : Pid} {addr : Nat} {write : Bool}

/-- A frame is found for a page that has none and that nobody else can get at. -/
theorem Denied.absurd {page? : Option AnonPage} (hdenied : Denied (vm.lock key page?) after error)
    (hbooks : vm.Accounted none) (h : vm.Equipped) (hpage : vm.held? key = page?)
    (habsent : ∀ page ∈ page?, ∀ number, page.location ≠ .resident number) : False := by
  have hsearching := hbooks.searching_lock hpage habsent
  obtain ⟨hfull, hevict⟩ := hdenied.evictPage_eq hsearching
  obtain ⟨choice, victim, page, number, -, hlocation, heviction⟩ :=
    hsearching.eviction_of_full h.frames hfull
  rw [heviction] at hevict
  have hequipped : ((vm.lock key page?).consulted choice).Equipped := ⟨h.frames, h.roomy⟩
  obtain ⟨slot, hslot⟩ := pageOutPage_ok hequipped hlocation hevict
  cases hslot

theorem MapZero.external {kind : PageKind} {writable : Bool}
    (hcases : MapZero vm pid addr kind writable (.error error) after)
    (hbooks : vm.Accounted none) (h : vm.Equipped) : error.isInternal = false := by
  cases hcases with
  | notUserAddress => rfl
  | noAddressSpace => rfl
  | alreadyMapped => rfl
  | noFrame hmappable hdenied =>
      exact (hdenied.absurd hbooks h hmappable.held?_eq_none (by simp)).elim
  | abandoned _ _ _ _ _ hexternal => exact hexternal

theorem BringBack.external {slot : SwapSlot}
    (hcases : BringBack vm key page slot (.error error) after) (hbooks : vm.Accounted none)
    (h : vm.Equipped) (hcell : vm.cell? key = some ⟨false, some page⟩)
    (hlocation : page.location = .swappedOut slot) : error.isInternal = false := by
  have hheld := held?_of_cell? hcell
  cases hcases with
  | noFrame hdenied =>
      exact (hdenied.absurd hbooks h hheld (not_resident_of_swappedOut hlocation)).elim
  | notRead _ hgranted hread =>
      have hmid := hgranted.reclaims.accounted (hbooks.lock (some page) hheld)
      have hhome := home?_of_location hgranted.reclaims.held?_of_lock hlocation
      have hslot := hmid.bounded slot (hmid.isTaken_iff.2 ⟨key, hhome⟩)
      have hequipped := hgranted.rounds.keepsParts.of_lock.equipped h
      cases hequipped.roomy.read_ok hslot hread (Bytes.length_toList _)
  | unmapped => rfl

theorem ResolveFault.external {fault : FaultReport}
    (hcases : ResolveFault vm pid fault (.error error) after) (hbooks : vm.Accounted none)
    (h : vm.Equipped) : error.isInternal = false := by
  generalize hresult : (.error error : Except MemoryError Unit) = result at hcases
  cases hcases with
  | notUserAddress =>
      cases hresult
      rfl
  | grown huser hcell hgrows hmapped =>
      rw [eq_error_of_grown hresult.symm] at hmapped
      exact hmapped.external hbooks h
  | notMapped =>
      cases hresult
      rfl
  | unfinished =>
      cases hresult
      rfl
  | writeProtected =>
      cases hresult
      rfl
  | resident => cases hresult
  | broughtBack _ hcell _ hlocation hback =>
      cases hresult
      exact hback.external hbooks h hcell hlocation

theorem Access.external {found : Except MemoryError FrameNumber}
    (hcases : Access pid addr write vm found after) (hfailed : found = .error error)
    (hbooks : vm.Accounted none) (h : vm.Equipped) : error.isInternal = false := by
  induction hcases with
  | touched htouched =>
      cases htouched with
      | noAddressSpace =>
          cases hfailed
          rfl
      | writeProtected =>
          cases hfailed
          rfl
      | reached => cases hfailed
  | unresolved _ hresolve =>
      cases hfailed
      exact hresolve.external hbooks h
  | resolved _ hresolve _ ih =>
      exact ih hfailed (hresolve.accounted hbooks) (hresolve.keepsParts.equipped h)

theorem external_of_access (haccess : vm.access pid addr write = .ok (.error error, after))
    (hbooks : vm.Accounted none) (h : vm.Equipped) : error.isInternal = false := by
  obtain ⟨-, herror, -⟩ | ⟨-, hcases⟩ := access_cases haccess
  · cases herror
    rfl
  · exact hcases.external rfl hbooks h

theorem CopyIn.external {data : List UInt8} {moved : Nat}
    (hcases : CopyIn pid vm addr data result moved after) (hfailed : result = .error error)
    (hbooks : vm.Accounted none) (h : vm.Equipped) : error.isInternal = false := by
  induction hcases with
  | done => cases hfailed
  | stopped _ haccess =>
      cases hfailed
      exact external_of_access haccess hbooks h
  | chunk _ haccess hframe _ _ ih =>
      exact ih hfailed ((accounted_of_access hbooks haccess).patchFrame hframe _ _)
        (((keepsParts_of_access haccess).trans (keepsParts_patchFrame _ _ _ _ _)).equipped h)

theorem CopyOut.external {buffer got : List UInt8} {moved : Nat}
    (hcases : CopyOut pid vm addr buffer result got moved after) (hfailed : result = .error error)
    (hbooks : vm.Accounted none) (h : vm.Equipped) : error.isInternal = false := by
  induction hcases with
  | done => cases hfailed
  | stopped _ haccess =>
      cases hfailed
      exact external_of_access haccess hbooks h
  | chunk _ haccess _ _ _ ih =>
      exact ih hfailed (accounted_of_access hbooks haccess)
        ((keepsParts_of_access haccess).equipped h)

end DemandPaging.VirtualMemory
