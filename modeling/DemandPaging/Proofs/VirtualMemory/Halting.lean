import DemandPaging.Proofs.VirtualMemory.Census
import DemandPaging.Proofs.VirtualMemory.Coherence
import DemandPaging.Proofs.VirtualMemory.Eviction

/-!
What can stop the machine. With standard algorithms and its books in order, an operation halts only
where a page must go out and no slot is free, or where the device cannot count its sectors on.
-/
namespace DemandPaging.VirtualMemory

variable {δ φ π : Type} {vm mid after : VirtualMemory δ φ π} {busy : Option UserPage}
  {key owner : UserPage} {page : AnonPage} {number : FrameNumber} {frame : Frame}
  {surplus : Nat} {halt : Halt} {allowed : Halt → Prop}

/-- A machine in order, on a device that may be written. -/
structure Operational (vm : VirtualMemory δ φ π) : Prop where
  accounted : vm.Accounted none
  coherent : vm.Coherent
  writable : vm.swap.disk.type ≠ .foreign

/-- What may stop an operation: there are `surplus` pages more than slots, and all slots are taken;
or a counter of the device comes to its end. -/
inductive Overload [BlockDriver δ] (vm : VirtualMemory δ φ π) (surplus : Nat) : Halt → Prop where
  | exhausted : surplus + vm.swap.slotCount ≤ vm.pages.size →
      Overload vm surplus (.swapExhausted vm.swap.slotCount)
  | uncounted {halt : Halt} : vm.swap.disk.Overflows halt → Overload vm surplus halt

/-- A page on its way out is stopped by an overload. -/
theorem Accounted.overload [BlockDriver δ] (h : vm.Accounted none) (hstops : vm.swap.Stops halt)
    (hsurplus : surplus ≤ vm.pool.allocatedCount) : vm.Overload surplus halt := by
  cases hstops with
  | exhausted hfull =>
      refine .exhausted ?_
      rw [h.size_pages]
      omega
  | uncounted hend => exact .uncounted hend

/-- A page that has to go out for another one finds all frames taken. -/
theorem Accounted.overload_of_full [BlockDriver δ] (h : vm.Accounted none)
    (hstops : vm.swap.Stops halt ∧ vm.pool.allocatedCount = vm.pool.size) :
    vm.Overload vm.pool.size halt :=
  h.overload hstops.1 (Nat.le_of_eq hstops.2.symm)

section Spaces

/-- A frame of the pool has a number that an entry can hold. -/
theorem haltsOnly_map (hsound : vm.pool.Sound) (hframe : vm.pool.frame? number = some frame)
    (tables : AddressSpaces) (key : UserPage) (writable : Bool) :
    HaltsOnly allowed (tables.map key.owner key.base number writable) := by
  obtain ⟨mapped, hmap, -⟩ := tables.map_installed key (hsound.index_lt_limit hframe) writable
  rw [hmap]
  exact .ok _

/-- A page with its cell can be disposed of. -/
theorem Accounted.haltsOnly_dispose [BlockDriver δ] (h : vm.Accounted none) {cell : PageCell}
    (hcell : vm.cell? key = some cell) :
    HaltsOnly allowed ((vm.forget key).dispose key cell) := by
  obtain ⟨page, rfl⟩ := h.exists_page hcell
  have hheld := held?_of_cell? hcell
  refine .bind (.ok (some page)) fun page? hwait => ?_
  cases hwait
  refine .bind (AnonPage.haltsOnly_destroy h.sound ?_ ?_) fun _ _ => .ok _
  · intro number hlocation
    exact h.exists_frame hheld hlocation
  · intro slot hlocation
    exact h.isTaken_of_swappedOut hheld hlocation

theorem Accounted.haltsOnly_disposeAll [BlockDriver δ] {keys : List UserPage}
    (h : vm.Accounted none) (hnodup : keys.Nodup) (hmapped : ∀ key ∈ keys, vm.cell? key ≠ none) :
    HaltsOnly allowed ((vm.detachAll keys).2.disposeAll (vm.detachAll keys).1) := by
  induction keys generalizing vm with
  | nil => exact .ok _
  | cons key keys ih =>
      obtain ⟨hnot, hnodup⟩ := List.nodup_cons.1 hnodup
      obtain ⟨cell, hcell⟩ := Option.ne_none_iff_exists'.1 (hmapped key (by simp))
      rw [disposeAll_cons hnot hcell]
      refine .bind (h.haltsOnly_dispose hcell) fun mid hmid => ?_
      have hdiscarded := dispose_cases hcell hmid
      apply ih (hdiscarded.accounted h) hnodup
      intro other hother
      have hne : key ≠ other := fun heq => hnot (heq ▸ hother)
      rw [hdiscarded.cell?_eq, if_neg hne]
      exact hmapped other (List.mem_cons_of_mem _ hother)

theorem Accounted.haltsOnly_unmap [BlockDriver δ] (h : vm.Accounted none) (pid : Pid)
    (addr : Nat) : HaltsOnly allowed (vm.unmap pid addr) := by
  simp only [unmap, detach?]
  cases hcell : vm.cell? (.containing pid addr) with
  | none => exact .ok _
  | some cell => exact .bind (h.haltsOnly_dispose hcell) fun _ _ => .ok _

theorem Accounted.haltsOnly_destroySpace [BlockDriver δ] (h : vm.Accounted none) (pid : Pid) :
    HaltsOnly allowed (vm.destroySpace pid) := by
  simp only [destroySpace]
  refine .bind (h.haltsOnly_disposeAll (nodup_keysOf pid) ?_) fun mid _ => ?_
  · intro key hkey
    exact (mem_keysOf.1 hkey).2
  · split <;> exact .ok _

/-- A frame that was granted can be given back. -/
theorem haltsOnly_abandon {placement : φ} (hsound : mid.pool.Sound)
    (hframe : mid.pool.frame? number = some frame) (hfree : frame.status.allocated = false)
    (owner : UserPage) (error : MemoryError) :
    HaltsOnly allowed
      ({ mid with pool := mid.pool.take number frame owner, placement }.abandon key number
        error) := by
  have htaken := FramePool.frame?_take_self hframe owner
  exact .bind ((hsound.take hframe hfree owner).haltsOnly_free htaken (by simp)) fun _ _ => .ok _

end Spaces

section Frames

variable [BlockDriver δ] [Replacement π] [ValidReplacement π]

theorem Searching.haltsOnly_evictPage (h : vm.Searching busy)
    (hwritable : vm.swap.disk.type ≠ .foreign) :
    HaltsOnly (fun halt => vm.swap.Stops halt ∧ 0 < vm.pool.allocatedCount) vm.evictPage := by
  have heviction := h.eviction
  generalize vm.evictPage = outcome at heviction
  cases heviction with
  | exhausted => exact .ok _
  | chosen hchoice hvictim hcell hlocation =>
      rename_i choice key page number
      have hbooks := h.accounted
      obtain ⟨frame, hframe, hallocated⟩ := hbooks.exists_frame (held?_of_cell? hcell) hlocation
      have hpos := hbooks.sound.allocatedCount_pos hframe hallocated
      have hout := AnonPage.haltsOnly_pageOut (vm.consulted choice).toPageStore hlocation
        hbooks.sound hframe hallocated hbooks.bounded hwritable
      refine .bind (hout.mono fun halt hstops => ?_) fun moved _ => ?_
      · exact ⟨hstops, hpos⟩
      obtain ⟨outcome, page, store⟩ := moved
      cases outcome <;> exact .ok _

variable [Placement φ] [CompletePlacement φ] [ValidPlacement φ]

omit [ValidReplacement π] in
/-- While there is a free frame, no search for one halts. -/
theorem haltsOnly_obtainFrameWithin (hsound : vm.pool.Sound)
    (hcount : vm.pool.allocatedCount ≠ vm.pool.size) (owner : UserPage) (evictions : Nat) :
    HaltsOnly allowed (vm.obtainFrameWithin owner evictions) := by
  obtain ⟨number, frame, -, -, halloc⟩ := hsound.exists_alloc hcount vm.placement owner
  rw [obtainFrameWithin, halloc]
  exact .ok _

theorem Searching.haltsOnly_obtainFrame (h : vm.Searching busy)
    (hwritable : vm.swap.disk.type ≠ .foreign) (owner : UserPage) :
    HaltsOnly (fun halt => vm.swap.Stops halt ∧ vm.pool.allocatedCount = vm.pool.size)
      (vm.obtainFrame owner) := by
  by_cases hcount : vm.pool.allocatedCount = vm.pool.size
  · rw [obtainFrame, obtainFrameWithin, FramePool.alloc_of_full hcount]
    refine .bind (.ok (none, vm.pool, vm.placement)) fun allocated halloc => ?_
    cases halloc
    refine .bind ((h.haltsOnly_evictPage hwritable).mono ?_) fun evicted hevict => ?_
    · intro halt hstops
      exact ⟨hstops.1, hcount⟩
    obtain ⟨result, mid⟩ := evicted
    cases result with
    | error error => exact .ok _
    | ok slot =>
        have hmid := (h.of_reclaims (Reclaims.of_evictWithin hevict)).accounted.sound
        exact haltsOnly_obtainFrameWithin hmid (h.not_full_of_evictPage hevict) owner _
  · exact haltsOnly_obtainFrameWithin h.accounted.sound hcount owner _

end Frames

section Faults

variable [BlockDriver δ] [Placement φ] [CompletePlacement φ] [ValidPlacement φ] [Replacement π]
  [ValidReplacement π]

theorem Operational.haltsOnly_mapZero (h : vm.Operational) (pid : Pid) (addr : Nat)
    (kind : PageKind) (writable : Bool) :
    HaltsOnly (fun halt => vm.swap.Stops halt ∧ vm.pool.allocatedCount = vm.pool.size)
      (vm.mapZero pid addr kind writable) := by
  simp only [mapZero]
  split
  · exact .ok _
  split
  · exact .ok _
  split
  · exact .ok _
  rename_i hvacant
  have hvacant : vm.held? (.containing pid addr) = none := by
    rw [held?, not_not.1 (contains_pages.not.1 hvacant), Option.bind_none]
  have hsearching := h.accounted.searching_lock hvacant (by simp)
  refine .bind (hsearching.haltsOnly_obtainFrame h.writable _) fun obtained hobtain => ?_
  obtain ⟨found, vm'⟩ := obtained
  obtain ⟨error, rfl, -⟩ | ⟨number, frame, mid, placement, rfl, hgranted, rfl⟩ :=
    obtainFrame_cases hobtain
  · exact .ok _
  have hmid := hsearching.of_reclaims hgranted.reclaims
  have hsound := hmid.accounted.sound
  have hframe := hgranted.frame?_eq
  have htaken := FramePool.frame?_take_self hframe (.containing pid addr)
  refine .bind (haltsOnly_map hsound hframe mid.tables (.containing pid addr) writable)
    fun mapped _ => ?_
  cases mapped with
  | noSpace => exact haltsOnly_abandon hsound hframe hgranted.free _ _
  | alreadyPresent => exact haltsOnly_abandon hsound hframe hgranted.free _ _
  | done tables =>
      refine .bind (FramePool.haltsOnly_setContents htaken _) fun filled hfilled => ?_
      obtain ⟨found, -, rfl⟩ := FramePool.setContents_eq_ok hfilled
      have hset := FramePool.frame?_replace_self htaken { found with contents := .zero pageSize }
      exact .bind (FramePool.haltsOnly_unpin hset) fun _ _ => .ok _

theorem Operational.haltsOnly_extendStack (h : vm.Operational) (pid : Pid) (fault : FaultReport) :
    HaltsOnly (fun halt => vm.swap.Stops halt ∧ vm.pool.allocatedCount = vm.pool.size)
      (vm.extendStack pid fault) := by
  simp only [extendStack]
  split
  · refine .bind (h.haltsOnly_mapZero pid fault.addr .stack true) fun reply _ => ?_
    split <;> exact .ok _
  · exact .ok _

theorem Operational.haltsOnly_bringBack (h : vm.Operational)
    (hcell : vm.cell? key = some ⟨false, some page⟩) {slot : SwapSlot}
    (hlocation : page.location = .swappedOut slot) :
    HaltsOnly (vm.Overload vm.pool.size) (vm.bringBack key page) := by
  have hsearching := h.accounted.searching_lock (held?_of_cell? hcell)
    (not_resident_of_swappedOut hlocation)
  have hobtained := hsearching.haltsOnly_obtainFrame h.writable key
  refine .bind (hobtained.mono fun _ => h.accounted.overload_of_full) fun obtained hobtain => ?_
  obtain ⟨found, vm'⟩ := obtained
  obtain ⟨error, rfl, -⟩ | ⟨number, frame, mid, placement, rfl, hgranted, rfl⟩ :=
    obtainFrame_cases hobtain
  · exact .ok _
  have hmid := (hsearching.of_reclaims hgranted.reclaims).accounted
  have hframe := hgranted.frame?_eq
  have hslot := hmid.isTaken_of_swappedOut hgranted.reclaims.held?_of_lock hlocation
  have hsound := hmid.sound.take hframe hgranted.free key
  have htaken := FramePool.frame?_take_self hframe key
  have hin := AnonPage.haltsOnly_pageIn
    { mid.toPageStore with pool := mid.pool.take number frame key } hlocation hslot htaken
  refine .bind (hin.mono fun halt hend => ?_) ?_
  · exact .uncounted (hend.of_transfers hgranted.rounds.keepsParts.disk)
  intro ⟨outcome, moved, store⟩ hpageIn
  cases AnonPage.pageIn_cases hpageIn with
  | notSwappedOut hresident => cases hlocation.symm.trans hresident
  | failed hfrom hfound hread =>
      rename_i data error disk
      cases htaken.symm.trans hfound
      have hfilled := FramePool.frame?_replace_self htaken
        ((Frame.granted key frame.contents).filled data)
      have hallocated : ((Frame.granted key frame.contents).filled data).status.allocated = true :=
        Frame.allocated_granted key frame.contents
      exact .bind ((hsound.fill htaken data).haltsOnly_free hfilled hallocated) fun _ _ => .ok _
  | moved hfrom hfound htakenSlot hread =>
      rename_i data disk
      cases htaken.symm.trans hfound
      have hfilled := FramePool.frame?_replace_self htaken
        ((Frame.granted key frame.contents).filled data)
      refine .bind (haltsOnly_map hmid.sound hframe mid.tables key page.writable) fun mapped _ => ?_
      refine .bind (FramePool.haltsOnly_unpin hfilled) fun _ _ => ?_
      cases mapped <;> exact .ok _

theorem Operational.haltsOnly_resolveFault (h : vm.Operational) (pid : Pid) (fault : FaultReport) :
    HaltsOnly (vm.Overload vm.pool.size) (vm.resolveFault pid fault) := by
  simp only [resolveFault]
  split
  · exact .ok _
  split
  · exact (h.haltsOnly_extendStack pid fault).mono fun _ => h.accounted.overload_of_full
  · rename_i cell hcell
    obtain ⟨page, rfl⟩ := h.accounted.exists_page hcell
    refine .bind (.ok _) fun page? hwait => ?_
    cases hwait
    simp only
    split
    · exact .ok _
    · cases hlocation : page.location with
      | resident number =>
          rw [if_pos (by simp [AnonPage.inMemory, AnonPage.frame?, hlocation])]
          exact .ok _
      | swappedOut slot =>
          rw [if_neg (by simp [AnonPage.inMemory, AnonPage.frame?, hlocation])]
          exact h.haltsOnly_bringBack hcell hlocation

end Faults

section Parts

variable [BlockDriver δ] [Placement φ] [Replacement π]

/-- What stops an operation later would stop it now, as long as pages neither come nor go. -/
theorem KeepsParts.overload (h : vm.KeepsParts after) (hpages : after.pages.size = vm.pages.size)
    (hstop : after.Overload after.pool.size halt) : vm.Overload vm.pool.size halt := by
  rw [h.frames] at hstop
  cases hstop with
  | exhausted hsurplus =>
      rw [h.slotCount] at hsurplus ⊢
      rw [hpages] at hsurplus
      exact .exhausted hsurplus
  | uncounted hend => exact .uncounted (hend.of_transfers h.disk)

theorem KeepsParts.operational (hkeeps : vm.KeepsParts after) (h : vm.Operational)
    (hbooks : after.Accounted none) (hcoherent : after.Coherent) : after.Operational :=
  ⟨hbooks, hcoherent, hkeeps.type_disk ▸ h.writable⟩

omit [BlockDriver δ] [Placement φ] [Replacement π] in
/-- A page in memory can be touched. -/
theorem Coherent.exists_touch (h : vm.Coherent) {pid : Pid} {addr : Nat}
    (hheld : vm.held? (.containing pid addr) = some page)
    (hlocation : page.location = .resident number) (write : Bool) :
    ∃ reply, vm.touch? pid addr write = some reply := by
  apply Option.ne_none_iff_exists'.1
  intro hnone
  have habsent := (touch?_eq_none hnone).2
  have hfits := h.fits (.containing pid addr)
  rw [hheld] at hfits
  generalize vm.tables.translation? (.containing pid addr) = meaning? at hfits habsent
  cases hfits with
  | resident => cases habsent
  | swappedOut hswapped => cases hlocation.symm.trans hswapped

end Parts

section Accesses

variable [BlockDriver δ] [Placement φ] [Replacement π] [GentleReplacement π]
  {pid : Pid} {addr : Nat} {write : Bool} {found : Except MemoryError FrameNumber}

/-- A page that was not there is as good as a new one only if it is one. -/
theorem MapZero.eq_ok_of_grown {kind : PageKind} {writable : Bool}
    {result : Except MemoryError Unit} (hcases : MapZero vm pid addr kind writable result after)
    (hresult : grown result = .ok ()) (hvacant : vm.cell? (.containing pid addr) = none)
    (hbooks : vm.Accounted none) (h : vm.Coherent) : result = .ok () := by
  by_cases hmapped : result = .error .alreadyMapped
  · generalize hother : (.error .alreadyMapped : Except MemoryError Unit) = other at hmapped
    subst hmapped
    cases hcases with
    | notUserAddress => cases hother
    | noAddressSpace => cases hother
    | alreadyMapped _ _ hcell => cases hvacant.symm.trans hcell
    | noFrame _ hdenied =>
        cases hother
        cases hdenied.internal
    | abandoned _ hmappable hgranted hmap hrefused =>
        obtain ⟨tables, hdone⟩ := hgranted.map_mappable hmappable hbooks h hmap
        exact absurd hdone (hrefused tables)
    | made => rfl
  · rwa [grown_eq_self hmapped] at hresult

/-- A fault that was resolved has its page in memory, be it a new page of the stack. -/
theorem ResolveFault.exists_resident {pid : Pid} {fault : FaultReport}
    (hcases : ResolveFault vm pid fault (.ok ()) after) (hbooks : vm.Accounted none)
    (h : vm.Coherent) :
    ∃ page number, after.held? (.containing pid fault.addr) = some page ∧
      page.location = .resident number := by
  generalize hresult : (.ok () : Except MemoryError Unit) = result at hcases
  cases hcases with
  | notUserAddress => cases hresult
  | grown _ hvacant _ hmapped =>
      obtain rfl := hmapped.eq_ok_of_grown hresult.symm hvacant hbooks h
      cases hmapped with
      | made => exact ⟨_, _, (held?_putPage _ _ _ _).trans (if_pos rfl), rfl⟩
  | notMapped => cases hresult
  | unfinished => cases hresult
  | writeProtected => cases hresult
  | resident _ hcell _ hlocation => exact ⟨_, _, held?_of_cell? hcell, hlocation⟩
  | broughtBack _ _ _ _ hback =>
      cases hresult
      cases hback with
      | done => exact ⟨_, _, (held?_putPage _ _ _ _).trans (if_pos rfl), rfl⟩

omit [GentleReplacement π] in
theorem Operational.patchFrame (h : vm.Operational) (hframe : vm.pool.frame? number = some frame)
    (start : Nat) (data : List UInt8) : (vm.patchFrame number frame start data).Operational :=
  (keepsParts_patchFrame vm number frame start data).operational h
    (h.accounted.patchFrame hframe start data) (h.coherent.of_alike (fun _ => rfl) (.refl _))

theorem Operational.of_resolveFault (h : vm.Operational) {fault : FaultReport}
    {result : Except MemoryError Unit} (hcases : ResolveFault vm pid fault result after) :
    after.Operational :=
  hcases.keepsParts.operational h (hcases.accounted h.accounted)
    (hcases.coherent h.accounted h.coherent)

theorem Operational.of_access (h : vm.Operational)
    (haccess : vm.access pid addr write = .ok (found, after)) : after.Operational :=
  (keepsParts_of_access haccess).operational h (accounted_of_access h.accounted haccess)
    (coherent_of_access h.accounted h.coherent haccess)

/-- The frame that an access leads to is there. -/
theorem Access.exists_frame (hcases : Access pid addr write vm found after) (h : vm.Operational)
    (hfound : found = .ok number) : ∃ frame, after.pool.frame? number = some frame := by
  induction hcases with
  | touched htouched =>
      cases htouched with
      | noAddressSpace => cases hfound
      | writeProtected => cases hfound
      | reached _ hmeaning hpresent =>
          cases hfound
          obtain ⟨page, hheld, hlocation, -⟩ := h.coherent.exists_resident hmeaning hpresent
          obtain ⟨frame, hframe, -⟩ := h.accounted.exists_frame hheld hlocation
          exact ⟨frame, hframe⟩
  | unresolved => cases hfound
  | resolved _ hresolve _ ih => exact ih (h.of_resolveFault hresolve) hfound

theorem Operational.exists_frame_of_access (h : vm.Operational)
    (haccess : vm.access pid addr write = .ok (.ok number, after)) :
    ∃ frame, after.pool.frame? number = some frame := by
  obtain ⟨-, herror, -⟩ | ⟨-, hcases⟩ := access_cases haccess
  · cases herror
  · exact hcases.exists_frame h rfl

variable [CompletePlacement φ] [ValidPlacement φ] [ValidReplacement π]

/-- Resolving the fault is enough for an access to end. -/
theorem Operational.haltsOnly_access (h : vm.Operational) (pid : Pid) (addr : Nat)
    (write : Bool) :
    HaltsOnly (vm.Overload vm.pool.size) (vm.access pid addr write) := by
  simp only [access, accessWithin]
  split
  · split
    · exact .ok _
    · refine .bind (h.haltsOnly_resolveFault pid _) fun resolved hresolve => ?_
      obtain ⟨result, mid⟩ := resolved
      cases result with
      | error error => exact .ok _
      | ok =>
          -- The second touch finds what the fault left behind.
          have hcases := resolveFault_cases hresolve
          obtain ⟨page, number, hheld, hlocation⟩ := hcases.exists_resident h.accounted h.coherent
          obtain ⟨reply, htouch⟩ :=
            (h.of_resolveFault hcases).coherent.exists_touch hheld hlocation write
          simp only [htouch]
          exact .ok _
  · exact .ok _

theorem Operational.haltsOnly_copyToUser (h : vm.Operational) (pid : Pid) (addr : Nat)
    (data : List UInt8) :
    HaltsOnly (vm.Overload vm.pool.size) (vm.copyToUser pid addr data) := by
  induction hlength : data.length using Nat.strongRecOn generalizing vm addr data with
  | ind length ih =>
      cases data with
      | nil =>
          rw [copyToUser]
          exact .ok _
      | cons byte bytes =>
          have hlt := length_drop_chunkLength_lt addr byte bytes
          have hfits := offsetInPage_add_chunkLength_le addr (byte :: bytes).length
          rw [copyToUser]
          refine .bind (h.haltsOnly_access pid addr true) fun accessed haccess => ?_
          obtain ⟨result, mid⟩ := accessed
          cases result with
          | error error => exact .ok _
          | ok number =>
              obtain ⟨frame, hframe⟩ := h.exists_frame_of_access haccess
              refine .bind (FramePool.haltsOnly_writeBytes hframe ?_) fun pool hwrite => ?_
              · rw [List.length_take]
                omega
              obtain ⟨found, hfound, -, rfl⟩ := FramePool.writeBytes_eq_ok hwrite
              have hpatched := (h.of_access haccess).patchFrame hfound
              -- What stops the rest of the copy is told of the machine as it was at the start.
              refine (ih _ (hlength ▸ hlt) (hpatched _ _) _ _ rfl).mono fun halt hstop => ?_
              apply (keepsParts_of_access haccess).overload (size_pages_of_access haccess)
              exact (keepsParts_patchFrame mid number found _ _).overload rfl hstop

theorem Operational.haltsOnly_copyFromUser (h : vm.Operational) (pid : Pid) (addr : Nat)
    (buffer : List UInt8) :
    HaltsOnly (vm.Overload vm.pool.size) (vm.copyFromUser pid addr buffer) := by
  induction hlength : buffer.length using Nat.strongRecOn generalizing vm addr buffer with
  | ind length ih =>
      cases buffer with
      | nil =>
          rw [copyFromUser]
          exact .ok _
      | cons byte bytes =>
          have hlt := length_drop_chunkLength_lt addr byte bytes
          rw [copyFromUser]
          refine .bind (h.haltsOnly_access pid addr false) fun accessed haccess => ?_
          obtain ⟨result, mid⟩ := accessed
          cases result with
          | error error => exact .ok _
          | ok number =>
              obtain ⟨frame, hframe⟩ := h.exists_frame_of_access haccess
              refine .bind (FramePool.haltsOnly_frame hframe) fun _ _ => .bind ?_ fun _ _ => .ok _
              refine (ih _ (hlength ▸ hlt) (h.of_access haccess) _ _ rfl).mono fun halt hstop => ?_
              exact (keepsParts_of_access haccess).overload (size_pages_of_access haccess) hstop

end Accesses

/-- How many pages more than slots there have to be for a call to run out of slots. Only an
eviction that is asked for takes a page out while frames are free. -/
def surplusFor (vm : VirtualMemory δ φ π) : MemoryCall → Nat
  | .evictPage => 1
  | _ => vm.pool.size

theorem surplusFor_of_ne {call : MemoryCall} (h : call ≠ .evictPage) :
    vm.surplusFor call = vm.pool.size := by
  cases call <;> first | rfl | exact absurd rfl h

theorem surplusFor_pos (hframes : 0 < vm.pool.size) (call : MemoryCall) :
    0 < vm.surplusFor call := by
  cases call <;> first | exact hframes | exact Nat.one_pos

section Calls

variable [BlockDriver δ] [Placement φ] [CompletePlacement φ] [ValidPlacement φ] [Replacement π]
  [ValidReplacement π] [GentleReplacement π]

theorem Operational.haltsOnly_perform (h : vm.Operational) (call : MemoryCall) :
    HaltsOnly (vm.Overload (vm.surplusFor call)) (vm.perform call) := by
  have hbooks := h.accounted
  cases call with
  | createSpace pid => exact .ok _
  | destroySpace pid => exact .bind (hbooks.haltsOnly_destroySpace pid) fun _ _ => .ok _
  | mapZero pid addr kind writable =>
      have hmapped := h.haltsOnly_mapZero pid addr kind writable
      exact .bind (hmapped.mono fun _ => hbooks.overload_of_full) fun _ _ => .ok _
  | unmap pid addr => exact .bind (hbooks.haltsOnly_unmap pid addr) fun _ _ => .ok _
  | resolveFault pid fault =>
      exact .bind (h.haltsOnly_resolveFault pid fault) fun _ _ => .ok _
  | evictPage =>
      refine .bind ((hbooks.searching.haltsOnly_evictPage h.writable).mono ?_) fun _ _ => .ok _
      intro halt hstops
      exact hbooks.overload hstops.1 hstops.2
  | copyFromUser pid addr buffer =>
      exact .bind (h.haltsOnly_copyFromUser pid addr buffer) fun _ _ => .ok _
  | copyToUser pid addr data =>
      exact .bind (h.haltsOnly_copyToUser pid addr data) fun _ _ => .ok _
  | location pid addr =>
      simp only [perform, location?, hbooks.page?_eq]
      exact .ok _
  | kind pid addr =>
      simp only [perform, kind?, hbooks.page?_eq]
      exact .ok _
  | usage => exact .ok _

omit [CompletePlacement φ] [ValidPlacement φ] [ValidReplacement π] in
theorem Operational.of_perform (h : vm.Operational) {call : MemoryCall} {reply : MemoryReply}
    (hcall : vm.perform call = .ok (reply, after)) : after.Operational := by
  have hcases := perform_cases hcall
  exact hcases.keepsParts.operational h (hcases.accounted h.accounted)
    (hcases.coherent h.accounted h.coherent)

end Calls

theorem Operational.withDriver (h : vm.Operational) (driver : δ) :
    (vm.withDriver driver).Operational :=
  ⟨h.accounted.withDriver driver, h.coherent.of_alike (fun _ => rfl) (.refl _), h.writable⟩

theorem operational_new {count : Nat} {pool : FramePool} {disk : BlockDevice δ}
    (hpool : FramePool.new count = .ok pool) (hwritable : disk.type ≠ .foreign) (placement : φ)
    (policy : π) (stackLimit : Nat) :
    (new (.new disk) pool placement policy stackLimit).Operational :=
  ⟨accounted_new disk hpool placement policy stackLimit,
    coherent_new disk pool placement policy stackLimit, hwritable⟩

theorem Run.operational [BlockDriver δ] [Placement φ] [Replacement π] [GentleReplacement π]
    {drift : δ → δ → Prop} {trace : List (MemoryCall × MemoryReply)}
    (hrun : Run drift vm trace after) (h : vm.Operational) : after.Operational := by
  refine hrun.invariant (fun vm => vm.Operational) ?_ ?_ h
  · intro vm driver h _
    exact h.withDriver driver
  · intro vm after call reply h hcall
    exact h.of_perform hcall

end DemandPaging.VirtualMemory
