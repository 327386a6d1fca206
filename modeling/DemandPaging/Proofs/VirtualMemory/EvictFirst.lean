import DemandPaging.Proofs.VirtualMemory.History

/-!
A call that needs a frame where all are taken evicts one page, and it might as well have been made
after that eviction. The lock on its own page makes no difference, since that page has no frame.
-/
namespace DemandPaging.VirtualMemory

variable {δ φ π : Type} {vm mid after : VirtualMemory δ φ π} {key other : UserPage}
  {page : AnonPage} {pid : Pid} {addr : Nat}

theorem putPage_lock (vm : VirtualMemory δ φ π) (hne : key ≠ other) (page : AnonPage)
    (page? : Option AnonPage) :
    (vm.lock key page?).putPage other page = (vm.putPage other page).lock key page? := by
  have hpages : ((vm.lock key page?).putPage other page).pages =
      ((vm.putPage other page).lock key page?).pages := by
    apply pages_eq_of_cell?
    intro third
    rw [cell?_putPage, cell?_lock, cell?_lock, cell?_putPage]
    by_cases heq : other = third
    · rw [if_pos heq, if_neg (heq ▸ hne), if_pos heq]
    · rw [if_neg heq, if_neg heq]
  exact congrArg (fun pages => { vm with pages }) hpages

theorem putPage_seeking (vm : VirtualMemory δ φ π) (hne : key ≠ other) (page : AnonPage) :
    (vm.seeking key).putPage other page = (vm.putPage other page).seeking key := by
  rw [seeking, seeking, putPage_lock vm hne, held?_putPage, if_neg (Ne.symm hne)]

variable [BlockDriver δ]

theorem pageOutPage_seeking (vm : VirtualMemory δ φ π) (hne : key ≠ other) (page : AnonPage) :
    (vm.seeking key).pageOutPage other page =
      (vm.pageOutPage other page).map fun (result, mid) => (result, mid.seeking key) := by
  refine bind_congr_map fun moved _ => ?_
  obtain ⟨result, page, store⟩ := moved
  have hsame := putPage_seeking { vm with toPageStore := store } hne page
  cases result with
  | error error =>
      exact congrArg (fun vm => Except.ok (Except.error (MemoryError.swap error), vm)) hsame
  | ok slot =>
      exact congrArg (fun vm => Except.ok (Except.ok slot,
        { vm with pageOuts := vm.pageOuts + 1 })) hsame

variable [Replacement π] [ValidReplacement π]

/-- A machine with a locked page that has no frame evicts what it would evict without the lock. -/
theorem Accounted.evictPage_seeking (h : vm.Accounted none) (habsent : vm.NotInMemory key) :
    (vm.seeking key).evictPage =
      vm.evictPage.map fun (result, mid) => (result, mid.seeking key) := by
  have hplain := h.searching.eviction
  have hlocked := (h.searching_seeking habsent).eviction
  generalize vm.evictPage = outcome at hplain ⊢
  generalize (vm.seeking key).evictPage = outcome' at hlocked ⊢
  cases hplain with
  | exhausted hchoice hnone =>
      cases hlocked with
      | exhausted hchoice' =>
          cases hchoice.symm.trans hchoice'
          rfl
      | chosen hchoice' hvictim =>
          cases hchoice.symm.trans hchoice'
          cases hnone.symm.trans hvictim
  | chosen hchoice hvictim hcell hlocation =>
      cases hlocked with
      | exhausted hchoice' hnone =>
          cases hchoice.symm.trans hchoice'
          cases hnone.symm.trans hvictim
      | chosen hchoice' hvictim' hcell' hlocation' =>
          rename_i choice first _ _ _ second _ _
          cases hchoice.symm.trans hchoice'
          cases hvictim.symm.trans hvictim'
          rw [seeking, cell?_lock] at hcell'
          split at hcell'
          · cases hcell'
          rename_i hne
          -- One frame has one page in it.
          have hhome := home?_of_location (held?_of_cell? hcell) hlocation
          have hhome' := home?_of_location (held?_of_cell? hcell') hlocation'
          obtain rfl := h.eq_of_resident hhome hhome'
          cases hcell.symm.trans hcell'
          exact pageOutPage_seeking (vm.consulted choice) hne _

/-- What an eviction leaves alone while the page of `key` waits for a frame. -/
structure Aside (vm mid : VirtualMemory δ φ π) (key : UserPage) : Prop where
  cell?_eq : mid.cell? key = vm.cell? key
  contains : ∀ pid, mid.tables.contains pid = vm.tables.contains pid
  stackLimit : mid.stackLimit = vm.stackLimit

theorem Accounted.aside_of_evictPage [GentleReplacement π] (h : vm.Accounted none)
    (habsent : vm.NotInMemory key) {result : Except MemoryError SwapSlot}
    (hevict : vm.evictPage = .ok (result, mid)) : Aside vm mid key := by
  have hcontains := (Reclaims.of_evictWithin hevict).contains_tables
  obtain ⟨choice, -, hattempt⟩ := h.searching.exists_attempt hevict
  cases hattempt with
  | exhausted => exact ⟨rfl, hcontains, rfl⟩
  | failed => exact ⟨rfl, hcontains, rfl⟩
  | moved hcell hlocation hframe hallocated hslot hrun =>
      rename_i victim _ number _ _ _
      have hne : victim ≠ key := by
        rintro rfl
        exact habsent _ (held?_of_cell? hcell) number hlocation
      exact ⟨(cell?_putPage _ _ _ _).trans (if_neg hne), hcontains, rfl⟩

/-- Evicts a page before a call; an eviction that fails is the end of it. -/
def evictFirst (vm : VirtualMemory δ φ π)
    (call : VirtualMemory δ φ π → Except Halt (Except MemoryError Unit × VirtualMemory δ φ π)) :
    Except Halt (Except MemoryError Unit × VirtualMemory δ φ π) := do
  match ← vm.evictPage with
  | (.error error, vm) => return (.error error, vm)
  | (.ok _, vm) => call vm

variable {call again :
  VirtualMemory δ φ π → Except Halt (Except MemoryError Unit × VirtualMemory δ φ π)}

omit [ValidReplacement π] in
/-- What follows on a call follows after the eviction, unless that has failed. -/
theorem evictFirst_bind {finish : Except MemoryError Unit × VirtualMemory δ φ π →
      Except Halt (Except MemoryError Unit × VirtualMemory δ φ π)}
    (hfailed : ∀ error mid, vm.evictPage = .ok (.error error, mid) →
      finish (.error error, mid) = .ok (.error error, mid))
    (hagain : ∀ slot mid, vm.evictPage = .ok (.ok slot, mid) → call mid >>= finish = again mid) :
    vm.evictFirst call >>= finish = vm.evictFirst again := by
  simp only [evictFirst]
  cases hevict : vm.evictPage with
  | error halt => rfl
  | ok evicted =>
      obtain ⟨result, mid⟩ := evicted
      cases result with
      | error error => exact hfailed error mid hevict
      | ok slot => exact hagain slot mid hevict

omit [ValidReplacement π] in
theorem evictFirst_congr
    (h : ∀ slot mid, vm.evictPage = .ok (.ok slot, mid) → call mid = again mid) :
    vm.evictFirst call = vm.evictFirst again := by
  rw [← bind_pure (vm.evictFirst call)]
  refine evictFirst_bind (fun _ _ _ => rfl) fun slot mid hevict => ?_
  rw [bind_pure, h slot mid hevict]

variable [Placement φ] [CompletePlacement φ] [ValidPlacement φ]

/-- Where all frames are taken, a search for one is an eviction and then a search. -/
theorem Accounted.obtainFrame_of_full (h : vm.Accounted none) (habsent : vm.NotInMemory key)
    (hfull : vm.pool.allocatedCount = vm.pool.size) :
    (vm.seeking key).obtainFrame key = (do
      match ← vm.evictPage with
      | (.error error, mid) => return (.error error, mid.seeking key)
      | (.ok _, mid) => (mid.seeking key).obtainFrame key) := by
  have hevicts := h.evictPage_seeking habsent
  have hfull : (vm.seeking key).pool.allocatedCount = (vm.seeking key).pool.size := hfull
  rw [obtainFrame, obtainFrameWithin, FramePool.alloc_of_full hfull]
  change ((vm.seeking key).evictPage >>= _) = _
  rw [hevicts]
  cases hevict : vm.evictPage with
  | error halt => rfl
  | ok evicted =>
      obtain ⟨result, mid⟩ := evicted
      cases result with
      | error error => rfl
      | ok slot =>
          have hlocked : (vm.seeking key).evictPage = .ok (.ok slot, mid.seeking key) := by
            rw [hevicts, hevict]
            rfl
          have hstart := h.searching_seeking habsent
          have hfewer := hstart.allocatedCount_of_evictPage hlocked
          have hmid := hstart.of_reclaims (Reclaims.of_evictWithin hlocked)
          exact hmid.obtainFrameWithin_eq key (by omega)

omit [ValidReplacement π] in
/-- Where a frame is free a search evicts nothing. -/
theorem Accounted.obtainFrame_of_room (h : vm.Accounted none) (habsent : vm.NotInMemory key)
    (hroom : vm.pool.allocatedCount ≠ vm.pool.size) :
    (vm.seeking key).obtainFrame key = (vm.seeking key).obtainFrameWithin key 0 := by
  have hsound := (h.searching_seeking habsent).accounted.sound
  have hends : NeverWaits ((vm.seeking key).obtainFrameWithin key 0) :=
    haltsOnly_obtainFrameWithin hsound hroom key 0
  exact obtainFrameWithin_of_le (Nat.zero_le _) hends.ne

/-- A call that starts with a search for a frame, which may fail, can be made after an eviction. -/
theorem Accounted.eq_evictFirst_of_full (h : vm.Accounted none) (habsent : vm.NotInMemory key)
    (hfull : vm.pool.allocatedCount = vm.pool.size)
    {finish : Except MemoryError FrameNumber × VirtualMemory δ φ π →
      Except Halt (Except MemoryError Unit × VirtualMemory δ φ π)}
    (hfailed : ∀ error mid, vm.evictPage = .ok (.error error, mid) →
      finish (.error error, mid.seeking key) = .ok (.error error, mid))
    (hagain : ∀ slot mid, vm.evictPage = .ok (.ok slot, mid) →
      call mid = (mid.seeking key).obtainFrame key >>= finish) :
    (vm.seeking key).obtainFrame key >>= finish = vm.evictFirst call := by
  rw [h.obtainFrame_of_full habsent hfull, evictFirst]
  cases hevict : vm.evictPage with
  | error halt => rfl
  | ok evicted =>
      obtain ⟨result, mid⟩ := evicted
      cases result with
      | error error => exact hfailed error mid hevict
      | ok slot => exact (hagain slot mid hevict).symm

omit [ValidReplacement π] [CompletePlacement φ] [ValidPlacement φ] in
/-- Mapping a page is a search for a frame, and what follows on it. -/
theorem exists_mapZero_eq (pid : Pid) (addr : Nat) (kind : PageKind) (writable : Bool) :
    ∃ finish : Except MemoryError FrameNumber × VirtualMemory δ φ π →
        Except Halt (Except MemoryError Unit × VirtualMemory δ φ π),
      (∀ vm : VirtualMemory δ φ π, Mappable vm pid addr →
        vm.mapZero pid addr kind writable =
          (vm.seeking (.containing pid addr)).obtainFrame (.containing pid addr) >>= finish) ∧
      ∀ error mid, finish (.error error, mid) =
        .ok (.error error, mid.forget (.containing pid addr)) := by
  refine ⟨?_, fun vm hmappable => ?_, fun _ _ => ?_⟩
  -- What follows is read off the definition.
  rotate_left
  · have hvacant : ¬ vm.pages.contains (.containing pid addr) = true := fun hmapped =>
      contains_pages.1 hmapped hmappable.vacant
    rw [seeking, hmappable.held?_eq_none]
    simp only [mapZero, hmappable.inUserSpace, hmappable.contains, hvacant]
    rfl
  · rfl

variable [GentleReplacement π]

theorem Accounted.mapZero_eq_evictFirst (h : vm.Accounted none) (hmappable : Mappable vm pid addr)
    (hfull : vm.pool.allocatedCount = vm.pool.size) (kind : PageKind) (writable : Bool) :
    vm.mapZero pid addr kind writable = vm.evictFirst (·.mapZero pid addr kind writable) := by
  have habsent := hmappable.notInMemory
  obtain ⟨finish, hmapZero, hfinish⟩ :=
    exists_mapZero_eq (δ := δ) (φ := φ) (π := π) pid addr kind writable
  have hmid {result : Except MemoryError SwapSlot} {mid : VirtualMemory δ φ π}
      (hevict : vm.evictPage = .ok (result, mid)) : Mappable mid pid addr := by
    have haside := h.aside_of_evictPage habsent hevict
    exact ⟨hmappable.inUserSpace, (haside.contains pid).trans hmappable.contains,
      haside.cell?_eq.trans hmappable.vacant⟩
  rw [hmapZero vm hmappable]
  refine h.eq_evictFirst_of_full habsent hfull ?_ fun slot mid hevict => hmapZero mid (hmid hevict)
  intro error mid hevict
  have hpages : ((mid.seeking (.containing pid addr)).forget (.containing pid addr)).pages =
      mid.pages := pages_forget_of_lock rfl (hmid hevict).vacant
  rw [hfinish]
  exact congrArg (fun pages => Except.ok (Except.error error, { mid with pages })) hpages

theorem Accounted.bringBack_eq_evictFirst (h : vm.Accounted none)
    (hcell : vm.cell? key = some ⟨false, some page⟩) {slot : SwapSlot}
    (hlocation : page.location = .swappedOut slot)
    (hfull : vm.pool.allocatedCount = vm.pool.size) :
    vm.bringBack key page = vm.evictFirst (·.bringBack key page) := by
  have habsent := notInMemory_of_swappedOut hcell hlocation
  have hlock {mid : VirtualMemory δ φ π} (hmid : mid.cell? key = some ⟨false, some page⟩) :
      mid.seeking key = mid.lock key (some page) := by
    rw [seeking, held?_of_cell? hmid]
  have hmid {result : Except MemoryError SwapSlot} {mid : VirtualMemory δ φ π}
      (hevict : vm.evictPage = .ok (result, mid)) : mid.cell? key = some ⟨false, some page⟩ :=
    (h.aside_of_evictPage habsent hevict).cell?_eq.trans hcell
  rw [bringBack]
  change (vm.lock key (some page)).obtainFrame key >>= _ = _
  rw [← hlock hcell]
  refine h.eq_evictFirst_of_full habsent hfull ?_ fun slot mid hevict => ?_
  · intro error mid hevict
    have hpages : ((mid.seeking key).putPage key page).pages = mid.pages :=
      pages_putPage_of_lock rfl (hmid hevict)
    exact congrArg (fun pages => Except.ok (Except.error error, { mid with pages })) hpages
  · rw [hlock (hmid hevict)]
    rfl

/-- A fault that cannot be resolved without a frame. -/
inductive NeedsFrame (vm : VirtualMemory δ φ π) (pid : Pid) (fault : FaultReport) : Prop where
  | grows : vm.cell? (.containing pid fault.addr) = none → vm.tables.contains pid = true →
      fault.growsStack vm.stackLimit = true → NeedsFrame vm pid fault
  | swappedOut {page : AnonPage} {slot : SwapSlot} :
      vm.cell? (.containing pid fault.addr) = some ⟨false, some page⟩ →
      page.location = .swappedOut slot → (fault.write = true → page.writable = true) →
      NeedsFrame vm pid fault

omit [ValidReplacement π] [CompletePlacement φ] [ValidPlacement φ] [GentleReplacement π] in
theorem resolveFault_of_grows {fault : FaultReport} (huser : inUserSpace fault.addr = true)
    (hvacant : vm.cell? (.containing pid fault.addr) = none)
    (hgrows : fault.growsStack vm.stackLimit = true) :
    vm.resolveFault pid fault = (do
      match ← vm.mapZero pid fault.addr .stack true with
      | (.error .alreadyMapped, mid) => return (.ok (), mid)
      | reply => return reply) := by
  simp only [resolveFault, huser, hvacant, extendStack, hgrows]
  rfl

omit [ValidReplacement π] [CompletePlacement φ] [ValidPlacement φ] [GentleReplacement π] in
theorem resolveFault_of_swappedOut {fault : FaultReport} {slot : SwapSlot}
    (huser : inUserSpace fault.addr = true)
    (hcell : vm.cell? (.containing pid fault.addr) = some ⟨false, some page⟩)
    (hlocation : page.location = .swappedOut slot)
    (hwritable : fault.write = true → page.writable = true) :
    vm.resolveFault pid fault = vm.bringBack (.containing pid fault.addr) page := by
  have hallowed : (fault.write && !page.writable) = false := by
    cases hwrite : fault.write with
    | false => rfl
    | true => simp [hwritable hwrite]
  have habsent : page.inMemory = false := by
    simp [AnonPage.inMemory, AnonPage.frame?, hlocation]
  simp only [resolveFault, huser, hcell, waitFor, bind, Except.bind, Bool.false_eq_true, if_false,
    hallowed, habsent]
  rfl

theorem Accounted.resolveFault_eq_evictFirst (h : vm.Accounted none) {fault : FaultReport}
    (huser : inUserSpace fault.addr = true) (hneeds : NeedsFrame vm pid fault)
    (hfull : vm.pool.allocatedCount = vm.pool.size) :
    vm.resolveFault pid fault = vm.evictFirst (·.resolveFault pid fault) := by
  cases hneeds with
  | grows hvacant hspace hgrows =>
      have hmappable : Mappable vm pid fault.addr := ⟨huser, hspace, hvacant⟩
      have habsent := hmappable.notInMemory
      rw [resolveFault_of_grows huser hvacant hgrows, h.mapZero_eq_evictFirst hmappable hfull]
      refine evictFirst_bind (fun error mid hevict => ?_) fun slot mid hevict => ?_
      · -- An eviction never complains that a page is there already.
        obtain ⟨choice, -, hattempt⟩ := h.searching.exists_attempt hevict
        have hinternal := hattempt.isInternal
        cases error <;> first | rfl | cases hinternal
      · have haside := h.aside_of_evictPage habsent hevict
        have hstill := haside.stackLimit ▸ hgrows
        exact (resolveFault_of_grows huser (haside.cell?_eq.trans hvacant) hstill).symm
  | swappedOut hcell hlocation hwritable =>
      have habsent := notInMemory_of_swappedOut hcell hlocation
      rw [resolveFault_of_swappedOut huser hcell hlocation hwritable,
        h.bringBack_eq_evictFirst hcell hlocation hfull]
      refine evictFirst_congr fun slot mid hevict => ?_
      have hmid := (h.aside_of_evictPage habsent hevict).cell?_eq.trans hcell
      exact (resolveFault_of_swappedOut huser hmid hlocation hwritable).symm

end DemandPaging.VirtualMemory
